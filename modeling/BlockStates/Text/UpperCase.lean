import BlockStates.Text.UpperCaseTable

/-!
# Upper case

The full upper-case form of a character.  It may have more than one character:
`ß` becomes `SS`.
-/

set_option autoImplicit false

namespace BlockStates.Text

def CaseRun.covers (run : CaseRun) (code : Nat) : Bool :=
  run.first ≤ code && code ≤ run.last && (code - run.first) % run.step == 0

def upperCaseByTable (character : Char) : List Char :=
  match upperCaseExpansions.find? (·.1 == character.toNat) with
  | some (_, codes) => codes.map Char.ofNat
  | none =>
    match upperCaseRuns.find? (·.covers character.toNat) with
    | some run => [Char.ofNat (run.image + (character.toNat - run.first))]
    | none => [character]

/-- The full upper-case form of a character; a character without one stands for
itself. -/
def upperCase (character : Char) : List Char :=
  if character.toNat < 0x80 then [character.toUpper] else upperCaseByTable character

end BlockStates.Text
