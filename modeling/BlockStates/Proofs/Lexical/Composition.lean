import BlockStates.Proofs.Lexical.Scan

/-!
# Scans of composed texts

A scan forgets what lies behind it once it is in code again, so that texts which
end in code are scanned piece by piece.  A text may also end in a word; it does
no harm as long as the next character ends the word.  `Scans` and `EndsOpen` are
the two kinds of text, and both say along with the tokens which brackets are
open behind them.
-/

set_option autoImplicit false

namespace BlockStates.Lexical

def tokensOf (text : String) : List Token :=
  (scan text).1

/-- A text that is scanned into these tokens and ends in code.  It is given the
brackets that are open before it and those that are open behind it, the
innermost first. -/
structure Scans (before : List Char) (text : String) (tokens : List Token)
    (behind : List Char) : Prop where
  scan_eq : scan text = (tokens, .code)
  nested : nest before tokens = some behind

instance (before : List Char) (text : String) (tokens : List Token) (behind : List Char) :
    Decidable (Scans before text tokens behind) :=
  decidable_of_iff (scan text = (tokens, .code) ∧ nest before tokens = some behind)
    ⟨fun both => ⟨both.1, both.2⟩, fun scans => ⟨scans.scan_eq, scans.nested⟩⟩

abbrev ScansFixed (before : List Char) (text : String) (behind : List Char) : Prop :=
  Scans before text (tokensOf text) behind

/-- A long text, of which the characters are to be spelled out before it is
evaluated. -/
theorem ScansFixed.of_run {before behind : List Char} {text : String}
    (ends : (Mode.code.run text.toList).2 = .code ∧
      nest before (Mode.code.run text.toList).1 = some behind) :
    ScansFixed before text behind :=
  ⟨Prod.ext rfl ends.1, ends.2⟩

def endsWord (character : Char) : Bool :=
  !isWordCharacter character && character ∉ ['"', '\x27', '#']

/-- A text that is scanned into these tokens, all brackets closed, provided that
the text behind it starts with a character that ends a word. -/
structure EndsOpen (text : String) (tokens : List Token) : Prop where
  run_append : ∀ following : List Char, following.head?.any endsWord = true →
    Mode.code.run (text.toList ++ following) =
      (tokens ++ (Mode.code.run following).1, (Mode.code.run following).2)
  balanced : Balanced tokens

namespace Scans

variable {before between behind : List Char} {text second last : String}
  {tokens secondTokens lastTokens : List Token}

theorem empty : Scans [] "" [] [] :=
  ⟨rfl, rfl⟩

theorem run_eq (scans : Scans before text tokens behind) :
    Mode.code.run text.toList = (tokens, .code) :=
  scans.scan_eq

theorem append (first : Scans before text tokens between)
    (following : Scans between second secondTokens behind) :
    Scans before (text ++ second) (tokens ++ secondTokens) behind where
  scan_eq := by
    rw [scan, String.toList_append, Mode.run_append, first.run_eq, following.run_eq]
  nested := by
    rw [nest_append, first.nested]
    exact following.nested

/-- A text that closes what it opens can stand inside of any brackets. -/
theorem appendClosed (first : Scans before text tokens between)
    (closed : Scans [] second secondTokens []) :
    Scans before (text ++ second) (tokens ++ secondTokens) between :=
  first.append ⟨closed.scan_eq, nest_frame closed.nested between⟩

/-- An open end is closed by the text behind it. -/
theorem appendOpen (first : Scans before text tokens between)
    (inner : EndsOpen second secondTokens) (ended : last.toList.head?.any endsWord = true)
    (following : Scans between last lastTokens behind) :
    Scans before (text ++ second ++ last) (tokens ++ secondTokens ++ lastTokens) behind where
  scan_eq := by
    rw [scan, String.toList_append, String.toList_append, List.append_assoc, Mode.run_append,
      first.run_eq, inner.run_append _ ended, following.run_eq, List.append_assoc]
  nested := by
    have around : nest between secondTokens = some between := nest_frame inner.balanced between
    rw [nest_append, nest_append, first.nested, Option.bind_some, around, Option.bind_some]
    exact following.nested

theorem join {Item : Type} {items : List Item} {textOf : Item → String}
    {tokensFor : Item → List Token}
    (each : ∀ item ∈ items, Scans [] (textOf item) (tokensFor item) []) :
    Scans [] (String.join (items.map textOf)) (items.flatMap tokensFor) [] := by
  induction items with
  | nil => exact empty
  | cons item rest restScans =>
    obtain ⟨isScanned, restEach⟩ := List.forall_mem_cons.mp each
    rw [List.map_cons, String.join_cons, List.flatMap_cons]
    exact isScanned.append (restScans restEach)

end Scans

namespace EndsOpen

variable {text second last : String} {tokens secondTokens lastTokens : List Token}
  {behind : List Char}

theorem of_scans (closed : Scans [] text tokens []) : EndsOpen text tokens where
  run_append := by
    intro following _
    rw [Mode.run_append, closed.run_eq]
  balanced := closed.nested

theorem append (first : Scans [] text tokens []) (inner : EndsOpen second secondTokens) :
    EndsOpen (text ++ second) (tokens ++ secondTokens) where
  run_append := by
    intro following ended
    rw [String.toList_append, List.append_assoc, Mode.run_append, first.run_eq,
      inner.run_append following ended, List.append_assoc]
  balanced := by
    rw [Balanced, nest_append, first.nested]
    exact inner.balanced

theorem appendScans (inner : EndsOpen text tokens) (ended : last.toList.head?.any endsWord = true)
    (following : Scans [] last lastTokens behind) :
    Scans [] (text ++ last) (tokens ++ lastTokens) behind := by
  have scans := Scans.empty.appendOpen inner ended following
  rwa [String.empty_append, List.nil_append] at scans

/-- Texts with open ends, parted by a fixed text that ends words. -/
theorem intercalate {Item : Type} {items : List Item} {textOf : Item → String}
    {tokensFor : Item → List Token} {separator : String} {marks : List Token}
    (ended : separator.toList.head?.any endsWord = true) (parts : Scans [] separator marks [])
    (each : ∀ item ∈ items, EndsOpen (textOf item) (tokensFor item)) :
    EndsOpen (String.intercalate separator (items.map textOf))
      (marks.intercalate (items.map tokensFor)) := by
  induction items with
  | nil => exact of_scans .empty
  | cons item rest restOpen =>
    obtain ⟨isOpen, restEach⟩ := List.forall_mem_cons.mp each
    cases rest with
    | nil => simpa using isOpen
    | cons next later =>
      have whole := append (isOpen.appendScans ended parts) (restOpen restEach)
      rw [List.map_cons, List.map_cons, String.intercalate_cons_cons, List.map_cons,
        List.map_cons, List.intercalate_cons_cons]
      exact whole

end EndsOpen

end BlockStates.Lexical
