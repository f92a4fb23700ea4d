import BlockStates.Text.InvisibleTable

/-!
# Quoted text

A text written as a string literal of the generated code: between double
quotes, with a backslash before what would end or break the literal and the
code point in place of a character that does not show.
-/

set_option autoImplicit false

namespace BlockStates.Text

def isInvisible (character : Char) : Bool :=
  let code := character.toNat
  code < 0x20 ||
    (0x7F ≤ code && invisibleRanges.any fun range => range.1 ≤ code && code ≤ range.2)

def hexDigits (code : Nat) : List Char :=
  Nat.toDigits 16 code

def escaped (character : Char) : List Char :=
  if character = '\x00' then ['\\', '0']
  else if character = '\t' then ['\\', 't']
  else if character = '\r' then ['\\', 'r']
  else if character = '\n' then ['\\', 'n']
  else if character = '"' then ['\\', '"']
  else if character = '\\' then ['\\', '\\']
  else if isInvisible character then
    ['\\', 'u', '{'] ++ hexDigits character.toNat ++ ['}']
  else [character]

def quoted (text : String) : String :=
  String.ofList ('"' :: text.toList.flatMap escaped ++ ['"'])

end BlockStates.Text
