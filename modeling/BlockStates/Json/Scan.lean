import BlockStates.Json.Fault

/-!
# Blanks and words

The smallest parts of a JSON text.  Each scan takes characters from the front
of a text and leaves a suffix of it.
-/

set_option autoImplicit false

namespace BlockStates.Json

def isBlank (character : Char) : Bool :=
  character == ' ' || character == '\n' || character == '\t' || character == '\r'

def skipBlanks (text : List Char) : List Char :=
  text.dropWhile isBlank

theorem skipBlanks_suffix (text : List Char) : skipBlanks text <:+ text :=
  List.dropWhile_suffix isBlank

def skipDigits (text : List Char) : List Char :=
  text.dropWhile Char.isDigit

theorem skipDigits_suffix (text : List Char) : skipDigits text <:+ text :=
  List.dropWhile_suffix Char.isDigit

def skipWord : List Char → List Char → Except Fault (List Char)
  | [], text => .ok text
  | _ :: _, [] => .error (.atEnd .endInValue)
  | expected :: word, next :: rest =>
    if next = expected then skipWord word rest
    else .error (.onFirst .expectedWord (next :: rest))

theorem skipWord_suffix {word text rest : List Char} (success : skipWord word text = .ok rest) :
    rest <:+ text := by
  fun_induction skipWord word text with
  | case1 text => cases success; exact List.suffix_refl _
  | case2 => cases success
  | case3 word next tail restSuffix =>
    exact (restSuffix success).trans (List.suffix_cons next tail)
  | case4 => cases success

end BlockStates.Json
