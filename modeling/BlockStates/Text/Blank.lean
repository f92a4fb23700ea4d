/-!
# Blank space and lines

White space as Unicode defines it, trimming by it, and the lines of a text.
-/

set_option autoImplicit false

namespace BlockStates.Text

def isWhiteSpace (character : Char) : Bool :=
  let code := character.toNat
  (0x09 ≤ code && code ≤ 0x0D) || code == 0x20 || code == 0x85 || code == 0xA0 ||
    code == 0x1680 || (0x2000 ≤ code && code ≤ 0x200A) || code == 0x2028 ||
    code == 0x2029 || code == 0x202F || code == 0x205F || code == 0x3000

def trimStart (text : List Char) : List Char :=
  text.dropWhile isWhiteSpace

def trim (text : List Char) : List Char :=
  (trimStart (trimStart text).reverse).reverse

/-- The lines of a text.  A line ends before a line feed, or before a carriage
return that a line feed follows; what follows the last line feed is a line only
if it is not empty. -/
def lines : List Char → List (List Char)
  | [] => []
  | '\n' :: rest => [] :: lines rest
  | '\r' :: '\n' :: rest => [] :: lines rest
  | character :: rest =>
    match lines rest with
    | [] => [[character]]
    | line :: later => (character :: line) :: later

end BlockStates.Text
