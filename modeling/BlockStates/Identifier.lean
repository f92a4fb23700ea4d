import BlockStates.Text.UpperCase

/-!
# Identifiers

How a raw name of the catalog becomes the name of a generated type or variant,
and which names can be used at all.
-/

set_option autoImplicit false

namespace BlockStates.Identifier

def isSeparator (character : Char) : Bool :=
  character == '_' || character == ':' || character == '-'

/-- Writes segments one after the other, each with its first character in upper
case.  `opening` tells whether the next character is the first of its segment. -/
def join (opening : Bool) : List Char → List Char
  | [] => []
  | character :: rest =>
    if isSeparator character then join true rest
    else if opening then Text.upperCase character ++ join false rest
    else character :: join false rest

/-- The identifier that a raw name is given: its segments without the
separators, each starting in upper case and keeping the case of the rest. -/
def ofRaw (raw : String) : String :=
  String.ofList (join true raw.toList)

def isWord : List Char → Bool
  | [] => false
  | first :: rest =>
    first.isAlpha && rest.all fun character => character.isAlphanum || character == '_'

/-- Whether a name can name a generated type or variant.  `Self` is the one
word that the generated code keeps for itself. -/
def isUsable (identifier : String) : Bool :=
  isWord identifier.toList && identifier != "Self"

end BlockStates.Identifier
