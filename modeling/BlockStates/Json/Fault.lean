import BlockStates.Decimal.Shortest
import BlockStates.Text.Quoted

/-!
# Faults of a JSON text

What can be wrong with a JSON text that is read for a typed value, the wording
of each fault, and the place in the text at which it is reported.
-/

set_option autoImplicit false

namespace BlockStates.Json

/-- A number as written: whole numbers of 64 bits are kept exactly, every other
number becomes a binary one. -/
inductive Number where
  | whole (value : Int)
  | binary (negative : Bool) (magnitude : Decimal.Binary64)
  deriving DecidableEq, Repr

inductive Found where
  | null
  | boolean (value : Bool)
  | number (value : Number)
  | text (value : String)
  | list
  | object
  deriving DecidableEq, Repr

inductive Wanted where
  | map
  | block
  | state
  | list
  | text
  | id
  deriving DecidableEq, Repr

inductive Cause where
  | endInValue
  | endInObject
  | endInList
  | endInText
  | expectedValue
  | expectedColon
  | expectedCommaOrBrace
  | expectedCommaOrBracket
  | expectedWord
  | keyNotText
  | trailingComma
  | trailingCharacters
  | invalidNumber
  | numberOutOfRange
  | invalidEscape
  | loneSurrogate
  | unfinishedSurrogatePair
  | controlCharacter
  | wrongType (found : Found) (wanted : Wanted)
  | wrongNumber (found : Int) (wanted : Wanted)
  | wrongLength (length : Nat) (wanted : Wanted)
  | missingField (name : String)
  | duplicateField (name : String)
  deriving DecidableEq, Repr

/-- How a fault is classed: the text ends too early, is not JSON, or is JSON of
another shape than the one wanted. -/
inductive Category where
  | early
  | grammar
  | shape
  deriving DecidableEq, Repr

def Cause.category : Cause → Category
  | .endInValue | .endInObject | .endInList | .endInText => .early
  | .wrongType .. | .wrongNumber .. | .wrongLength .. | .missingField .. | .duplicateField .. =>
    .shape
  | _ => .grammar

/-- A decimal in the notation of messages: positional from `10 ^ -5` up to
below `10 ^ 16`, always with a point, and with a signed exponent elsewhere. -/
def decimalText (number : Decimal.Scientific) : List Char :=
  let digits := number.digits
  let exponent := number.exponent
  if exponent < -5 ∨ 15 < exponent then
    let mantissa :=
      match digits with
      | [] => []
      | [first] => [first]
      | first :: later => first :: '.' :: later
    let sign := if exponent < 0 then '-' else '+'
    mantissa ++ 'e' :: sign :: Nat.toDigits 10 exponent.natAbs
  else if exponent < 0 then
    '0' :: '.' :: List.replicate (exponent.natAbs - 1) '0' ++ digits
  else
    let whole := exponent.toNat + 1
    if digits.length ≤ whole then
      digits ++ List.replicate (whole - digits.length) '0' ++ ['.', '0']
    else digits.take whole ++ '.' :: digits.drop whole

def Number.describe : Number → String
  | .whole value => s!"integer `{value}`"
  | .binary negative magnitude =>
    let sign := if negative then "-" else ""
    let digits := String.ofList (decimalText (Decimal.shortest magnitude))
    s!"floating point `{sign}{digits}`"

def Found.describe : Found → String
  | .null => "null"
  | .boolean true => "boolean `true`"
  | .boolean false => "boolean `false`"
  | .number value => value.describe
  | .text value => "string " ++ Text.quoted value
  | .list => "sequence"
  | .object => "map"

def Wanted.describe : Wanted → String
  | .map => "a map"
  | .block => "struct RawBlock"
  | .state => "struct StateEntry"
  | .list => "a sequence"
  | .text => "a string"
  | .id => "u16"

def Cause.message : Cause → String
  | .endInValue => "EOF while parsing a value"
  | .endInObject => "EOF while parsing an object"
  | .endInList => "EOF while parsing a list"
  | .endInText => "EOF while parsing a string"
  | .expectedValue => "expected value"
  | .expectedColon => "expected `:`"
  | .expectedCommaOrBrace => "expected `,` or `\x7d`"
  | .expectedCommaOrBracket => "expected `,` or `]`"
  | .expectedWord => "expected ident"
  | .keyNotText => "key must be a string"
  | .trailingComma => "trailing comma"
  | .trailingCharacters => "trailing characters"
  | .invalidNumber => "invalid number"
  | .numberOutOfRange => "number out of range"
  | .invalidEscape => "invalid escape"
  | .loneSurrogate => "lone leading surrogate in hex escape"
  | .unfinishedSurrogatePair => "unexpected end of hex escape"
  | .controlCharacter =>
    "control character (\\u0000-\\u001F) found while parsing a string"
  | .wrongType found wanted => s!"invalid type: {found.describe}, expected {wanted.describe}"
  | .wrongNumber found wanted => s!"invalid value: integer `{found}`, expected {wanted.describe}"
  | .wrongLength length wanted =>
    s!"invalid length {length}, expected {wanted.describe} with 2 elements"
  | .missingField name => s!"missing field `{name}`"
  | .duplicateField name => s!"duplicate field `{name}`"

def byteLength : List Char → Nat
  | [] => 0
  | character :: rest => character.utf8Size + byteLength rest

/-- A fault and the number of bytes of the text that lie behind the point at
which it is reported. -/
structure Fault where
  cause : Cause
  behind : Nat
  deriving DecidableEq, Repr

def Fault.before (cause : Cause) (rest : List Char) : Fault :=
  ⟨cause, byteLength rest⟩

/-- A fault reported behind the first byte of the rest of a text, or at the end
of the text. -/
def Fault.onFirst (cause : Cause) (rest : List Char) : Fault :=
  ⟨cause, byteLength rest - 1⟩

def Fault.atEnd (cause : Cause) : Fault :=
  ⟨cause, 0⟩

/-- A place in a text: the line, counted from 1, and the bytes of that line in
front of the place. -/
structure Place where
  line : Nat
  column : Nat
  deriving DecidableEq, Repr

def Place.advance (place : Place) : List Char → Nat → Place
  | _, 0 => place
  | [], _ + 1 => place
  | character :: rest, bytes@(_ + 1) =>
    if character = '\n' then Place.advance ⟨place.line + 1, 0⟩ rest (bytes - 1)
    else
      Place.advance ⟨place.line, place.column + min bytes character.utf8Size⟩ rest
        (bytes - character.utf8Size)

structure Error where
  cause : Cause
  place : Place
  deriving DecidableEq, Repr

def Fault.locate (fault : Fault) (text : List Char) : Error :=
  ⟨fault.cause, Place.advance ⟨1, 0⟩ text (byteLength text - fault.behind)⟩

def Error.message (error : Error) : String :=
  s!"{error.cause.message} at line {error.place.line} column {error.place.column}"

end BlockStates.Json
