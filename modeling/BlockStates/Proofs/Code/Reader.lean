import BlockStates.Declaration.Lookup
import BlockStates.Proofs.Code.Trees
import BlockStates.Proofs.Lexical.Literals

/-!
# Reading code

A reader of generated code that knows nothing of how code is written: it follows
the grammar of the language, as far as units need it.  Items, bodies of look-ups,
patterns and expressions are told from the trees of the code alone, literals by
what they stand for.  What is outside of this part of the language is not read at
all.
-/

set_option autoImplicit false

namespace BlockStates.Code

open BlockStates.Code.Tree

/-! ## Expressions and patterns -/

@[match_pattern]
abbrev pathMark : Tree := .operator ':' ':'

@[match_pattern]
abbrev arrow : Tree := .operator '=' '>'

/-- Whether a number is written in decimal digits, without a base or a type. -/
def isDecimal (number : String) : Bool :=
  number.toList.all Char.isDigit

def value? : List Tree → Option ValueExpr
  | [word typeName, group '(' [number digits]] =>
    if isDecimal digits then some (.wrapped typeName digits) else none
  | [word typeName, pathMark, word variantName] => some (.variant typeName variantName)
  | _ => none

def state? : List Tree → Option StateExpr
  | [word typeName] => some (.bare typeName)
  | [word typeName, group '(' arguments] => do
    return .applied typeName (← (parts arguments).mapM value?)
  | _ => none

/-- A pattern.  A name alone is none here: it could also bind the value. -/
def pattern? : List Tree → Option Pattern
  | [number digits] => if isDecimal digits then some (.numbers [digits]) else none
  | [word _] => none
  | trees =>
    match value? trees with
    | some expr => some (.values [expr])
    | none => (state? trees).map .state

/-! ## Bodies of look-ups -/

def id? : Tree → Option UInt16
  | number digits =>
    let value := decimalValue digits.toList
    if isDecimal digits && value < 65536 then some (UInt16.ofNat value) else none
  | _ => none

def text? : Tree → Option String
  | literal written => Lexical.meaning? written
  | _ => none

def scrutinee? : List Tree → Option Scrutinee
  | [word "self"] => some .whole
  | [word "self", mark '.', number "0"] => some .field
  | [word "self", mark '.', number "0", mark '.', number "0"] => some .number
  | _ => none

/-- The message of an arm that takes every value and must not be reached. -/
def lastArm? : List Tree → Option String
  | [word "_", arrow, word "unreachable", mark '!',
      group '(' [literal message, mark ',', word "self"]] => Lexical.meaning? message
  | _ => none

section Bodies

variable {Result : Type} (result? : Tree → Option Result)

def arm? (trees : List Tree) : Option (Pattern × Result) :=
  match trees.reverse with
  | result :: arrow :: pattern => do return (← pattern? pattern.reverse, ← result? result)
  | _ => none

/-- Arms up to the one for all other values, which has to be the last. -/
def arms? : List (List Tree) → Option (List (Pattern × Result) × String)
  | [] => none
  | [last] => do return ([], ← lastArm? last)
  | first :: rest => do
    let (arms, message) ← arms? rest
    return ((← arm? result? first) :: arms, message)

def body? : List Tree → Option (Body Result)
  | [result] => (result? result).map .constant
  | word "match" :: rest =>
    match rest.reverse with
    | group '\x7b' arms :: scrutinee => do
      let (arms, message) ← arms? result? (parts arms)
      return .selection (← scrutinee? scrutinee.reverse) arms message
    | _ => none
  | _ => none

end Bodies

/-! ## Items -/

def byteType : String := "u8"

inductive Item where
  | imports (path names : List String)
  /-- A type with fields of these types; without fields it has a single value. -/
  | struct (typeName : String) (fieldTypes : List String)
  | enumeration (typeName : String) (variants : List String)
  /-- The statement that a type is a property type. -/
  | property (typeName : String)
  | implementation (implementation : Implementation)
  | table (entries : List TableEntry)
  deriving DecidableEq, Repr

def name? : List Tree → Option String
  | [word name] => some name
  | _ => none

def fieldType? : List Tree → Option String
  | [word "pub", word fieldType] => some fieldType
  | _ => none

def entry? : List Tree → Option TableEntry
  | [group '(' line] =>
    match parts line with
    | [[pathMark, word "std", pathMark, word "boxed", pathMark, word "Box", pathMark, word "new",
          group '(' expr, word "as", pathMark, word "std", pathMark, word "boxed", pathMark,
          word "Box", mark '<', word "dyn", word "BlockState", mark '>'], [id], [name]] => do
      return ⟨← state? expr, ← id? id, ← text? name⟩
    | _ => none
  | _ => none

/-- Whether an attribute leaves the item behind it as it is. -/
def isPlain : List Tree → Bool
  | word name :: _ => name ∈ ["allow", "derive", "must_use", "repr"]
  | _ => false

mutual

def items? : List Tree → Option (List Item)
  | [] => some []
  | mark '#' :: group '[' content :: rest => if isPlain content then items? rest else none
  | word "use" :: rest => imports? [] rest
  | word "pub" :: word "struct" :: word typeName :: mark ';' :: rest => do
    return .struct typeName [] :: (← items? rest)
  | word "pub" :: word "struct" :: word typeName :: group '(' (field :: fields) :: mark ';' ::
      rest => do
    let fieldTypes ← (parts (field :: fields)).mapM fieldType?
    return .struct typeName fieldTypes :: (← items? rest)
  | word "pub" :: word "enum" :: word typeName :: group '\x7b' variants :: rest => do
    let variants ← (parts variants).mapM name?
    return .enumeration typeName variants :: (← items? rest)
  | word "impl" :: word "BlockProperty" :: word "for" :: word typeName :: group '\x7b' [] ::
      rest => do
    return .property typeName :: (← items? rest)
  | word "impl" :: word "BlockState" :: word "for" :: word typeName :: group '\x7b'
        [word "fn", word "get_id", group '(' [mark '&', word "self"], operator '-' '>',
          word "u16", group '\x7b' idBody,
        word "fn", word "get_name", group '(' [mark '&', word "self"], operator '-' '>',
          mark '&', lifetime "\x27static", word "str", group '\x7b' nameBody] :: rest => do
    let getId ← body? id? idBody
    let getName ← body? text? nameBody
    return .implementation ⟨typeName, getId, getName⟩ :: (← items? rest)
  | word "pub" :: word "fn" :: word "all_block_states" :: group '(' [] :: operator '-' '>' ::
      pathMark :: word "std" :: pathMark :: word "vec" :: pathMark :: word "Vec" :: mark '<' ::
      group '(' [pathMark, word "std", pathMark, word "boxed", pathMark, word "Box", mark '<',
        word "dyn", word "BlockState", mark '>', mark ',', word "u16", mark ',', mark '&',
        lifetime "\x27static", word "str"] :: mark '>' ::
      group '\x7b' [word "vec", mark '!', group '[' lines] :: rest => do
    let entries ← (parts lines).mapM entry?
    return .table entries :: (← items? rest)
  | _ => none

/-- The items from a point inside of the path of an import on. -/
def imports? (path : List String) : List Tree → Option (List Item)
  | word name :: pathMark :: group '\x7b' names :: mark ';' :: rest => do
    let names ← (parts names).mapM name?
    return .imports (path ++ [name]) names :: (← items? rest)
  | word name :: pathMark :: rest => imports? (path ++ [name]) rest
  | _ => none

end

end BlockStates.Code

namespace BlockStates

/-! ## Units of code -/

/-- What a reader of code finds. -/
abbrev Code := List Code.Item

namespace Code

open BlockStates.Code.Tree

def read? (text : String) : Option Code :=
  match Lexical.scan text with
  | (tokens, .code) => (trees? tokens).bind items?
  | _ => none

/-- Tokens that are read as these items wherever they stand between items. -/
def Reads (tokens : List Lexical.Token) (code : Code) : Prop :=
  ∃ trees, GrowsInto tokens trees ∧
    ∀ rest, items? (trees ++ rest) = (items? rest).map fun later => code ++ later

namespace Reads

variable {first second : List Lexical.Token} {firstCode secondCode : Code}

theorem read?_eq {text : String} (reads : Reads first firstCode)
    (scanned : Lexical.scan text = (first, .code)) : read? text = some firstCode := by
  obtain ⟨trees, grows, read⟩ := reads
  have all := read []
  have none : items? [] = some [] := rfl
  rw [List.append_nil, none, Option.map_some, List.append_nil] at all
  simp [read?, scanned, grows.trees?_eq, all]

theorem nil : Reads [] [] :=
  ⟨[], .nil, fun rest => by simp⟩

theorem append (firstReads : Reads first firstCode) (secondReads : Reads second secondCode) :
    Reads (first ++ second) (firstCode ++ secondCode) := by
  obtain ⟨firstTrees, firstGrows, readFirst⟩ := firstReads
  obtain ⟨secondTrees, secondGrows, readSecond⟩ := secondReads
  refine ⟨firstTrees ++ secondTrees, firstGrows.append secondGrows, fun rest => ?_⟩
  rw [List.append_assoc, readFirst, readSecond, Option.map_map]
  simp [Function.comp_def]

theorem flatMap {Item : Type} {items : List Item} {tokensFor : Item → List Lexical.Token}
    {codeFor : Item → Code} (each : ∀ item ∈ items, Reads (tokensFor item) (codeFor item)) :
    Reads (items.flatMap tokensFor) (items.flatMap codeFor) := by
  induction items with
  | nil => exact nil
  | cons item rest restReads =>
    obtain ⟨reads, restEach⟩ := List.forall_mem_cons.mp each
    exact reads.append (restReads restEach)

/-- Tokens without trees, such as comments and blanks, are passed over. -/
theorem blank (grows : GrowsInto first []) : Reads first [] :=
  ⟨[], grows, fun rest => by simp⟩

theorem skip {content : List Tree} (grows : GrowsInto first [mark '#', group '[' content])
    (plain : isPlain content = true) : Reads first [] := by
  refine ⟨_, grows, fun rest => ?_⟩
  have read : items? ([mark '#', group '[' content] ++ rest) =
      if isPlain content then items? rest else none := rfl
  rw [read, if_pos plain]
  simp

theorem item {trees : List Tree} {item : Item} (grows : GrowsInto first trees)
    (read : ∀ rest, items? (trees ++ rest) = (items? rest).map fun later => item :: later) :
    Reads first [item] :=
  ⟨trees, grows, read⟩

end Reads

end Code

end BlockStates
