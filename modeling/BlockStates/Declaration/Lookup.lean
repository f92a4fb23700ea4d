import BlockStates.Declaration.Basic
import BlockStates.Catalog.Check

/-!
# Look-ups

What the look-ups of a block's type answer for its values.  The arms of a
look-up are tried in order; a value that matches none is no state of the catalog.
A pattern is compared with all that it names: the scrutinee, the types and the
variants.
-/

set_option autoImplicit false

namespace BlockStates

inductive FieldValue where
  | number (value : UInt8)
  | variant (name : String)
  deriving DecidableEq, Repr

structure Field where
  typeName : String
  value : FieldValue
  deriving DecidableEq, Repr

def matchesNumber (digits : String) (value : UInt8) : Bool :=
  decimalValue digits.toList == value.toNat

def ValueExpr.matches (expr : ValueExpr) (field : Field) : Bool :=
  match expr, field.value with
  | .wrapped typeName digits, .number value =>
    typeName == field.typeName && matchesNumber digits value
  | .variant typeName variantName, .variant name =>
    typeName == field.typeName && variantName == name
  | _, _ => false

def StateExpr.matches (expr : StateExpr) (typeName : String) (fields : List Field) : Bool :=
  match expr with
  | .bare named => named == typeName && fields.isEmpty
  | .applied named exprs =>
    named == typeName && exprs.length == fields.length &&
      (exprs.zip fields).all fun pair => pair.1.matches pair.2

def Pattern.matches (pattern : Pattern) (scrutinee : Scrutinee) (typeName : String)
    (fields : List Field) : Bool :=
  match scrutinee, pattern, fields with
  | .number, .numbers parts, ⟨_, .number value⟩ :: _ => matchesNumber (String.join parts) value
  | .field, .values [expr], field :: _ => expr.matches field
  | .whole, .state expr, fields => expr.matches typeName fields
  | _, _, _ => false

inductive Body (Result : Type) where
  | constant (result : Result)
  /-- Arms with their results, and the message of the last arm, which stands for
  all other values and must not be reached. -/
  | selection (scrutinee : Scrutinee) (arms : List (Pattern × Result)) (message : String)
  deriving DecidableEq, Repr

def Body.answer {Result : Type} (body : Body Result) (typeName : String) (fields : List Field) :
    Except String Result :=
  match body with
  | .constant result => .ok result
  | .selection scrutinee arms message =>
    match arms.find? fun arm => arm.1.matches scrutinee typeName fields with
    | some arm => .ok arm.2
    | none => .error message

structure Implementation where
  typeName : String
  getId : Body UInt16
  getName : Body String
  deriving DecidableEq, Repr

namespace Implementation

def id (implementation : Implementation) (fields : List Field) : Except String UInt16 :=
  implementation.getId.answer implementation.typeName fields

def name (implementation : Implementation) (fields : List Field) : Except String String :=
  implementation.getName.answer implementation.typeName fields

end Implementation

namespace BlockDeclaration

def typeName : BlockDeclaration → String
  | .fixed _ typeName _ _ => typeName
  | .matching _ typeName _ _ _ => typeName

def fieldTypes : BlockDeclaration → List String
  | .fixed .. => []
  | .matching _ _ fieldTypes _ _ => fieldTypes

/-- The message of the last arm, in which the braces stand for the value. -/
def unknownState : String := "invalid block state: \x7b:?\x7d"

def implementation : BlockDeclaration → Implementation
  | .fixed _ typeName id name => ⟨typeName, .constant id, .constant name⟩
  | .matching _ typeName _ scrutinee arms =>
    { typeName := typeName
      getId := .selection scrutinee (arms.map fun arm => (arm.pattern, arm.id)) unknownState
      getName := .selection scrutinee (arms.map fun arm => (arm.pattern, arm.name)) unknownState }

end BlockDeclaration

def ValueExpr.field : ValueExpr → Field
  | .wrapped typeName digits => ⟨typeName, .number (UInt8.ofNat (decimalValue digits.toList))⟩
  | .variant typeName variantName => ⟨typeName, .variant variantName⟩

namespace StateExpr

def typeName : StateExpr → String
  | .bare typeName => typeName
  | .applied typeName _ => typeName

def fields : StateExpr → List Field
  | .bare _ => []
  | .applied _ exprs => exprs.map ValueExpr.field

end StateExpr

structure BlockValue where
  declaration : BlockDeclaration
  fields : List FieldValue
  deriving DecidableEq

namespace FieldValue

/-- How a field's value is shown: a variant by its name, a number inside its
type. -/
def text (typeName : String) : FieldValue → String
  | .number value => s!"{typeName}({value.toNat})"
  | .variant name => name

/-- The byte that stands for a field's value: the number, or the position of
the variant in its enumeration. -/
def code (properties : List PropertyDeclaration) (typeName : String) : FieldValue → Nat
  | .number value => value.toNat
  | .variant name =>
    (properties.findSome? fun property =>
      match property with
      | .enumeration _ declared variants =>
        if declared = typeName then some (variants.idxOf name) else none
      | .wrapper .. => none).getD 0

end FieldValue

namespace BlockValue

def text (value : BlockValue) : String :=
  match value.declaration with
  | .fixed _ typeName _ _ => typeName
  | .matching _ typeName fieldTypes _ _ =>
    let shown := List.zipWith FieldValue.text fieldTypes value.fields
    typeName ++ "(" ++ String.intercalate ", " shown ++ ")"

def unknownMessage (value : BlockValue) : String :=
  "internal error: entered unreachable code: invalid block state: " ++ value.text

def typedFields (value : BlockValue) : List Field :=
  List.zipWith Field.mk value.declaration.fieldTypes value.fields

def id (value : BlockValue) : Except String UInt16 :=
  (value.declaration.implementation.id value.typedFields).mapError fun _ => value.unknownMessage

def name (value : BlockValue) : Except String String :=
  (value.declaration.implementation.name value.typedFields).mapError fun _ => value.unknownMessage

def codes (properties : List PropertyDeclaration) (value : BlockValue) : List Nat :=
  List.zipWith (FieldValue.code properties) value.declaration.fieldTypes value.fields

end BlockValue

namespace Layout

def blockDeclaration? (layout : Layout) (typeName : String) : Option BlockDeclaration :=
  layout.blockDeclarations.find? fun declaration => declaration.typeName == typeName

def value? (layout : Layout) (typeName : String) (fields : List FieldValue) :
    Option BlockValue :=
  (layout.blockDeclaration? typeName).map fun declaration => ⟨declaration, fields⟩

def tableValues (layout : Layout) : List (BlockValue × UInt16 × String) :=
  layout.tableEntries.filterMap fun entry =>
    (layout.value? entry.expr.typeName (entry.expr.fields.map Field.value)).map fun value =>
      (value, entry.id, entry.name)

end Layout

end BlockStates
