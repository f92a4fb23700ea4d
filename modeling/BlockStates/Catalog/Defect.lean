import BlockStates.Catalog.Reading

/-!
# Defects of a catalog

What can make a catalog unfit for generation, with the wording of each defect.
-/

set_option autoImplicit false

namespace BlockStates

/-- Why no types can be generated from a catalog. -/
inductive Defect where
  /-- The catalog could not be read in the first place. -/
  | unreadable (error : ReadError)
  | emptyProperty (property : String)
  /-- A property with a value of another kind than its first one. -/
  | mixedKinds (property value : String)
  /-- A value of a numeric property that is no number of one byte. -/
  | invalidNumber (property value : String)
  | emptyStates (block : String)
  /-- A state that gives a declared property no value. -/
  | missingAssignment (block property : String) (id : UInt16)
  /-- Two states of a block that assign the same values. -/
  | duplicateState (block : String) (first second : UInt16)
  /-- A state that gives a value to a property the block does not declare. -/
  | undeclaredAssignment (block property : String) (id : UInt16)
  /-- A state that uses a value the block does not declare. -/
  | unknownValue (block property value : String) (id : UInt16)
  /-- A raw name that becomes no usable identifier. -/
  | invalidIdentifier (raw identifier : String)
  /-- Two raw names that become one identifier. -/
  | identifierCollision (scope identifier first second : String)
  deriving DecidableEq, Repr

def Defect.message : Defect → String
  | .unreadable error => "parse error: " ++ error.message
  | .emptyProperty property => s!"property '{property}' has no values"
  | .mixedKinds property value =>
    s!"property '{property}' mixes numeric and symbolic values (offending value '{value}')"
  | .invalidNumber property value =>
    s!"invalid numeric value '{value}' for property '{property}' (expected 0..=255)"
  | .emptyStates block => s!"block '{block}' has no states"
  | .missingAssignment block property id =>
    s!"state {id.toNat} of block '{block}' does not assign property '{property}'"
  | .duplicateState block first second =>
    s!"states {first.toNat} and {second.toNat} of block '{block}' have the same property values"
  | .undeclaredAssignment block property id =>
    s!"state {id.toNat} of block '{block}' assigns undeclared property '{property}'"
  | .unknownValue block property value id =>
    s!"state {id.toNat} of block '{block}' uses unknown value '{value}' for property '{property}'"
  | .invalidIdentifier raw identifier =>
    s!"'{raw}' sanitizes to '{identifier}', which is not a valid identifier"
  | .identifierCollision scope identifier first second =>
    s!"{scope}: '{first}' and '{second}' both map to identifier '{identifier}'"

end BlockStates
