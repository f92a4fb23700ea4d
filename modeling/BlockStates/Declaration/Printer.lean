import BlockStates.Declaration.Basic
import BlockStates.Text.Quoted

/-!
# Printed declarations

How declarations are written in the generated unit.  Each text ends with an
empty line, so that texts can be put one behind the other.
-/

set_option autoImplicit false

namespace BlockStates

def derivedTraits : String := "Debug, Clone, Copy, PartialEq, Eq, Hash"

def greatestVariantCount : Nat := 256

namespace PropertyDeclaration

def heading (rawName : String) : String :=
  s!"/// Values of the `{rawName}` property.\n#[derive({derivedTraits})]\n"

def marker (typeName : String) : String :=
  "impl BlockProperty for " ++ typeName ++ " \x7b\x7d\n\n"

def text : PropertyDeclaration → String
  | .wrapper rawName typeName =>
    heading rawName ++ s!"pub struct {typeName}(pub u8);\n\n" ++ marker typeName
  | .enumeration rawName typeName variants =>
    heading rawName ++
      (if variants.length ≤ greatestVariantCount then "#[repr(u8)]\n" else "") ++
      "pub enum " ++ typeName ++ " \x7b\n" ++
      String.join (variants.map fun variant => s!"    {variant},\n") ++
      "\x7d\n\n" ++ marker typeName

end PropertyDeclaration

def Scrutinee.text : Scrutinee → String
  | .number => "self.0.0"
  | .field => "self.0"
  | .whole => "self"

def Pattern.text : Pattern → String
  | .numbers parts => String.join parts
  | .values parts => String.join (parts.map ValueExpr.text)
  | .state expr => expr.text

namespace BlockDeclaration

def heading (rawName : String) : String :=
  s!"/// Block state of `{rawName}`.\n"

def idFunction (body : String) : String :=
  "    fn get_id(&self) -> u16 \x7b\n" ++ body ++ "    \x7d\n"

def nameFunction (body : String) : String :=
  "    fn get_name(&self) -> &'static str \x7b\n" ++ body ++ "    \x7d\n"

def lookups (typeName idBody nameBody : String) : String :=
  "impl BlockState for " ++ typeName ++ " \x7b\n" ++ idFunction idBody ++ "\n" ++
    nameFunction nameBody ++ "\x7d\n\n"

def lastArm : String :=
  "            _ => unreachable!(\"invalid block state: \x7b:?\x7d\", self),\n"

def selection (scrutinee : Scrutinee) (arms : List Arm) (result : Arm → String) : String :=
  "        match " ++ scrutinee.text ++ " \x7b\n" ++
    String.join (arms.map fun arm =>
      "            " ++ arm.pattern.text ++ " => " ++ result arm ++ ",\n") ++
    lastArm ++ "        \x7d\n"

def constant (result : String) : String :=
  "        " ++ result ++ "\n"

def text : BlockDeclaration → String
  | .fixed rawName typeName id name =>
    heading rawName ++ s!"#[derive({derivedTraits}, Default)]\npub struct {typeName};\n\n" ++
      lookups typeName (constant (toString id.toNat)) (constant (Text.quoted name))
  | .matching rawName typeName fieldTypes scrutinee arms =>
    let fields := String.intercalate ", " (fieldTypes.map fun fieldType => "pub " ++ fieldType)
    heading rawName ++ s!"#[derive({derivedTraits})]\npub struct {typeName}({fields});\n\n" ++
      "#[allow(unreachable_patterns)]\n" ++
      lookups typeName (selection scrutinee arms fun arm => toString arm.id.toNat)
        (selection scrutinee arms fun arm => Text.quoted arm.name)

end BlockDeclaration

/-- The path of the boxed pointer type, spelled out since a block may be called
`box`. -/
def boxPath : String := "::std::boxed::Box"

def listPath : String := "::std::vec::Vec"

def TableEntry.text (entry : TableEntry) : String :=
  s!"        ({boxPath}::new({entry.expr.text}) as {boxPath}<dyn BlockState>, " ++
    s!"{entry.id.toNat}, {Text.quoted entry.name}),\n"

def tableText (entries : List TableEntry) : String :=
  "/// Every catalog state with the id and name the catalog assigns it.\n" ++
    "#[must_use]\n" ++
    s!"pub fn all_block_states() -> {listPath}<({boxPath}<dyn BlockState>, u16, " ++
    "&'static str)> \x7b\n    vec![\n" ++
    String.join (entries.map TableEntry.text) ++ "    ]\n\x7d\n\n"

namespace Layout

def propertiesText (layout : Layout) : String :=
  String.join (layout.propertyDeclarations.map PropertyDeclaration.text)

def blocksText (layout : Layout) : String :=
  String.join (layout.blockDeclarations.map BlockDeclaration.text)

def tableText (layout : Layout) : String :=
  BlockStates.tableText layout.tableEntries

end Layout

def BlockType.text (block : BlockType) : String :=
  match block.declaration? with
  | some declaration => declaration.text
  | none => ""

end BlockStates
