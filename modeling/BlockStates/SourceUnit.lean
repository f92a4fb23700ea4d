import BlockStates.Declaration.Printer
import BlockStates.Event
import BlockStates.Text.Blank

/-!
# Source units

One generated unit: a licence banner, a banner that marks the unit as
generated, the import of the traits, all declarations, and the second banner.
-/

set_option autoImplicit false

namespace BlockStates

structure Options where
  /-- The text of the licence banner, without comment marks. -/
  licenseHeader : String :=
    "Block-state definitions generated from the block catalog.\n\nLicensed under the MIT " ++
      "license. The catalog data keeps the license of its source."
  traitPath : String := "crate::block"
  /-- Whether the state table is part of the unit. -/
  stateTable : Bool := false
  deriving DecidableEq, Repr

def Options.standard : Options := {}

structure SourceUnit where
  licenseHeader : String
  traitPath : String
  properties : List PropertyDeclaration
  blocks : List BlockDeclaration
  table : Option (List TableEntry)
  deriving DecidableEq, Repr

namespace SourceUnit

/-- Parts every `*/`, so that a text cannot close the comment around it. -/
def breakClosers : List Char → List Char
  | '*' :: '/' :: rest => '*' :: ' ' :: '/' :: breakClosers rest
  | character :: rest => character :: breakClosers rest
  | [] => []

/-- A line of the licence banner; an empty line is not indented. -/
def licenseLine (line : List Char) : List Char :=
  match breakClosers line with
  | [] => ['\n']
  | characters => ' ' :: ' ' :: characters ++ ['\n']

def licenseBanner (header : String) : String :=
  match Text.trim header.toList with
  | [] => ""
  | text => "/*\n" ++ String.ofList ((Text.lines text).flatMap licenseLine) ++ "*/\n\n"

def generatedBanner : String :=
  "// ----------------------------------------------------------------------------\n" ++
  "// @generated by blockgen from the block catalog. DO NOT EDIT THIS FILE MANUALLY.\n" ++
  "// ----------------------------------------------------------------------------"

def importLine (traitPath : String) : String :=
  "#[allow(unused_imports)]\nuse " ++ traitPath ++ "::\x7bBlockProperty, BlockState\x7d;\n\n"

def text (unit : SourceUnit) : String :=
  licenseBanner unit.licenseHeader ++ generatedBanner ++ "\n\n" ++ importLine unit.traitPath ++
    String.join (unit.properties.map PropertyDeclaration.text) ++
    String.join (unit.blocks.map BlockDeclaration.text) ++
    (unit.table.map tableText).getD "" ++ generatedBanner ++ "\n"

end SourceUnit

namespace Layout

def sourceUnit (layout : Layout) (options : Options) : SourceUnit :=
  { licenseHeader := options.licenseHeader
    traitPath := options.traitPath
    properties := layout.propertyDeclarations
    blocks := layout.blockDeclarations
    table := if options.stateTable then some layout.tableEntries else none }

def generate (layout : Layout) (options : Options) : Logged String :=
  let text := (layout.sourceUnit options).text
  ⟨text, layout.propertyEvents ++ layout.blockEvents ++
    [.unitGenerated layout.properties.size layout.blocks.length layout.stateCount
      text.utf8ByteSize]⟩

end Layout

end BlockStates
