import BlockStates.Proofs.Lexical.Banner
import BlockStates.Proofs.Lexical.Declarations

/-!
# Scans of whole units

A unit is scanned into the tokens that it was written as, whatever catalog it is
generated for: no raw name or value ends the comment or the literal around it,
and none gets into the code but as an identifier or a number.
-/

set_option autoImplicit false

namespace BlockStates

open Lexical

/-! ## Units -/

namespace SourceUnit

def importTokens (path : List String) : List Token :=
  tokensOf "#[allow(unused_imports)]\nuse " ++
    (tokensOf "::").intercalate (path.map fun name => [.word name]) ++
    tokensOf "::\x7bBlockProperty, BlockState\x7d;\n\n"

def tokens (unit : SourceUnit) (path : List String) : List Token :=
  licenseTokens unit.licenseHeader ++ tokensOf (generatedBanner ++ "\n\n") ++ importTokens path ++
    unit.properties.flatMap PropertyDeclaration.tokens ++
    unit.blocks.flatMap BlockDeclaration.tokens ++ (unit.table.map tableTokens).getD [] ++
    tokensOf (generatedBanner ++ "\n")

theorem scans_importLine {path : List String} (names : ∀ name ∈ path, IsName name) :
    Scans [] (importLine (String.intercalate "::" path)) (importTokens path) [] := by
  have keyword : ScansFixed [] "#[allow(unused_imports)]\nuse " [] := by decide +kernel
  have ending : ScansFixed [] "::\x7bBlockProperty, BlockState\x7d;\n\n" [] := by decide +kernel
  have separator : ScansFixed [] "::" [] := by decide
  have joined := EndsOpen.intercalate (by decide) separator fun name member =>
    EndsOpen.name (names name member)
  rw [List.map_id'] at joined
  exact keyword.appendOpen joined (by decide) ending

theorem scans_generatedBanner :
    ScansFixed [] (generatedBanner ++ "\n\n") [] ∧ ScansFixed [] (generatedBanner ++ "\n") [] := by
  constructor
  all_goals
    apply ScansFixed.of_run
    unfold generatedBanner
    simp only [String.toList_append]
    decide +kernel

/-- What is written of a unit between the import and the last banner. -/
def body (unit : SourceUnit) : String :=
  String.join (unit.properties.map PropertyDeclaration.text) ++
    String.join (unit.blocks.map BlockDeclaration.text) ++ (unit.table.map tableText).getD ""

def bodyTokens (unit : SourceUnit) : List Token :=
  unit.properties.flatMap PropertyDeclaration.tokens ++
    unit.blocks.flatMap BlockDeclaration.tokens ++ (unit.table.map tableTokens).getD []

theorem text_eq_body (unit : SourceUnit) :
    unit.text = licenseBanner unit.licenseHeader ++ (generatedBanner ++ "\n\n") ++
      importLine unit.traitPath ++ unit.body ++ (generatedBanner ++ "\n") := by
  simp only [text, body, String.append_assoc]

section Scans

variable {unit : SourceUnit}

theorem scans_properties (words : unit.NamesAreWords) :
    Scans [] (String.join (unit.properties.map PropertyDeclaration.text))
      (unit.properties.flatMap PropertyDeclaration.tokens) [] :=
  .join fun _ declared => PropertyDeclaration.scans words declared

theorem scans_blocks (words : unit.NamesAreWords) (resolve : unit.NamesResolve) :
    Scans [] (String.join (unit.blocks.map BlockDeclaration.text))
      (unit.blocks.flatMap BlockDeclaration.tokens) [] :=
  .join fun _ declared => BlockDeclaration.scans words resolve declared

theorem scans_body (words : unit.NamesAreWords) (resolve : unit.NamesResolve) :
    Scans [] unit.body unit.bodyTokens [] := by
  have table : Scans [] ((unit.table.map tableText).getD "")
      ((unit.table.map tableTokens).getD []) [] := by
    cases isTable : unit.table with
    | none => exact .empty
    | some entries => exact scans_tableText words (resolve.table entries isTable)
  exact ((scans_properties words).append (scans_blocks words resolve)).append table

theorem scans (words : unit.NamesAreWords) (resolve : unit.NamesResolve)
    (free : FreeOfMarks unit.licenseHeader.toList) {path : List String}
    (names : ∀ name ∈ path, IsName name) (isPath : unit.traitPath = String.intercalate "::" path) :
    Scans [] unit.text (unit.tokens path) [] := by
  obtain ⟨banner, lastBanner⟩ := scans_generatedBanner
  have imports := scans_importLine names
  rw [← isPath] at imports
  have start := (free.scans_licenseBanner.append banner).append imports
  have whole := (start.append (scans_body words resolve)).append lastBanner
  have tokens : unit.tokens path = licenseTokens unit.licenseHeader ++
      tokensOf (generatedBanner ++ "\n\n") ++ importTokens path ++ unit.bodyTokens ++
      tokensOf (generatedBanner ++ "\n") := by
    simp only [SourceUnit.tokens, bodyTokens, List.append_assoc]
  rw [unit.text_eq_body, tokens]
  exact whole

end Scans

end SourceUnit

/-! ## No raw text in code -/

def PropertyDeclaration.withoutRaw : PropertyDeclaration → PropertyDeclaration
  | .wrapper _ typeName => .wrapper "" typeName
  | .enumeration _ typeName variants => .enumeration "" typeName variants

def BlockDeclaration.withoutRaw : BlockDeclaration → BlockDeclaration
  | .fixed _ typeName id _ => .fixed "" typeName id ""
  | .matching _ typeName fieldTypes scrutinee arms =>
    .matching "" typeName fieldTypes scrutinee (arms.map fun arm => { arm with name := "" })

def TableEntry.withoutRaw (entry : TableEntry) : TableEntry :=
  { entry with name := "" }

/-- The unit with its identifiers and numbers, but with no raw name and no name
of a state. -/
def SourceUnit.withoutRaw (unit : SourceUnit) : SourceUnit :=
  { unit with
    properties := unit.properties.map PropertyDeclaration.withoutRaw
    blocks := unit.blocks.map BlockDeclaration.withoutRaw
    table := unit.table.map fun entries => entries.map TableEntry.withoutRaw }

theorem PropertyDeclaration.code_withoutRaw (declaration : PropertyDeclaration) :
    declaration.withoutRaw.tokens.filter Token.isCode =
      declaration.tokens.filter Token.isCode := by
  cases declaration <;>
    simp only [withoutRaw, tokens, headingTokens, List.filter_append, List.filter_cons,
      Token.isCode, Bool.false_eq_true, if_false]

theorem BlockDeclaration.code_withoutRaw (declaration : BlockDeclaration) :
    declaration.withoutRaw.tokens.filter Token.isCode =
      declaration.tokens.filter Token.isCode := by
  cases declaration with
  | fixed rawName typeName id name =>
    simp only [withoutRaw, tokens, headingTokens, lookupTokens, constantTokens,
      List.filter_append, List.filter_cons, Token.isCode, Bool.false_eq_true, if_false]
  | matching rawName typeName fieldTypes scrutinee arms =>
    simp only [withoutRaw, tokens, headingTokens, lookupTokens, selectionTokens, armTokens,
      List.filter_append, List.filter_cons, List.filter_flatMap, List.flatMap_map, Token.isCode,
      Bool.false_eq_true, if_false]

theorem TableEntry.code_withoutRaw (entry : TableEntry) :
    entry.withoutRaw.tokens.filter Token.isCode = entry.tokens.filter Token.isCode := by
  simp only [withoutRaw, tokens, List.filter_append, List.filter_cons, Token.isCode,
    Bool.false_eq_true, if_false]

/-- What is code does not depend on any raw text. -/
theorem SourceUnit.code_withoutRaw (unit : SourceUnit) (path : List String) :
    (unit.withoutRaw.tokens path).filter Token.isCode =
      (unit.tokens path).filter Token.isCode := by
  have table : (((unit.table.map fun entries => entries.map TableEntry.withoutRaw).map
        tableTokens).getD []).filter Token.isCode =
      ((unit.table.map tableTokens).getD []).filter Token.isCode := by
    cases unit.table with
    | none => rfl
    | some entries =>
      simp only [Option.map_some, Option.getD_some, tableTokens, List.filter_append,
        List.flatMap_map, List.filter_flatMap, TableEntry.code_withoutRaw]
  simp only [tokens, withoutRaw, List.filter_append, List.flatMap_map, List.filter_flatMap,
    PropertyDeclaration.code_withoutRaw, BlockDeclaration.code_withoutRaw, table]

/-! ## Units of accepted catalogs -/

theorem Catalog.Accepted.namesAreWords {catalog : Catalog} {options : Options}
    (accepted : catalog.Accepted)
    (sound : (Layout.unchecked catalog catalog.propertyUnion).TypeNamesSound) :
    (catalog.unit options).NamesAreWords where
  typeNames := by
    intro typeName isType
    rw [accepted.typeNames_unit] at isType
    exact .of_isUsable (sound.usable typeName isType)
  variants := by
    intro rawName typeName variants declared variant isVariant
    obtain ⟨values, rfl, usable, -⟩ := accepted.exists_values_of_enumeration declared
    obtain ⟨value, isValue, rfl⟩ := List.mem_map.mp isVariant
    exact .of_isUsable (usable value isValue)
  propertyLines := by
    intro declaration declared
    have keys : (catalog.unit options).properties.map PropertyDeclaration.rawName =
        catalog.propertyUnion.keys :=
      rawNames_properties_unit
    have isKey : declaration.rawName ∈ catalog.propertyUnion.keys :=
      keys ▸ List.mem_map_of_mem declared
    exact newline_not_mem_of_isUsable
      (accepted.names.usable _ (List.mem_append_left _ isKey))
  blockLines := by
    intro declaration declared
    have names : (catalog.unit options).blocks.map BlockDeclaration.rawName =
        catalog.blocks.values.map Block.name :=
      accepted.rawNames_blocks_unit
    have isName : declaration.rawName ∈ catalog.blocks.values.map Block.name :=
      names ▸ List.mem_map_of_mem declared
    obtain ⟨block, member, isBlock⟩ := List.mem_map.mp isName
    rw [← isBlock]
    exact newline_not_mem_of_isUsable (Catalog.isUsable_name sound member)

/-- Whatever text a unit is generated from, a scan of it ends in code, with just
the tokens that were written: every comment over a declaration ends with its line
and every literal with its own quote.  All brackets in code are closed in order,
and without comments and literals no raw text is left.  The header is asked to
have no comment marks, and the path of the traits to be made of names. -/
theorem generated_unit_scans (text : String) (options : Options) (code : String)
    (path : List String) (success : (generate text options).value = .ok code)
    (header : FreeOfMarks options.licenseHeader.toList)
    (names : ∀ name ∈ path, IsName name)
    (isPath : options.traitPath = String.intercalate "::" path) :
    ∃ catalog layout, Catalog.read text = .ok catalog ∧ Layout.ofCatalog catalog = .ok layout ∧
      (layout.sourceUnit options).text = code ∧
      scan code = ((layout.sourceUnit options).tokens path, .code) ∧
      ((layout.sourceUnit options).tokens path).flatMap Token.text = code.toList ∧
      Balanced ((layout.sourceUnit options).tokens path) ∧
      ((layout.sourceUnit options).withoutRaw.tokens path).filter Token.isCode =
        ((layout.sourceUnit options).tokens path).filter Token.isCode := by
  obtain ⟨catalog, layout, reading, laidOut, isCode⟩ :=
    (generate_value_eq_ok_iff text options code).mp success
  obtain ⟨accepted, rfl⟩ := (Layout.ofCatalog_eq_ok_iff catalog layout).mp laidOut
  have sound := accepted.typeNamesSound (Catalog.keyedByName_of_read reading).identifiedByKey
  have words : (catalog.unit options).NamesAreWords := accepted.namesAreWords sound
  have scans := SourceUnit.scans words (accepted.names_resolve sound) header names isPath
  have scanned : scan code = ((catalog.unit options).tokens path, .code) := isCode ▸ scans.scan_eq
  exact ⟨catalog, _, reading, laidOut, isCode, scanned, text_of_scan scanned, scans.nested,
    SourceUnit.code_withoutRaw _ path⟩

/-- A block whose first letter has an ASCII letter for its upper case. -/
def longSText : String :=
  "\x7b\"ſnow\":[\x7b\"layers\":[\"1\"]\x7d,[[2,\x7b\"layers\":\"1\"\x7d]]]\x7d"

def longSCatalog : Catalog :=
  Catalog.empty.add
    ⟨"ſnow", .ofList [("layers", ["1"])], [⟨2, .ofList [("layers", "1")]⟩]⟩

/-- The raw name stays in the comment and in the literals; the code has the
identifier. -/
theorem generated_unit_scans_of_longSText :
    (generate longSText withTable).value = .ok (longSCatalog.unit withTable).text ∧
      (longSCatalog.unit withTable).blocks.map BlockDeclaration.rawName = ["ſnow"] ∧
      (longSCatalog.unit withTable).blocks.map BlockDeclaration.typeName = ["Snow"] ∧
      scan (longSCatalog.unit withTable).text =
        ((longSCatalog.unit withTable).tokens ["crate", "block"], .code) ∧
      Balanced ((longSCatalog.unit withTable).tokens ["crate", "block"]) := by
  have reading : Catalog.read longSText = .ok longSCatalog := by decide +kernel
  have laidOut : Layout.ofCatalog longSCatalog =
      .ok (Layout.unchecked longSCatalog longSCatalog.propertyUnion) := by
    decide +kernel
  have success : (generate longSText withTable).value = .ok (longSCatalog.unit withTable).text :=
    (generate_value_eq_ok_iff _ _ _).mpr ⟨longSCatalog, _, reading, laidOut, rfl⟩
  have names : ∀ name ∈ ["crate", "block"], IsName name := by
    have crate : IsWord "crate" := .of_all (by decide) (by decide)
    have block : IsWord "block" := .of_all (by decide) (by decide)
    rw [List.forall_mem_cons, List.forall_mem_singleton]
    exact ⟨.plain crate, .plain block⟩
  have header : FreeOfMarks withTable.licenseHeader.toList :=
    ⟨by decide +kernel, by decide +kernel⟩
  obtain ⟨catalog, layout, isRead, isLaidOut, -, scanned, -, balanced, -⟩ :=
    generated_unit_scans longSText withTable _ ["crate", "block"] success header names
      (by decide +kernel)
  obtain rfl := Except.ok.inj (reading.symm.trans isRead)
  obtain rfl := Except.ok.inj (laidOut.symm.trans isLaidOut)
  exact ⟨success, by decide +kernel, by decide +kernel, scanned, balanced⟩

end BlockStates
