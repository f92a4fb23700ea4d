import BlockStates.Proofs.Code.Declarations
import BlockStates.Proofs.Lexical.Unit

/-!
# Reading units

What a reader of code finds in a whole unit: the declarations, in order, and in
front of them the import.  The licence banner and the path of the traits are texts
of the caller, which can spoil a unit as a whole; what stands between them and the
last banner is read in any case.
-/

set_option autoImplicit false

namespace BlockStates

open Code Code.Tree Lexical

namespace SourceUnit

def content (unit : SourceUnit) : Code :=
  unit.properties.flatMap PropertyDeclaration.content ++
    unit.blocks.flatMap BlockDeclaration.content ++
    (unit.table.map fun entries => [.table entries]).getD []

def opening (options : Options) : String :=
  licenseBanner options.licenseHeader ++ generatedBanner ++ "\n\n" ++ importLine options.traitPath

def closing : String :=
  generatedBanner ++ "\n"

end SourceUnit

/-- What is read in a text that is generated with some options. -/
structure Code.ReadIn (options : Options) (source : String) (code : Code) : Prop where
  declarations : ∃ body, source = SourceUnit.opening options ++ body ++ SourceUnit.closing ∧
    read? body = some code
  /-- With a harmless header, and a path that is made of names, the whole text is
  read. -/
  whole : FreeOfMarks options.licenseHeader.toList → ∀ path ≠ [],
    (∀ name ∈ path, IsName name ∧ isNumeric name = false) →
      options.traitPath = String.intercalate "::" path →
        read? source = some (.imports path importedNames :: code)

theorem Code.ReadIn.unique {options : Options} {source : String} {code other : Code}
    (isRead : ReadIn options source code) (otherIsRead : ReadIn options source other) :
    code = other := by
  obtain ⟨body, isBody, read⟩ := isRead.declarations
  obtain ⟨otherBody, isOther, otherRead⟩ := otherIsRead.declarations
  have sameBody : body = otherBody := by
    have same := congrArg String.toList (isBody.symm.trans isOther)
    rw [← String.toList_inj]
    simpa [String.toList_append] using same
  rw [sameBody, otherRead] at read
  exact Option.some.inj read.symm

/-! ## Banners and the import -/

def isTrivia : Token → Bool
  | .mark character => character ∈ [' ', '\n']
  | .lineComment _ | .blockComment _ => true
  | .word _ | .literal _ | .lifetime _ => false

theorem grows_trivia {tokens : List Token} (trivia : tokens.all isTrivia = true) :
    GrowsInto tokens [] := by
  intro outer before
  induction tokens with
  | nil => rfl
  | cons token rest restGrow =>
    rw [List.all_cons, Bool.and_eq_true] at trivia
    have skipped : Growth.step ⟨outer, before, none⟩ token = some ⟨outer, before, none⟩ := by
      cases token with
      | mark character =>
        exact if_pos (of_decide_eq_true trivia.1)
      | lineComment | blockComment => rfl
      | word | literal | lifetime => exact absurd trivia.1 Bool.false_ne_true
    rw [Growth.run_cons, skipped]
    exact restGrow trivia.2

namespace SourceUnit

theorem reads_licenseTokens (header : String) : Reads (licenseTokens header) [] := by
  apply Reads.blank
  by_cases blank : Text.trim header.toList = []
  · rw [(licenseBanner_of_blank blank).2]
    exact .nil
  · rw [(licenseBanner_of_text blank).2]
    exact grows_trivia rfl

theorem reads_generatedBanner :
    Reads (tokensOf (generatedBanner ++ "\n\n")) [] ∧
      Reads (tokensOf (generatedBanner ++ "\n")) [] := by
  constructor
  all_goals
    refine .blank (grows_trivia ?_)
    rw [tokensOf, scan]
    unfold generatedBanner
    simp only [String.toList_append]
    decide +kernel

def pathTrees (path : List String) : List Tree :=
  [pathMark].intercalate (path.map fun name => [word name])

def importedTrees : List Tree :=
  [pathMark, group '\x7b' [word "BlockProperty", mark ',', word "BlockState"], mark ';']

/-- The names of a path are taken one by one, up to the list behind it. -/
theorem imports?_pathTrees (before : List String) {path : List String} (nonempty : path ≠ [])
    (rest : List Tree) :
    imports? before (pathTrees path ++ (importedTrees ++ rest)) =
      (items? rest).map fun later => .imports (before ++ path) importedNames :: later := by
  induction path generalizing before with
  | nil => exact absurd rfl nonempty
  | cons name names namesRead =>
    cases names with
    | nil =>
      rw [Option.map_eq_bind]
      rfl
    | cons next others =>
      have isPath : pathTrees (name :: next :: others) =
          word name :: pathMark :: pathTrees (next :: others) := by
        rw [pathTrees, List.map_cons, List.map_cons, List.intercalate_cons_cons]
        rfl
      obtain ⟨more, isNext⟩ : ∃ more, pathTrees (next :: others) = word next :: more := by
        cases others <;> exact ⟨_, rfl⟩
      have taken : imports? before (word name :: pathMark :: word next ::
          (more ++ (importedTrees ++ rest))) =
          imports? (before ++ [name]) (word next :: (more ++ (importedTrees ++ rest))) := rfl
      have later := namesRead (before ++ [name]) (List.cons_ne_nil _ _)
      rw [isNext, List.append_assoc] at later
      rw [isPath, isNext]
      exact taken.trans later

theorem reads_importTokens {path : List String} (nonempty : path ≠ [])
    (areNames : ∀ name ∈ path, isNumeric name = false) :
    Reads (importTokens path) [.imports path importedNames] := by
  have split : tokensOf "#[allow(unused_imports)]\nuse " =
      tokensOf "#[allow(unused_imports)]\n" ++ tokensOf "use " := by
    decide +kernel
  have lint : GrowsInto (tokensOf "#[allow(unused_imports)]\n")
      [mark '#', group '[' [word "allow", group '(' [word "unused_imports"]]] := fun _ _ => rfl
  have keyword : GrowsInto (tokensOf "use ") [word "use"] := fun _ _ => rfl
  have separator : GrowsInto (tokensOf "::") [pathMark] := fun _ _ => rfl
  have names : GrowsInto ((tokensOf "::").intercalate (path.map fun name => [.word name]))
      (pathTrees path) :=
    .intercalate separator fun name member => .word (areNames name member)
  have imported : GrowsInto (tokensOf "::\x7bBlockProperty, BlockState\x7d;\n\n") importedTrees :=
    fun _ _ => rfl
  have imports := Reads.item ((keyword.append names).append imported) fun rest => by
    have isImport (path : List Tree) : items? ([word "use"] ++ path ++ importedTrees ++ rest) =
        imports? [] (path ++ (importedTrees ++ rest)) := by
      rw [List.append_assoc, List.append_assoc]
      rfl
    exact (isImport _).trans (imports?_pathTrees [] nonempty rest)
  have whole := (Reads.skip lint rfl).append imports
  rw [importTokens, split]
  simpa only [List.append_assoc, List.nil_append] using whole

/-! ## Whole units -/

section Reads

variable {unit : SourceUnit}

theorem reads_properties (words : unit.NamesAreWords) :
    Reads (unit.properties.flatMap PropertyDeclaration.tokens)
      (unit.properties.flatMap PropertyDeclaration.content) :=
  .flatMap fun _ declared => PropertyDeclaration.reads words declared

theorem reads_blocks (words : unit.NamesAreWords) (resolve : unit.NamesResolve) :
    Reads (unit.blocks.flatMap BlockDeclaration.tokens)
      (unit.blocks.flatMap BlockDeclaration.content) :=
  .flatMap fun _ declared => BlockDeclaration.reads words resolve declared

theorem reads_body (words : unit.NamesAreWords) (resolve : unit.NamesResolve) :
    Reads unit.bodyTokens unit.content := by
  have table : Reads ((unit.table.map tableTokens).getD [])
      ((unit.table.map fun entries => [.table entries]).getD []) := by
    cases isTable : unit.table with
    | none => exact .nil
    | some entries => exact reads_table words (resolve.table entries isTable)
  exact ((reads_properties words).append (reads_blocks words resolve)).append table

theorem reads (words : unit.NamesAreWords) (resolve : unit.NamesResolve) {path : List String}
    (nonempty : path ≠ []) (areNames : ∀ name ∈ path, isNumeric name = false) :
    Reads (unit.tokens path) (.imports path importedNames :: unit.content) := by
  obtain ⟨banner, lastBanner⟩ := reads_generatedBanner
  have start := ((reads_licenseTokens unit.licenseHeader).append banner).append
    (reads_importTokens nonempty areNames)
  have whole := (start.append (reads_body words resolve)).append lastBanner
  have tokens : unit.tokens path = licenseTokens unit.licenseHeader ++
      tokensOf (generatedBanner ++ "\n\n") ++ importTokens path ++ unit.bodyTokens ++
      tokensOf (generatedBanner ++ "\n") := by
    simp only [SourceUnit.tokens, bodyTokens, List.append_assoc]
  rw [tokens]
  simpa only [List.nil_append, List.append_nil, List.singleton_append] using whole

end Reads

end SourceUnit

/-! ## What code declares -/

namespace Code

def Item.typeName? : Item → Option String
  | .struct typeName _ | .enumeration typeName _ => some typeName
  | _ => none

def Item.implementation? : Item → Option Implementation
  | .implementation found => some found
  | _ => none

def Item.table? : Item → Option (List TableEntry)
  | .table entries => some entries
  | _ => none

def typeNames (code : Code) : List String :=
  code.filterMap Item.typeName?

def implementations (code : Code) : List Implementation :=
  code.filterMap Item.implementation?

def tables (code : Code) : List (List TableEntry) :=
  code.filterMap Item.table?

end Code

theorem BlockDeclaration.typeName_implementation (declaration : BlockDeclaration) :
    declaration.implementation.typeName = declaration.typeName := by
  cases declaration <;> rfl

namespace SourceUnit

variable {unit : SourceUnit}

theorem mem_content_iff {item : Item} :
    item ∈ unit.content ↔ (∃ declaration ∈ unit.properties, item ∈ declaration.content) ∨
      (∃ declaration ∈ unit.blocks, item ∈ declaration.content) ∨
      ∃ entries, unit.table = some entries ∧ item = .table entries := by
  cases isTable : unit.table <;> simp [content, isTable]

theorem struct_mem_content_iff {typeName : String} {fieldTypes : List String} :
    .struct typeName fieldTypes ∈ unit.content ↔
      (∃ rawName, .wrapper rawName typeName ∈ unit.properties ∧ fieldTypes = [byteType]) ∨
      ∃ declaration ∈ unit.blocks, declaration.typeName = typeName ∧
        declaration.fieldTypes = fieldTypes := by
  have inProperty (declaration : PropertyDeclaration) :
      .struct typeName fieldTypes ∈ declaration.content ↔
        ∃ rawName, .wrapper rawName typeName = declaration ∧ fieldTypes = [byteType] := by
    cases declaration <;> simp [PropertyDeclaration.content, eq_comm]
  have inBlock (declaration : BlockDeclaration) :
      .struct typeName fieldTypes ∈ declaration.content ↔
        declaration.typeName = typeName ∧ declaration.fieldTypes = fieldTypes := by
    simp [BlockDeclaration.content, eq_comm]
  simp only [mem_content_iff, inProperty, inBlock]
  grind

theorem struct_mem_content {declaration : BlockDeclaration}
    (declared : declaration ∈ unit.blocks) :
    .struct declaration.typeName declaration.fieldTypes ∈ unit.content :=
  struct_mem_content_iff.mpr (Or.inr ⟨declaration, declared, rfl, rfl⟩)

/-- Under the name of a block's type there is no other type. -/
theorem fieldTypes_unique (distinct : unit.typeNames.Nodup) {declaration : BlockDeclaration}
    (declared : declaration ∈ unit.blocks) {fieldTypes : List String}
    (isStruct : .struct declaration.typeName fieldTypes ∈ unit.content) :
    fieldTypes = declaration.fieldTypes := by
  obtain ⟨-, differ, apart⟩ := List.nodup_append.mp distinct
  rcases struct_mem_content_iff.mp isStruct with ⟨rawName, isWrapper, -⟩ |
    ⟨other, isBlock, sameName, rfl⟩
  · exact absurd rfl
      (apart _ (List.mem_map_of_mem isWrapper) _ (List.mem_map_of_mem declared))
  · rw [List.inj_on_of_nodup_map differ isBlock declared sameName]

theorem enumeration_mem_content_iff {typeName : String} {variants : List String} :
    .enumeration typeName variants ∈ unit.content ↔
      ∃ rawName, .enumeration rawName typeName variants ∈ unit.properties := by
  have inProperty (declaration : PropertyDeclaration) :
      .enumeration typeName variants ∈ declaration.content ↔
        ∃ rawName, .enumeration rawName typeName variants = declaration := by
    cases declaration <;> simp [PropertyDeclaration.content, eq_comm]
  have inBlock (declaration : BlockDeclaration) :
      .enumeration typeName variants ∉ declaration.content := by
    simp [BlockDeclaration.content]
  simp only [mem_content_iff, inProperty, inBlock]
  grind

theorem filterMap_content {Found : Type} (find : Item → Option Found) :
    unit.content.filterMap find =
      unit.properties.flatMap (fun declaration => declaration.content.filterMap find) ++
        unit.blocks.flatMap (fun declaration => declaration.content.filterMap find) ++
        (unit.table.bind fun entries => find (.table entries)).toList := by
  cases isTable : unit.table with
  | none => simp [content, List.filterMap_flatMap, isTable]
  | some entries =>
    cases isFound : find (.table entries) <;>
      simp [content, List.filterMap_flatMap, isTable, isFound]

theorem typeNames_content : unit.content.typeNames = unit.typeNames := by
  have properties (declaration : PropertyDeclaration) :
      declaration.content.filterMap Item.typeName? = [declaration.typeName] := by
    cases declaration <;> rfl
  have blocks (declaration : BlockDeclaration) :
      declaration.content.filterMap Item.typeName? = [declaration.typeName] := rfl
  have tables : (unit.table.bind fun entries => Item.typeName? (.table entries)) = none := by
    cases unit.table <;> rfl
  simp only [Code.typeNames, filterMap_content, properties, blocks, tables,
    ← List.map_eq_flatMap, typeNames]
  exact List.append_nil _

theorem implementations_content :
    unit.content.implementations = unit.blocks.map BlockDeclaration.implementation := by
  have properties : unit.properties.flatMap
      (fun declaration => declaration.content.filterMap Item.implementation?) = [] :=
    List.flatMap_eq_nil_iff.mpr fun declaration _ => by cases declaration <;> rfl
  have blocks (declaration : BlockDeclaration) :
      declaration.content.filterMap Item.implementation? = [declaration.implementation] := rfl
  have tables : (unit.table.bind fun entries => Item.implementation? (.table entries)) = none := by
    cases unit.table <;> rfl
  simp only [implementations, filterMap_content, properties, blocks, tables,
    ← List.map_eq_flatMap]
  exact List.append_nil _

theorem tables_content : unit.content.tables = unit.table.toList := by
  have properties : unit.properties.flatMap
      (fun declaration => declaration.content.filterMap Item.table?) = [] :=
    List.flatMap_eq_nil_iff.mpr fun declaration _ => by cases declaration <;> rfl
  have blocks : unit.blocks.flatMap
      (fun declaration => declaration.content.filterMap Item.table?) = [] :=
    List.flatMap_eq_nil_iff.mpr fun _ _ => rfl
  have tables : (unit.table.bind fun entries => Item.table? (.table entries)) = unit.table := by
    cases unit.table <;> rfl
  rw [Code.tables, filterMap_content, properties, blocks, tables]
  rfl

end SourceUnit

/-! ## Units of accepted catalogs -/

namespace Catalog.Accepted

variable {catalog : Catalog} {options : Options}

/-- A reader finds in a generated unit just what the unit declares. -/
theorem readIn_unit (accepted : catalog.Accepted)
    (sound : (Layout.unchecked catalog catalog.propertyUnion).TypeNamesSound) :
    ReadIn options (catalog.unit options).text (catalog.unit options).content := by
  have words : (catalog.unit options).NamesAreWords := accepted.namesAreWords sound
  have resolve : (catalog.unit options).NamesResolve := accepted.names_resolve sound
  constructor
  · refine ⟨(catalog.unit options).body, ?_, ?_⟩
    · simp only [SourceUnit.text_eq_body, SourceUnit.opening, SourceUnit.closing,
        String.append_assoc]
      rfl
    · exact (SourceUnit.reads_body words resolve).read?_eq
        (SourceUnit.scans_body words resolve).scan_eq
  · intro free path nonempty areNames isPath
    have scans := SourceUnit.scans words resolve free (fun name member => (areNames name member).1)
      isPath
    exact (SourceUnit.reads words resolve nonempty fun name member =>
      (areNames name member).2).read?_eq scans.scan_eq

/-- A reader finds look-ups for every block, in order, and no others. -/
theorem forall₂_implementations (accepted : catalog.Accepted)
    {related : Block → Implementation → Prop}
    (each : ∀ block ∈ catalog.blocks.values, ∀ declaration,
      (BlockType.ofBlock catalog.propertyTypes block).declaration? = some declaration →
        related block declaration.implementation) :
    List.Forall₂ related catalog.blocks.values (catalog.unit options).content.implementations := by
  rw [SourceUnit.implementations_content, List.forall₂_map_right_iff]
  have declarations : List.Forall₂ _ catalog.blocks.values (catalog.unit options).blocks :=
    accepted.forall₂_blocks
  apply declarations.imp
  rintro block declaration ⟨member, declared⟩
  exact each block member declaration declared

end Catalog.Accepted

/-- Whatever text a unit is generated from, it is read. -/
theorem readIn_generate {text : String} {options : Options} {source : String}
    (success : (generate text options).value = .ok source) :
    ∃ catalog, Catalog.read text = .ok catalog ∧ catalog.Accepted ∧
      (Layout.unchecked catalog catalog.propertyUnion).TypeNamesSound ∧
      ReadIn options source (catalog.unit options).content := by
  obtain ⟨catalog, layout, reading, laidOut, rfl⟩ :=
    (generate_value_eq_ok_iff text options source).mp success
  have sound := (Catalog.keyedByName_of_read reading).typeNamesSound laidOut
  obtain ⟨accepted, rfl⟩ := (Layout.ofCatalog_eq_ok_iff catalog layout).mp laidOut
  exact ⟨catalog, reading, accepted, sound, accepted.readIn_unit sound⟩

end BlockStates
