import BlockStates.Proofs.BuiltCatalogs
import BlockStates.Proofs.Lexical.CommentDepth
import BlockStates.Proofs.GeneratedUnit
import BlockStates.Proofs.UnitLines

/-!
# Layout of units

A unit is a licence banner and, between two copies of the banner for generated text,
the import, the types of the properties, the types of the blocks and perhaps the
state table.  No text of the header or the catalog gets to the start of a line, so
no other copy of the banner comes about: `unit_layout` gives all lines of a unit
that stand out.  It asks that no block's name breaks a line, which holds where
every block stands under its own name.
-/

set_option autoImplicit false

namespace BlockStates

open SourceUnit (breakClosers licenseLine licenseBanner generatedBanner importLine)

/-! ## The licence banner -/

def licenseTextLine (line : List Char) : String :=
  match breakClosers line with
  | [] => ""
  | characters => "  " ++ String.ofList characters

def licenseLines (header : String) : List String :=
  match Text.trim header.toList with
  | [] => []
  | text => ["/*"] ++ (Text.lines text).map licenseTextLine ++ ["*/", ""]

theorem newline_not_mem_lines (text : List Char) : ∀ line ∈ Text.lines text, '\n' ∉ line := by
  fun_induction Text.lines text with
  | case1 => simp
  | case2 rest restNone => simpa using restNone
  | case3 rest restNone => simpa using restNone
  | case4 character rest notFeed _ _ _ =>
    have differs : '\n' ≠ character := fun isFeed => notFeed isFeed.symm
    simpa using differs
  | case5 character rest notFeed _ first later isRest restNone =>
    have differs : '\n' ≠ character := fun isFeed => notFeed isFeed.symm
    rw [isRest, List.forall_mem_cons] at restNone
    rw [List.forall_mem_cons, List.mem_cons, not_or]
    exact ⟨⟨differs, restNone.1⟩, restNone.2⟩

theorem newline_not_mem_breakClosers {text : List Char} (oneLine : '\n' ∉ text) :
    '\n' ∉ breakClosers text := by
  fun_induction breakClosers text with
  | case1 rest restNone => simp_all
  | case2 character rest _ restNone => simp_all
  | case3 => exact List.not_mem_nil

theorem lined_licenseLine {line : List Char} (oneLine : '\n' ∉ line) :
    Lined (String.ofList (licenseLine line)) [licenseTextLine line] "" := by
  have parted := newline_not_mem_breakClosers oneLine
  unfold licenseLine licenseTextLine
  cases characters : breakClosers line with
  | nil => decide
  | cons first rest =>
    rw [characters] at parted
    have indent : Lined "  " [] "  " := .inline (by decide)
    have content : OneLine (String.ofList (first :: rest)) := by
      rwa [OneLine, String.toList_ofList]
    have feed : Lined "\n" [""] "" := by decide
    have written := (indent.appendInline content).append feed
    have split : String.ofList (' ' :: ' ' :: first :: rest ++ ['\n']) =
        "  " ++ String.ofList (first :: rest) ++ "\n" := by
      apply String.toList_inj.mp
      simp
    rw [String.append_empty, ← split] at written
    exact written

theorem lined_licenseBanner (header : String) :
    Lined (licenseBanner header) (licenseLines header) "" := by
  unfold licenseBanner licenseLines
  cases Text.trim header.toList with
  | nil => exact .empty
  | cons first rest =>
    have opening : Lined "/*\n" ["/*"] "" := by decide
    have closing : Lined "*/\n\n" ["*/", ""] "" := by decide
    have joined : String.ofList ((Text.lines (first :: rest)).flatMap licenseLine) =
        String.join ((Text.lines (first :: rest)).map fun line =>
          String.ofList (licenseLine line)) := by
      apply String.toList_inj.mp
      simp [List.flatMap_map]
    have content : Lined (String.ofList ((Text.lines (first :: rest)).flatMap licenseLine))
        ((Text.lines (first :: rest)).map licenseTextLine) "" := by
      rw [joined]
      exact .joinLines fun line isLine => lined_licenseLine (newline_not_mem_lines _ line isLine)
    exact (opening.appendLines content).appendLines closing

theorem lineKind_licenseTextLine (line : List Char) :
    lineKind (licenseTextLine line) = .inside := by
  unfold licenseTextLine
  cases breakClosers line with
  | nil => decide
  | cons first rest => simp [lineKind]

/-- Whatever the header is, its lines are empty or start with two blanks. -/
theorem filter_licenseLines (header : String) : (licenseLines header).filter standsOut = [] := by
  unfold licenseLines
  cases Text.trim header.toList with
  | nil => rfl
  | cons first rest =>
    have opening : ["/*"].filter standsOut = [] := by decide
    have closing : ["*/", ""].filter standsOut = [] := by decide
    simp only [List.filter_append, opening, filter_map_of_inside lineKind_licenseTextLine, closing,
      List.append_nil]

/-! ## Whole units -/

def bannerRule : String :=
  "// ----------------------------------------------------------------------------"

def bannerNotice : String :=
  "// @generated by blockgen from the block catalog. DO NOT EDIT THIS FILE MANUALLY."

def bannerLines : List String :=
  [bannerRule, bannerNotice, bannerRule]

def useLine (traitPath : String) : String :=
  "use " ++ traitPath ++ "::\x7bBlockProperty, BlockState\x7d;"

theorem generatedBanner_eq :
    generatedBanner = bannerRule ++ "\n" ++ bannerNotice ++ "\n" ++ bannerRule := by
  decide +kernel

theorem oneLine_bannerRule : OneLine bannerRule := by
  decide

theorem oneLine_bannerNotice : OneLine bannerNotice := by
  decide

theorem lined_generatedBanner : Lined generatedBanner [bannerRule, bannerNotice] bannerRule where
  text_eq := by
    rw [generatedBanner_eq, unlines_cons, unlines_cons]
    simp only [unlines, List.map_nil, String.join_nil, String.append_empty, String.append_assoc]
  oneLine := by
    rw [List.forall_mem_cons, List.forall_mem_singleton]
    exact ⟨oneLine_bannerRule, oneLine_bannerNotice⟩
  lastOneLine := oneLine_bannerRule

theorem lined_importLine {traitPath : String} (oneLine : OneLine traitPath) :
    Lined (importLine traitPath) ["#[allow(unused_imports)]", useLine traitPath, ""] "" := by
  have keyword : Lined "#[allow(unused_imports)]\nuse " ["#[allow(unused_imports)]"] "use " := by
    decide
  have ending : Lined "::\x7bBlockProperty, BlockState\x7d;\n\n"
      ["::\x7bBlockProperty, BlockState\x7d;", ""] "" := by
    decide
  exact (keyword.appendInline oneLine).append ending

theorem lineKind_useLine (traitPath : String) : lineKind (useLine traitPath) = .item := by
  have keyword : LineStart "use " .item := by decide
  exact ((keyword.append traitPath).append _).kind_eq

namespace SourceUnit

/-- The texts that a unit has from the catalog and the options, as they are. -/
def insertions (unit : SourceUnit) : List String :=
  [unit.traitPath] ++ unit.properties.flatMap PropertyDeclaration.insertions ++
    unit.blocks.flatMap BlockDeclaration.insertions ++
    (unit.table.getD []).map fun entry => entry.expr.text

def innerText (unit : SourceUnit) : String :=
  "\n\n" ++ importLine unit.traitPath ++
    String.join (unit.properties.map PropertyDeclaration.text) ++
    String.join (unit.blocks.map BlockDeclaration.text) ++ (unit.table.map tableText).getD ""

def innerLines (unit : SourceUnit) : List String :=
  ["", ""] ++ ["#[allow(unused_imports)]", useLine unit.traitPath, ""] ++
    unit.properties.flatMap PropertyDeclaration.lines ++
    unit.blocks.flatMap BlockDeclaration.lines ++ (unit.table.map tableLines).getD []

def items (unit : SourceUnit) : List String :=
  [useLine unit.traitPath] ++ unit.properties.flatMap PropertyDeclaration.items ++
    unit.blocks.flatMap BlockDeclaration.items ++ (unit.table.map fun _ => [tableLine]).getD []

theorem text_eq (unit : SourceUnit) :
    unit.text = licenseBanner unit.licenseHeader ++ generatedBanner ++ unit.innerText ++
      generatedBanner ++ "\n" := by
  simp only [text, innerText, String.append_assoc]

theorem filter_flatMap_lines {Item : Type} {linesOf itemsOf : Item → List String}
    (each : ∀ item, (linesOf item).filter standsOut = itemsOf item) (items : List Item) :
    (items.flatMap linesOf).filter standsOut = items.flatMap itemsOf := by
  rw [List.filter_flatMap]
  exact congrArg (List.flatMap · items) (funext each)

theorem filter_innerLines (unit : SourceUnit) :
    unit.innerLines.filter standsOut = unit.items := by
  have feeds : ["", ""].filter standsOut = [] := by decide
  have lint : ["#[allow(unused_imports)]"].filter standsOut = [] := by decide
  have imports : ["#[allow(unused_imports)]", useLine unit.traitPath, ""].filter standsOut =
      [useLine unit.traitPath] := by
    rw [← List.singleton_append, List.filter_append, lint,
      filter_itemLine (lineKind_useLine unit.traitPath)]
    rfl
  have table : ((unit.table.map tableLines).getD []).filter standsOut =
      (unit.table.map fun _ => [tableLine]).getD [] := by
    cases unit.table with
    | none => rfl
    | some entries => exact filter_tableLines entries
  simp only [innerLines, List.filter_append, feeds, imports, table,
    filter_flatMap_lines PropertyDeclaration.filter_lines,
    filter_flatMap_lines BlockDeclaration.filter_lines]
  rfl

theorem lineKind_items (unit : SourceUnit) : ∀ line ∈ unit.items, lineKind line = .item := by
  intro line isItem
  simp only [items, List.mem_append, List.mem_singleton, List.mem_flatMap] at isItem
  rcases isItem with ((rfl | ⟨declaration, -, isLine⟩) | ⟨declaration, -, isLine⟩) | isLine
  · exact lineKind_useLine unit.traitPath
  · exact declaration.lineKind_items line isLine
  · exact declaration.lineKind_items line isLine
  · cases isTable : unit.table with
    | none => simp [isTable] at isLine
    | some entries =>
      rw [isTable, Option.map_some, Option.getD_some, List.mem_singleton] at isLine
      rw [isLine]
      exact lineKind_tableLine

theorem lined_innerText {unit : SourceUnit} (oneLine : ∀ text ∈ unit.insertions, OneLine text) :
    Lined unit.innerText unit.innerLines "" := by
  have feeds : Lined "\n\n" ["", ""] "" := by decide
  simp only [insertions, List.forall_mem_append, List.forall_mem_singleton, List.mem_flatMap,
    List.forall_mem_map] at oneLine
  obtain ⟨⟨⟨isPath, ofProperties⟩, ofBlocks⟩, ofTable⟩ := oneLine
  have properties : Lined (String.join (unit.properties.map PropertyDeclaration.text))
      (unit.properties.flatMap PropertyDeclaration.lines) "" :=
    .join fun declaration declared =>
      PropertyDeclaration.lined fun text isText => ofProperties text ⟨declaration, declared, isText⟩
  have blocks : Lined (String.join (unit.blocks.map BlockDeclaration.text))
      (unit.blocks.flatMap BlockDeclaration.lines) "" :=
    .join fun declaration declared =>
      BlockDeclaration.lined fun text isText => ofBlocks text ⟨declaration, declared, isText⟩
  have table : Lined ((unit.table.map tableText).getD "")
      ((unit.table.map tableLines).getD []) "" := by
    cases isTable : unit.table with
    | none => exact .empty
    | some entries =>
      rw [isTable] at ofTable
      exact lined_tableText ofTable
  have start := feeds.appendLines (lined_importLine isPath)
  exact ((start.appendLines properties).appendLines blocks).appendLines table

end SourceUnit

/-! ## Where the banner stands -/

/-- An item that a list has just twice stands at one of the two places. -/
theorem front_of_twice {Item : Type} {item : Item} {first second third before after : List Item}
    (notFirst : item ∉ first) (notSecond : item ∉ second) (notThird : item ∉ third)
    (split : first ++ item :: (second ++ item :: third) = before ++ item :: after) :
    before = first ∨ before = first ++ item :: second := by
  rcases List.append_eq_append_iff.mp split with ⟨middle, rfl, behind⟩ | ⟨middle, rfl, behind⟩
  · match middle with
    | [] => exact Or.inl (List.append_nil _)
    | head :: rest =>
      obtain ⟨rfl, inRest⟩ := List.cons_eq_cons.mp behind
      have sameRest : second ++ item :: third = rest ++ item :: after := inRest
      obtain ⟨rfl, -, -⟩ := (List.append_cons_inj_of_notMem notSecond notThird).mp sameRest
      exact Or.inr rfl
  · match middle with
    | [] => exact Or.inl (List.append_nil _).symm
    | head :: rest =>
      obtain ⟨rfl, -⟩ := List.cons_eq_cons.mp behind
      exact absurd (List.mem_append_right _ List.mem_cons_self) notFirst

/-- The notice takes a line of its own, so a text has the banner only where it has the
notice as a line. -/
theorem splitLines_around_banner (before after : String) :
    Text.splitLines (before ++ generatedBanner ++ after) =
      Text.splitLines (before ++ bannerRule) ++
        bannerNotice :: Text.splitLines (bannerRule ++ after) := by
  have notice : Text.splitLines bannerNotice = [bannerNotice] :=
    (Lined.inline oneLine_bannerNotice).splitLines_eq
  have split : before ++ generatedBanner ++ after =
      before ++ bannerRule ++ "\n" ++ (bannerNotice ++ "\n" ++ (bannerRule ++ after)) := by
    rw [generatedBanner_eq]
    simp only [String.append_assoc]
  rw [split, Text.splitLines_append, Text.splitLines_append, notice, List.singleton_append]

/-- Two copies of the banner, and none that starts or ends between them. -/
theorem banner_stands_twice {front inner last : String}
    (notFront : bannerNotice ∉ Text.splitLines (front ++ bannerRule))
    (notInner : bannerNotice ∉ Text.splitLines (bannerRule ++ inner ++ bannerRule))
    (notLast : bannerNotice ∉ Text.splitLines (bannerRule ++ last)) (before after : String) :
    front ++ generatedBanner ++ inner ++ generatedBanner ++ last =
        before ++ generatedBanner ++ after ↔
      (before = front ∧ after = inner ++ generatedBanner ++ last) ∨
        (before = front ++ generatedBanner ++ inner ∧ after = last) := by
  have firstCopy : front ++ generatedBanner ++ inner ++ generatedBanner ++ last =
      front ++ generatedBanner ++ (inner ++ generatedBanner ++ last) := by
    simp only [String.append_assoc]
  have secondLines : Text.splitLines (front ++ generatedBanner ++ inner ++ bannerRule) =
      Text.splitLines (front ++ bannerRule) ++
        bannerNotice :: Text.splitLines (bannerRule ++ inner ++ bannerRule) := by
    have split : front ++ generatedBanner ++ inner ++ bannerRule =
        front ++ generatedBanner ++ (inner ++ bannerRule) :=
      String.append_assoc
    rw [split, splitLines_around_banner, ← String.append_assoc]
  constructor
  · intro split
    have lines := congrArg Text.splitLines split
    rw [splitLines_around_banner, splitLines_around_banner, secondLines, List.append_assoc,
      List.cons_append] at lines
    rcases front_of_twice notFront notInner notLast lines with isFirst | isSecond
    · obtain rfl := (String.append_left_inj _).mp (Text.splitLines_injective isFirst)
      rw [firstCopy] at split
      exact Or.inl ⟨rfl, ((String.append_right_inj _).mp split).symm⟩
    · rw [← secondLines] at isSecond
      obtain rfl := (String.append_left_inj _).mp (Text.splitLines_injective isSecond)
      exact Or.inr ⟨rfl, ((String.append_right_inj _).mp split).symm⟩
  · rintro (⟨rfl, rfl⟩ | ⟨rfl, rfl⟩)
    · exact firstCopy
    · rfl

/-- The notice stands out and is no item. -/
theorem notice_not_mem {lines items : List String} (filtered : lines.filter standsOut = items)
    (areItems : ∀ line ∈ items, lineKind line = .item) : bannerNotice ∉ lines := by
  have isNote : lineKind bannerNotice = .note := by decide
  intro isLine
  have isOut : bannerNotice ∈ lines.filter standsOut :=
    List.mem_filter.mpr ⟨isLine, by rw [standsOut, isNote]; rfl⟩
  rw [filtered] at isOut
  cases isNote.symm.trans (areItems bannerNotice isOut)

namespace SourceUnit

variable {unit : SourceUnit}

/-- The line feed behind the first banner ends its last line. -/
theorem innerLines_eq_cons (unit : SourceUnit) : ∃ more, unit.innerLines = "" :: more ∧
    more.filter standsOut = unit.items := by
  have blank : ¬ standsOut "" = true := by decide
  obtain ⟨more, isMore⟩ : ∃ more, unit.innerLines = "" :: more := ⟨_, rfl⟩
  refine ⟨more, isMore, ?_⟩
  rw [← filter_innerLines, isMore, List.filter_cons_of_neg blank]

theorem banner_twice (oneLine : ∀ text ∈ unit.insertions, OneLine text) (before after : String) :
    unit.text = before ++ generatedBanner ++ after ↔
      (before = licenseBanner unit.licenseHeader ∧
        after = unit.innerText ++ generatedBanner ++ "\n") ∨
      (before = licenseBanner unit.licenseHeader ++ generatedBanner ++ unit.innerText ∧
        after = "\n") := by
  have differs : bannerNotice ≠ bannerRule := by decide
  rw [text_eq]
  apply banner_stands_twice
  · have front := (lined_licenseBanner unit.licenseHeader).start oneLine_bannerRule
    rw [front.splitLines_eq, List.mem_append, List.mem_singleton, not_or]
    exact ⟨notice_not_mem (filter_licenseLines _) (by simp), differs⟩
  · obtain ⟨more, isMore, filtered⟩ := unit.innerLines_eq_cons
    have inner := lined_innerText oneLine
    rw [isMore] at inner
    have between := ((Lined.inline oneLine_bannerRule).append inner).start oneLine_bannerRule
    rw [between.splitLines_eq, String.append_empty, List.nil_append, List.mem_append,
      List.mem_cons, List.mem_singleton, not_or, not_or]
    exact ⟨⟨differs, notice_not_mem filtered unit.lineKind_items⟩, differs⟩
  · have feed : Lined "\n" [""] "" := by decide
    rw [((Lined.inline oneLine_bannerRule).append feed).splitLines_eq]
    decide

theorem filter_splitLines_innerText (oneLine : ∀ text ∈ unit.insertions, OneLine text) :
    (Text.splitLines unit.innerText).filter standsOut = unit.items := by
  have blank : [""].filter standsOut = [] := by decide
  rw [(lined_innerText oneLine).splitLines_eq, List.filter_append, filter_innerLines, blank,
    List.append_nil]

theorem filter_splitLines_text (oneLine : ∀ text ∈ unit.insertions, OneLine text) :
    (Text.splitLines unit.text).filter standsOut = bannerLines ++ unit.items ++ bannerLines := by
  obtain ⟨more, isMore, filtered⟩ := unit.innerLines_eq_cons
  have inner := lined_innerText oneLine
  rw [isMore] at inner
  have feed : Lined "\n" [""] "" := by decide
  have opened := (lined_licenseBanner unit.licenseHeader).appendLines lined_generatedBanner
  have closed := ((opened.append inner).appendLines lined_generatedBanner).append feed
  have rule : standsOut bannerRule = true := by decide
  have notice : standsOut bannerNotice = true := by decide
  have blank : standsOut "" = false := by decide
  rw [text_eq, closed.splitLines_eq]
  simp only [String.append_empty, List.filter_append, List.filter_cons, List.filter_nil,
    filter_licenseLines, filtered, rule, notice, blank, if_true, List.nil_append,
    Bool.false_eq_true, if_false, List.append_assoc, List.cons_append]
  rfl

end SourceUnit

/-! ## Units of accepted catalogs -/

def Catalog.HasOneLineNames (catalog : Catalog) : Prop :=
  ∀ block ∈ catalog.blocks.values, OneLine block.name

def propertyItems (name : String) (values : List String) : List String :=
  let typeName := Identifier.ofRaw name
  match ValueKind.ofValues values with
  | .numeric =>
    ["pub struct " ++ typeName ++ "(pub u8);", "impl BlockProperty for " ++ typeName ++ " \x7b\x7d"]
  | .symbolic =>
    ["pub enum " ++ typeName ++ " \x7b", "impl BlockProperty for " ++ typeName ++ " \x7b\x7d"]

def Block.items (block : Block) : List String :=
  let typeName := Identifier.ofRaw block.name
  let fields := block.properties.keys.map fun property => "pub " ++ Identifier.ofRaw property
  [if block.isSimple then "pub struct " ++ typeName ++ ";"
    else "pub struct " ++ typeName ++ "(" ++ String.intercalate ", " fields ++ ");",
    "impl BlockState for " ++ typeName ++ " \x7b"]

/-- The lines that open the items of the unit for a catalog: the import, a type for
each property of the union, a type for each block, and the table if it is asked for. -/
def Catalog.items (catalog : Catalog) (options : Options) : List String :=
  [useLine options.traitPath] ++
    (catalog.propertyUnion.entries.flatMap fun entry => propertyItems entry.1 entry.2) ++
    catalog.blocks.values.flatMap Block.items ++ if options.stateTable then [tableLine] else []

theorem items_declaration_ofValues (name : String) (values : List String) :
    (PropertyType.ofValues name values).declaration.items = propertyItems name values := by
  unfold PropertyType.declaration propertyItems
  have kind : (PropertyType.ofValues name values).kind = ValueKind.ofValues values := rfl
  rw [kind]
  cases ValueKind.ofValues values <;> rfl

/-- An upper-case form only has a line feed if it is that of the line feed. -/
theorem newline_not_mem_upperCase {character : Char} (notFeed : character ≠ '\n') :
    '\n' ∉ Text.upperCase character :=
  fun isImage => notFeed (Text.eq_of_mem_upperCase isImage (by decide) (by decide)).symm

theorem OneLine.ofRaw {raw : String} (oneLine : OneLine raw) : OneLine (Identifier.ofRaw raw) := by
  have each : ∀ (text : List Char) (opening : Bool), '\n' ∉ text →
      '\n' ∉ Identifier.join opening text := by
    intro text
    induction text with
    | nil => exact fun _ _ => List.not_mem_nil
    | cons character rest restNone =>
      intro opening noFeed
      obtain ⟨notFirst, notRest⟩ := not_or.mp (mt List.mem_cons.mpr noFeed)
      rw [Identifier.join]
      split_ifs
      · exact restNone true notRest
      · rw [List.mem_append, not_or]
        exact ⟨newline_not_mem_upperCase (Ne.symm notFirst), restNone false notRest⟩
      · rw [List.mem_cons, not_or]
        exact ⟨notFirst, restNone false notRest⟩
  rw [OneLine, Identifier.ofRaw, String.toList_ofList]
  exact each raw.toList true oneLine

section Expressions

variable {unit : SourceUnit}

def SourceUnit.PropertiesOneLine (unit : SourceUnit) : Prop :=
  ∀ declaration ∈ unit.properties, ∀ text ∈ declaration.insertions, OneLine text

theorem ValueExpr.Resolves.oneLine (properties : unit.PropertiesOneLine) {expr : ValueExpr}
    {fieldType : String} (resolves : expr.Resolves unit fieldType) : OneLine expr.text := by
  cases resolves with
  | wrapped rawName declared fits =>
    have typeName := properties _ declared fieldType (by simp [PropertyDeclaration.insertions])
    exact ((typeName.append (by decide)).append (.word fits.isWord)).append (by decide)
  | variant rawName variants declared listed =>
    have typeName := properties _ declared fieldType (by simp [PropertyDeclaration.insertions])
    have isVariant := properties _ declared _
      (List.mem_cons_of_mem _ (List.mem_cons_of_mem _ listed))
    exact (typeName.append (by decide)).append isVariant

theorem StateExpr.oneLine_applied (properties : unit.PropertiesOneLine) {typeName : String}
    (oneLine : OneLine typeName) {exprs : List ValueExpr} {fieldTypes : List String}
    (fields : List.Forall₂ (ValueExpr.Resolves unit) exprs fieldTypes) :
    OneLine (StateExpr.applied typeName exprs).text := by
  have each : ∀ text ∈ exprs.map ValueExpr.text, OneLine text := by
    rw [List.forall_mem_map]
    intro expr isExpr
    obtain ⟨fieldType, -, resolves⟩ := exists_related_of_mem fields.flip isExpr
    exact resolves.oneLine properties
  exact ((oneLine.append (by decide)).append (.intercalate (by decide) each)).append (by decide)

theorem Pattern.Resolves.oneLine (properties : unit.PropertiesOneLine) {typeName : String}
    (oneLine : OneLine typeName) {fieldTypes : List String} {scrutinee : Scrutinee}
    {pattern : Pattern} (resolves : pattern.Resolves unit typeName fieldTypes scrutinee) :
    OneLine pattern.text := by
  cases resolves with
  | number rawName declared fits =>
    exact .join (List.forall_mem_singleton.mpr (.word fits.isWord))
  | field resolves => exact .join (List.forall_mem_singleton.mpr (resolves.oneLine properties))
  | whole fields => exact StateExpr.oneLine_applied properties oneLine fields

end Expressions

namespace Catalog.Accepted

variable {catalog : Catalog} {options : Options}

theorem propertiesOneLine (accepted : catalog.Accepted) :
    (catalog.unit options).PropertiesOneLine := by
  intro declaration declared
  rw [properties_unit] at declared
  obtain ⟨⟨name, values⟩, entry, rfl⟩ := List.mem_map.mp declared
  have isKey : name ∈ catalog.propertyUnion.keys := List.mem_map_of_mem entry
  have usable := accepted.names.usable name (List.mem_append_left _ isKey)
  have isRawName : OneLine name := Lexical.newline_not_mem_of_isUsable usable
  have isTypeName : OneLine (Identifier.ofRaw name) := isRawName.ofRaw
  have settled := accepted.settled ((OrderedMap.get?_eq_some_iff _ _ _).mpr entry)
  unfold PropertyType.declaration
  cases kind : (PropertyType.ofValues name values).kind with
  | numeric =>
    rw [PropertyDeclaration.insertions, List.forall_mem_cons, List.forall_mem_singleton]
    exact ⟨isRawName, isTypeName⟩
  | symbolic =>
    rw [PropertyDeclaration.insertions, List.forall_mem_cons, List.forall_mem_cons,
      List.forall_mem_map]
    refine ⟨isRawName, isTypeName, fun value isValue => ?_⟩
    exact .word (.of_isUsable ((settled.variants kind).1 value isValue))

theorem blocksOneLine (accepted : catalog.Accepted) (names : catalog.HasOneLineNames) :
    ∀ declaration ∈ (catalog.unit options).blocks, ∀ text ∈ declaration.insertions,
      OneLine text := by
  intro declaration declared
  have properties : (catalog.unit options).PropertiesOneLine := accepted.propertiesOneLine
  obtain ⟨block, -, member, isDeclared⟩ := exists_related_of_mem accepted.forall₂_blocks declared
  have isRawName := names block member
  have isTypeName := isRawName.ofRaw
  obtain ⟨sameRawName, sameTypeName⟩ := BlockType.names_of_declaration? isDeclared
  have fieldTypes : ∀ fieldType ∈ declaration.fieldTypes, OneLine fieldType := by
    intro fieldType isField
    obtain ⟨property, isProperty, rfl⟩ :=
      List.mem_map.mp (accepted.fieldTypes_declared declared fieldType isField)
    apply properties property isProperty
    cases property <;> simp [PropertyDeclaration.insertions, PropertyDeclaration.typeName]
  cases declaration with
  | fixed rawName typeName id name =>
    obtain rfl : rawName = block.name := sameRawName
    obtain rfl : typeName = Identifier.ofRaw block.name := sameTypeName
    rw [BlockDeclaration.insertions, List.forall_mem_cons, List.forall_mem_singleton]
    exact ⟨isRawName, isTypeName⟩
  | matching rawName typeName declaredTypes scrutinee arms =>
    obtain rfl : rawName = block.name := sameRawName
    obtain rfl : typeName = Identifier.ofRaw block.name := sameTypeName
    rw [BlockDeclaration.insertions, List.cons_append, List.cons_append, List.forall_mem_cons,
      List.forall_mem_cons, List.forall_mem_append, List.forall_mem_map]
    refine ⟨isRawName, isTypeName, fieldTypes, fun arm isArm => ?_⟩
    exact (accepted.patterns_resolve declared arm isArm).oneLine properties isTypeName

theorem tableOneLine (accepted : catalog.Accepted) (names : catalog.HasOneLineNames) :
    ∀ entry ∈ (Layout.unchecked catalog catalog.propertyUnion).tableEntries,
      OneLine entry.expr.text := by
  intro entry isEntry
  have resolves : entry.expr.Resolves (catalog.unit .standard) :=
    accepted.tableEntries_resolve entry isEntry
  have typeName {declaration : BlockDeclaration}
      (declared : declaration ∈ (catalog.unit .standard).blocks) :
      OneLine declaration.typeName := by
    apply accepted.blocksOneLine names declaration declared
    cases declaration <;> simp [BlockDeclaration.insertions, BlockDeclaration.typeName]
  cases isExpr : entry.expr with
  | bare name =>
    rw [isExpr] at resolves
    cases resolves with
    | bare rawName id name declared => exact typeName declared
  | applied name exprs =>
    rw [isExpr] at resolves
    cases resolves with
    | applied rawName fieldTypes scrutinee arms declared fields =>
      exact StateExpr.oneLine_applied accepted.propertiesOneLine (typeName declared) fields

theorem oneLine_insertions (accepted : catalog.Accepted) (names : catalog.HasOneLineNames)
    (path : OneLine options.traitPath) :
    ∀ text ∈ (catalog.unit options).insertions, OneLine text := by
  have table : ∀ entry ∈ (catalog.unit options).table.getD [], OneLine entry.expr.text := by
    intro entry isEntry
    apply accepted.tableOneLine names entry
    cases stateTable : options.stateTable <;>
      simp_all [unit, Layout.sourceUnit]
  simp only [SourceUnit.insertions, List.forall_mem_append, List.forall_mem_singleton,
    List.forall_mem_flatMap, List.forall_mem_map]
  exact ⟨⟨⟨path, accepted.propertiesOneLine⟩, accepted.blocksOneLine names⟩, table⟩

theorem items_block (accepted : catalog.Accepted) {block : Block}
    (member : block ∈ catalog.blocks.values) {declaration : BlockDeclaration}
    (declared : (BlockType.ofBlock catalog.propertyTypes block).declaration? = some declaration) :
    declaration.items = block.items := by
  rcases (accepted.blocks block member).declaration?_cases catalog.propertyTypes with
    ⟨simple, first, rest, -, isFixed⟩ | ⟨composed, isMatching⟩
  · obtain rfl := Option.some.inj (isFixed.symm.trans declared)
    rw [Block.items, if_pos simple]
    rfl
  · obtain rfl := Option.some.inj (isMatching.symm.trans declared)
    have notSimple : ¬ block.isSimple = true := by
      rw [composed]
      exact Bool.false_ne_true
    have fields : (block.properties.keys.map fun property => "pub " ++ Identifier.ofRaw property) =
        ((BlockType.ofBlock catalog.propertyTypes block).fields.map PropertyType.typeName).map
          fun fieldType => "pub " ++ fieldType := by
      rw [accepted.typeName_field member, List.map_map]
      rfl
    rw [Block.items, if_neg notSimple, fields]
    rfl

theorem items_unit (accepted : catalog.Accepted) :
    (catalog.unit options).items = catalog.items options := by
  have properties : (catalog.unit options).properties.flatMap PropertyDeclaration.items =
      catalog.propertyUnion.entries.flatMap fun entry => propertyItems entry.1 entry.2 := by
    rw [properties_unit, List.flatMap_map]
    simp only [items_declaration_ofValues]
  have perBlock : (catalog.unit options).blocks.map BlockDeclaration.items =
      catalog.blocks.values.map Block.items := by
    symm
    apply map_eq_map_of_forall₂ accepted.forall₂_blocks
    rintro block declaration ⟨member, declared⟩
    exact (accepted.items_block member declared).symm
  have blocks : (catalog.unit options).blocks.flatMap BlockDeclaration.items =
      catalog.blocks.values.flatMap Block.items := by
    rw [List.flatMap_def, perBlock, List.flatMap_def]
  have table : ((catalog.unit options).table.map fun _ => [tableLine]).getD [] =
      if options.stateTable then [tableLine] else [] := by
    cases stateTable : options.stateTable <;> simp [unit, Layout.sourceUnit, stateTable]
  rw [SourceUnit.items, properties, blocks, table]
  rfl

end Catalog.Accepted

theorem Catalog.KeyedByName.hasOneLineNames {catalog : Catalog} (keyed : catalog.KeyedByName)
    (accepted : catalog.Accepted) : catalog.HasOneLineNames := by
  intro block member
  exact Lexical.newline_not_mem_of_isUsable
    (Catalog.isUsable_name (accepted.typeNamesSound keyed.identifiedByKey) member)

/-- The unit for an accepted catalog starts with the licence banner and the banner for
generated text, and ends with the latter and a line feed.  Between the two stand the
import, the types of the properties, the types of the blocks and, if it is asked for,
the table.  As long as no name of a block breaks a line, which is so where every block
stands under its own name, the banner stands nowhere else, and the lines that stand
out between its two copies, as in the unit as a whole, are just those that open the
import, one type for each property of the union in order, one type for each block in
order, and the table.  The path of the traits is asked to be on one line. -/
theorem unit_layout (catalog : Catalog) (layout : Layout) (options : Options)
    (laidOut : Layout.ofCatalog catalog = .ok layout) (path : OneLine options.traitPath) :
    let license := licenseBanner options.licenseHeader
    let inner := (layout.sourceUnit options).innerText
    let output := (layout.generate options).value
    output = license ++ generatedBanner ++ inner ++ generatedBanner ++ "\n" ∧
      inner = "\n\n" ++ importLine options.traitPath ++ layout.propertiesText ++
        layout.blocksText ++ (if options.stateTable then layout.tableText else "") ∧
      (catalog.KeyedByName → catalog.HasOneLineNames) ∧
      (catalog.HasOneLineNames →
        (∀ before after, output = before ++ generatedBanner ++ after ↔
          (before = license ∧ after = inner ++ generatedBanner ++ "\n") ∨
            (before = license ++ generatedBanner ++ inner ∧ after = "\n")) ∧
        (Text.splitLines inner).filter standsOut = catalog.items options ∧
        (Text.splitLines output).filter standsOut =
          bannerLines ++ catalog.items options ++ bannerLines) := by
  obtain ⟨accepted, rfl⟩ := (Layout.ofCatalog_eq_ok_iff catalog layout).mp laidOut
  intro license inner output
  have isOutput : output = license ++ generatedBanner ++ inner ++ generatedBanner ++ "\n" :=
    (catalog.unit options).text_eq
  refine ⟨isOutput, ?_, fun keyed => keyed.hasOneLineNames accepted, fun names => ?_⟩
  · cases stateTable : options.stateTable <;>
      simp [inner, SourceUnit.innerText, Layout.sourceUnit, Layout.propertiesText,
        Layout.blocksText, Layout.tableText, stateTable]
  have oneLine : ∀ text ∈ (catalog.unit options).insertions, OneLine text :=
    accepted.oneLine_insertions names path
  have items : (catalog.unit options).items = catalog.items options := accepted.items_unit
  refine ⟨SourceUnit.banner_twice oneLine, ?_, ?_⟩
  · rw [← items]
    exact SourceUnit.filter_splitLines_innerText oneLine
  · rw [← items]
    exact SourceUnit.filter_splitLines_text oneLine

def copiedBanner : Options :=
  { licenseHeader := generatedBanner, stateTable := true }

/-- The copy in the header is indented, so it is not a third banner. -/
theorem unit_layout_of_copiedBanner :
    ∃ layout inner, Layout.ofCatalog sampleCatalog = .ok layout ∧
      OneLine copiedBanner.traitPath ∧ sampleCatalog.KeyedByName ∧
      (∀ before after, (layout.generate copiedBanner).value = before ++ generatedBanner ++ after ↔
        (before = licenseBanner generatedBanner ∧ after = inner ++ generatedBanner ++ "\n") ∨
          (before = licenseBanner generatedBanner ++ generatedBanner ++ inner ∧ after = "\n")) ∧
      (Text.splitLines inner).filter standsOut =
        ["use crate::block::\x7bBlockProperty, BlockState\x7d;",
          "pub struct Layers(pub u8);", "impl BlockProperty for Layers \x7b\x7d",
          "pub enum Lit \x7b", "impl BlockProperty for Lit \x7b\x7d",
          "pub struct Stone;", "impl BlockState for Stone \x7b",
          "pub struct Snow(pub Layers);", "impl BlockState for Snow \x7b",
          "pub struct Cake(pub Layers, pub Lit);", "impl BlockState for Cake \x7b", tableLine] := by
  have path : OneLine copiedBanner.traitPath := by decide
  have keyed : sampleCatalog.KeyedByName := by
    unfold Catalog.KeyedByName
    decide
  obtain ⟨-, -, oneLineNames, laidOut⟩ :=
    unit_layout sampleCatalog _ copiedBanner ofCatalog_sampleCatalog path
  obtain ⟨twice, items, -⟩ := laidOut (oneLineNames keyed)
  exact ⟨_, _, ofCatalog_sampleCatalog, path, keyed, twice, items.trans (by decide)⟩

/-- A block whose name breaks a line, under a key that says nothing about the name. -/
def brokenName : Catalog :=
  Catalog.built [.place "stone" ⟨"stone\n" ++ generatedBanner, ∅, [⟨1, ∅⟩]⟩]

/-- Only the key is checked, so the name gets into the comment over the block's type and
makes a third banner of it. -/
theorem banner_stands_thrice :
    ∃ layout first second third, Layout.ofCatalog brokenName = .ok layout ∧
      OneLine Options.standard.traitPath ∧
      (layout.generate .standard).value = first ++ generatedBanner ++ second ++ generatedBanner ++
        third ++ generatedBanner ++ "\n" := by
  have checked : brokenName.check brokenName.propertyUnion = .ok () := by decide
  have accepted : Layout.ofCatalog brokenName =
      .ok (Layout.unchecked brokenName brokenName.propertyUnion) := by
    rw [Layout.ofCatalog, checked]
    rfl
  have properties : (brokenName.unit .standard).properties = [] := by decide
  obtain ⟨rest, blocks⟩ : ∃ rest, (brokenName.unit .standard).blocks.map BlockDeclaration.text =
      [BlockDeclaration.heading ("stone\n" ++ generatedBanner) ++ rest] :=
    ⟨_, congrArg (fun text => [text]) String.append_assoc⟩
  have heading : BlockDeclaration.heading ("stone\n" ++ generatedBanner) =
      "/// Block state of `" ++ ("stone\n" ++ generatedBanner) ++ "`.\n" :=
    rfl
  have isText : (brokenName.unit .standard).text = _ := SourceUnit.text_eq _
  refine ⟨_, licenseBanner Options.standard.licenseHeader,
    "\n\n" ++ importLine Options.standard.traitPath ++ "/// Block state of `" ++ "stone\n",
    "`.\n" ++ rest, accepted, by decide, isText.trans ?_⟩
  rw [SourceUnit.innerText, properties, blocks, heading]
  simp only [List.map_nil, String.join_nil, String.join_cons, String.append_assoc]
  rfl

end BlockStates
