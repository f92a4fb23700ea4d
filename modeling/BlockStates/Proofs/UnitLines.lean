import BlockStates.Proofs.RawNames
import BlockStates.Proofs.Lexical.Declarations
import BlockStates.Proofs.Lexical.Literals

/-!
# Lines of declarations

The lines that a declaration is written as, and those of them that stand out: what
is declared opens on a line of its own that starts with a letter, and all other
lines start with a blank, a bracket or the mark of a comment that documents.  The
texts of a catalog stay inside of the lines that they are put into.
-/

set_option autoImplicit false

namespace BlockStates

/-! ## Texts made of lines -/

def OneLine (text : String) : Prop :=
  '\n' ∉ text.toList

instance (text : String) : Decidable (OneLine text) :=
  inferInstanceAs (Decidable ('\n' ∉ text.toList))

/-- The lines of a text by its line feeds.  What follows the last one is a line as
well, even if it is empty. -/
def Text.splitLines (text : String) : List String :=
  (text.toList.splitOn '\n').map String.ofList

def unlines (lines : List String) : String :=
  String.join (lines.map fun line => line ++ "\n")

/-- A text that has these lines and behind them the start of another one. -/
structure Lined (text : String) (lines : List String) (last : String) : Prop where
  text_eq : text = unlines lines ++ last
  oneLine : ∀ line ∈ lines, OneLine line
  lastOneLine : OneLine last

instance (text : String) (lines : List String) (last : String) :
    Decidable (Lined text lines last) :=
  decidable_of_iff (text = unlines lines ++ last ∧ (∀ line ∈ lines, OneLine line) ∧ OneLine last)
    ⟨fun all => ⟨all.1, all.2.1, all.2.2⟩, fun lined => ⟨lined.1, lined.2, lined.3⟩⟩

theorem unlines_cons (line : String) (lines : List String) :
    unlines (line :: lines) = line ++ "\n" ++ unlines lines := by
  apply String.toList_inj.mp
  simp [unlines]

theorem unlines_append (first second : List String) :
    unlines (first ++ second) = unlines first ++ unlines second := by
  apply String.toList_inj.mp
  simp [unlines]

theorem Text.splitLines_append (first second : String) :
    Text.splitLines (first ++ "\n" ++ second) =
      Text.splitLines first ++ Text.splitLines second := by
  have feed : (first ++ "\n" ++ second).toList = first.toList ++ '\n' :: second.toList := by simp
  rw [Text.splitLines, feed, List.splitOn, List.splitOnP_append_cons _ _ (by decide),
    List.map_append]
  rfl

theorem Text.splitLines_injective : Function.Injective Text.splitLines := by
  intro first second same
  have sameSplit : first.toList.splitOn '\n' = second.toList.splitOn '\n' :=
    List.map_injective_iff.mpr (fun _ _ equal => String.ofList_injective equal) same
  have joined := congrArg (List.intercalate ['\n']) sameSplit
  rw [List.intercalate_splitOn, List.intercalate_splitOn] at joined
  exact String.toList_inj.mp joined

namespace OneLine

variable {first second : String}

theorem append (isFirst : OneLine first) (isSecond : OneLine second) :
    OneLine (first ++ second) := by
  rw [OneLine, String.toList_append, List.mem_append]
  exact not_or.mpr ⟨isFirst, isSecond⟩

theorem join {parts : List String} (each : ∀ part ∈ parts, OneLine part) :
    OneLine (String.join parts) := by
  rw [OneLine, String.toList_join]
  intro isFeed
  obtain ⟨part, isPart, inPart⟩ := List.mem_flatMap.mp isFeed
  exact each part isPart inPart

theorem intercalate {separator : String} {parts : List String} (between : OneLine separator)
    (each : ∀ part ∈ parts, OneLine part) : OneLine (String.intercalate separator parts) := by
  induction parts with
  | nil => exact List.not_mem_nil
  | cons part rest restOneLine =>
    obtain ⟨isPart, restEach⟩ := List.forall_mem_cons.mp each
    cases rest with
    | nil => rwa [String.intercalate_singleton]
    | cons next later =>
      rw [String.intercalate_cons_cons]
      exact (isPart.append between).append (restOneLine restEach)

theorem word {text : String} (isWord : Lexical.IsWord text) : OneLine text := by
  intro isFeed
  exact absurd (isWord.characters '\n' isFeed) (by decide)

theorem quoted (text : String) : OneLine (Text.quoted text) := by
  intro isFeed
  have noBreak := Lexical.not_breaksLine_quoted text '\n' isFeed
  exact absurd noBreak (by decide)

end OneLine

namespace Lined

variable {text second middle last : String} {lines more : List String}

theorem inline (oneLine : OneLine text) : Lined text [] text :=
  ⟨(String.empty_append).symm, by simp, oneLine⟩

/-- The first line of the second text goes on where the first text ends. -/
theorem append {start : String} (first : Lined text lines start)
    (following : Lined second (middle :: more) last) :
    Lined (text ++ second) (lines ++ (start ++ middle) :: more) last where
  text_eq := by
    rw [first.text_eq, following.text_eq, unlines_append, unlines_cons, unlines_cons]
    simp only [String.append_assoc]
  oneLine := by
    obtain ⟨isMiddle, isMore⟩ := List.forall_mem_cons.mp following.oneLine
    rw [List.forall_mem_append, List.forall_mem_cons]
    exact ⟨first.oneLine, first.lastOneLine.append isMiddle, isMore⟩
  lastOneLine := following.lastOneLine

theorem appendInline {start : String} (first : Lined text lines start) (oneLine : OneLine second) :
    Lined (text ++ second) lines (start ++ second) where
  text_eq := by rw [first.text_eq, String.append_assoc]
  oneLine := first.oneLine
  lastOneLine := first.lastOneLine.append oneLine

/-- Behind whole lines another line starts. -/
theorem start (first : Lined text lines "") (oneLine : OneLine second) :
    Lined (text ++ second) lines second where
  text_eq := by rw [first.text_eq, String.append_empty]
  oneLine := first.oneLine
  lastOneLine := oneLine

theorem appendLines (first : Lined text lines "") (following : Lined second more last) :
    Lined (text ++ second) (lines ++ more) last where
  text_eq := by
    rw [first.text_eq, following.text_eq, unlines_append, String.append_empty, String.append_assoc]
  oneLine := List.forall_mem_append.mpr ⟨first.oneLine, following.oneLine⟩
  lastOneLine := following.lastOneLine

theorem empty : Lined "" [] "" := by
  decide

theorem join {Item : Type} {items : List Item} {textOf : Item → String}
    {linesOf : Item → List String} (each : ∀ item ∈ items, Lined (textOf item) (linesOf item) "") :
    Lined (String.join (items.map textOf)) (items.flatMap linesOf) "" := by
  induction items with
  | nil => exact empty
  | cons item rest restLined =>
    obtain ⟨isLined, restEach⟩ := List.forall_mem_cons.mp each
    rw [List.map_cons, String.join_cons, List.flatMap_cons]
    exact isLined.appendLines (restLined restEach)

/-- Items of which each is written on a line of its own. -/
theorem joinLines {Item : Type} {items : List Item} {textOf lineOf : Item → String}
    (each : ∀ item ∈ items, Lined (textOf item) [lineOf item] "") :
    Lined (String.join (items.map textOf)) (items.map lineOf) "" := by
  rw [List.map_eq_flatMap (f := lineOf)]
  exact join each

theorem splitLines_eq (lined : Lined text lines last) :
    Text.splitLines text = lines ++ [last] := by
  have plain {line : String} (oneLine : OneLine line) :
      ∀ character ∈ line.toList, (character == '\n') = false := by
    rintro character isCharacter
    rw [beq_eq_false_iff_ne]
    rintro rfl
    exact oneLine isCharacter
  obtain ⟨rfl, isLine, isLast⟩ := lined
  unfold Text.splitLines List.splitOn
  induction lines with
  | nil => simp [unlines, List.splitOnP_eq_singleton (plain isLast)]
  | cons line rest restLines =>
    obtain ⟨isFirst, isRest⟩ := List.forall_mem_cons.mp isLine
    have feed : (unlines (line :: rest) ++ last).toList =
        line.toList ++ '\n' :: (unlines rest ++ last).toList := by
      simp [unlines_cons]
    rw [feed, List.splitOnP_append_cons _ _ (by decide),
      List.splitOnP_eq_singleton (plain isFirst), List.singleton_append, List.map_cons,
      String.ofList_toList, restLines isRest, List.cons_append]

end Lined

/-! ## Lines that stand out -/

inductive LineKind where
  /-- The first line of an item: it starts with a letter. -/
  | item
  /-- A comment that documents nothing. -/
  | note
  /-- Any other line. -/
  | inside
  deriving DecidableEq, Repr

def lineKind (line : String) : LineKind :=
  if line.toList.head?.any Char.isAlpha then .item
  else if line.toList.take 3 = ['/', '/', ' '] then .note
  else .inside

/-- Whether a line is the first one of an item, or a note. -/
def standsOut (line : String) : Bool :=
  lineKind line ≠ .inside

/-- The start of a line, long enough to tell what the line is. -/
structure LineStart (start : String) (kind : LineKind) : Prop where
  long : 3 ≤ start.toList.length
  kind_eq : lineKind start = kind

instance (start : String) (kind : LineKind) : Decidable (LineStart start kind) :=
  decidable_of_iff (3 ≤ start.toList.length ∧ lineKind start = kind)
    ⟨fun both => ⟨both.1, both.2⟩, fun isStart => ⟨isStart.1, isStart.2⟩⟩

theorem LineStart.append {start : String} {kind : LineKind} (isStart : LineStart start kind)
    (rest : String) : LineStart (start ++ rest) kind where
  long := by
    rw [String.toList_append, List.length_append]
    exact Nat.le_add_right_of_le isStart.long
  kind_eq := by
    have sameHead : (start.toList ++ rest.toList).head? = start.toList.head? := by
      cases characters : start.toList with
      | nil => simpa [characters] using isStart.long
      | cons first later => rfl
    rw [← isStart.kind_eq, lineKind, lineKind, String.toList_append,
      List.take_append_of_le_length isStart.long, sameHead]

theorem standsOut_of_item {line : String} (isItem : lineKind line = .item) :
    standsOut line = true := by
  rw [standsOut, isItem]
  rfl

/-- An item with an empty line behind it. -/
theorem filter_itemLine {line : String} (isItem : lineKind line = .item) :
    [line, ""].filter standsOut = [line] := by
  have blank : [""].filter standsOut = [] := by decide
  rw [List.filter_cons_of_pos (standsOut_of_item isItem), blank]

theorem filter_insideLine {line : String} (inside : lineKind line = .inside) :
    [line].filter standsOut = [] := by
  rw [List.filter_singleton, standsOut, inside]
  rfl

theorem filter_map_of_inside {Item : Type} {items : List Item} {lineOf : Item → String}
    (inside : ∀ item, lineKind (lineOf item) = .inside) :
    (items.map lineOf).filter standsOut = [] := by
  rw [List.filter_eq_nil_iff, List.forall_mem_map]
  intro item _
  rw [standsOut, inside item]
  exact Bool.false_ne_true

/-! ## Properties -/

namespace PropertyDeclaration

/-- The texts that a declaration has from the catalog, as they are. -/
def insertions : PropertyDeclaration → List String
  | .wrapper rawName typeName => [rawName, typeName]
  | .enumeration rawName typeName variants => rawName :: typeName :: variants

def typeLine : PropertyDeclaration → String
  | .wrapper _ typeName => "pub struct " ++ typeName ++ "(pub u8);"
  | .enumeration _ typeName _ => "pub enum " ++ typeName ++ " \x7b"

def markerLine (typeName : String) : String :=
  "impl BlockProperty for " ++ typeName ++ " \x7b\x7d"

def headingLines (rawName : String) : List String :=
  ["/// Values of the `" ++ rawName ++ "` property.", "#[derive(" ++ derivedTraits ++ ")]"]

def representationLines (variants : List String) : List String :=
  if variants.length ≤ greatestVariantCount then ["#[repr(u8)]"] else []

def variantLine (variant : String) : String :=
  "    " ++ variant ++ ","

def lines : PropertyDeclaration → List String
  | .wrapper rawName typeName =>
    headingLines rawName ++ [typeLine (.wrapper rawName typeName), ""] ++
      [markerLine typeName, ""]
  | .enumeration rawName typeName variants =>
    headingLines rawName ++ representationLines variants ++
      [typeLine (.enumeration rawName typeName variants)] ++ variants.map variantLine ++
      ["\x7d", ""] ++ [markerLine typeName, ""]

theorem lined_heading {rawName : String} (oneLine : OneLine rawName) :
    Lined (heading rawName) (headingLines rawName) "" := by
  have mark : Lined "/// Values of the `" [] "/// Values of the `" := .inline (by decide)
  have derive : Lined "` property.\n#[derive(" ["` property."] "#[derive(" := by decide
  have traits : OneLine derivedTraits := by decide
  have ending : Lined ")]\n" [")]"] "" := by decide
  exact (((mark.appendInline oneLine).append derive).appendInline traits).append ending

theorem lined_marker {typeName : String} (oneLine : OneLine typeName) :
    Lined (marker typeName) [markerLine typeName, ""] "" := by
  have keyword : Lined "impl BlockProperty for " [] "impl BlockProperty for " :=
    .inline (by decide)
  have ending : Lined " \x7b\x7d\n\n" [" \x7b\x7d", ""] "" := by decide
  exact (keyword.appendInline oneLine).append ending

theorem lined_representation (variants : List String) :
    Lined (if variants.length ≤ greatestVariantCount then "#[repr(u8)]\n" else "")
      (representationLines variants) "" := by
  unfold representationLines
  split
  · decide
  · exact .empty

theorem lined_variant {variant : String} (oneLine : OneLine variant) :
    Lined s!"    {variant},\n" [variantLine variant] "" := by
  have indent : Lined "    " [] "    " := .inline (by decide)
  have ending : Lined ",\n" [","] "" := by decide
  exact (indent.appendInline oneLine).append ending

theorem lined {declaration : PropertyDeclaration}
    (oneLine : ∀ text ∈ declaration.insertions, OneLine text) :
    Lined declaration.text declaration.lines "" := by
  cases declaration with
  | wrapper rawName typeName =>
    have isRawName : OneLine rawName := oneLine _ (by simp [insertions])
    have isTypeName : OneLine typeName := oneLine _ (by simp [insertions])
    have keyword : Lined "pub struct " [] "pub struct " := .inline (by decide)
    have field : Lined "(pub u8);\n\n" ["(pub u8);", ""] "" := by decide
    have wrapper := (keyword.appendInline isTypeName).append field
    exact ((lined_heading isRawName).appendLines wrapper).appendLines (lined_marker isTypeName)
  | enumeration rawName typeName variants =>
    have isRawName : OneLine rawName := oneLine _ (by simp [insertions])
    have isTypeName : OneLine typeName := oneLine _ (by simp [insertions])
    have keyword : OneLine "pub enum " := by decide
    have opening : Lined " \x7b\n" [" \x7b"] "" := by decide
    have closing : Lined "\x7d\n\n" ["\x7d", ""] "" := by decide
    have listed : Lined (String.join (variants.map fun variant => s!"    {variant},\n"))
        (variants.map variantLine) "" :=
      .joinLines fun variant isVariant =>
        lined_variant (oneLine variant (by simp [insertions, isVariant]))
    have start := (lined_heading isRawName).appendLines (lined_representation variants)
    have type := ((start.start keyword).appendInline isTypeName).append opening
    exact ((type.appendLines listed).appendLines closing).appendLines (lined_marker isTypeName)

/-- The lines that stand out: the type and the mark on it. -/
def items (declaration : PropertyDeclaration) : List String :=
  [declaration.typeLine, markerLine declaration.typeName]

theorem filter_headingLines (rawName : String) :
    (headingLines rawName).filter standsOut = [] := by
  have comment : LineStart "/// Values of the `" .inside := by decide
  have derive : ["#[derive(" ++ derivedTraits ++ ")]"].filter standsOut = [] := by decide
  have heading := filter_insideLine ((comment.append rawName).append "` property.").kind_eq
  rw [headingLines, ← List.singleton_append, List.filter_append, heading, derive]
  rfl

theorem lineKind_markerLine (typeName : String) : lineKind (markerLine typeName) = .item := by
  have keyword : LineStart "impl BlockProperty for " .item := by decide
  exact ((keyword.append typeName).append " \x7b\x7d").kind_eq

theorem lineKind_typeLine (declaration : PropertyDeclaration) :
    lineKind declaration.typeLine = .item := by
  have wrapper : LineStart "pub struct " .item := by decide
  have enumeration : LineStart "pub enum " .item := by decide
  cases declaration with
  | wrapper rawName typeName => exact ((wrapper.append typeName).append "(pub u8);").kind_eq
  | enumeration rawName typeName variants =>
    exact ((enumeration.append typeName).append " \x7b").kind_eq

theorem lineKind_items (declaration : PropertyDeclaration) :
    ∀ line ∈ declaration.items, lineKind line = .item := by
  rw [items, List.forall_mem_cons, List.forall_mem_singleton]
  exact ⟨declaration.lineKind_typeLine, lineKind_markerLine _⟩

theorem filter_lines (declaration : PropertyDeclaration) :
    declaration.lines.filter standsOut = declaration.items := by
  have type := declaration.lineKind_typeLine
  have marker (typeName : String) := filter_itemLine (lineKind_markerLine typeName)
  cases declaration with
  | wrapper rawName typeName =>
    rw [lines, List.filter_append, List.filter_append, filter_headingLines, marker,
      filter_itemLine type]
    rfl
  | enumeration rawName typeName variants =>
    have representation : (representationLines variants).filter standsOut = [] := by
      unfold representationLines
      split <;> decide
    have indent : LineStart "    " .inside := by decide
    have listed : (variants.map variantLine).filter standsOut = [] :=
      filter_map_of_inside fun variant => ((indent.append variant).append ",").kind_eq
    have closing : ["\x7d", ""].filter standsOut = [] := by decide
    simp only [lines, List.filter_append, filter_headingLines, representation, listed, closing,
      marker, List.filter_singleton, standsOut_of_item type]
    rfl

end PropertyDeclaration

/-! ## Blocks -/

namespace BlockDeclaration

def insertions : BlockDeclaration → List String
  | .fixed rawName typeName _ _ => [rawName, typeName]
  | .matching rawName typeName fieldTypes _ arms =>
    rawName :: typeName :: fieldTypes ++ arms.map fun arm => arm.pattern.text

def typeLine : BlockDeclaration → String
  | .fixed _ typeName _ _ => "pub struct " ++ typeName ++ ";"
  | .matching _ typeName fieldTypes _ _ =>
    "pub struct " ++ typeName ++ "(" ++
      String.intercalate ", " (fieldTypes.map fun fieldType => "pub " ++ fieldType) ++ ");"

def headingLine (rawName : String) : String :=
  "/// Block state of `" ++ rawName ++ "`."

def lookupLine (typeName : String) : String :=
  "impl BlockState for " ++ typeName ++ " \x7b"

def lookupLines (typeName : String) (idBody nameBody : List String) : List String :=
  [lookupLine typeName] ++ (["    fn get_id(&self) -> u16 \x7b"] ++ idBody ++ ["    \x7d"]) ++
    [""] ++ (["    fn get_name(&self) -> &'static str \x7b"] ++ nameBody ++ ["    \x7d"]) ++
    ["\x7d", ""]

def constantLine (result : String) : String :=
  "        " ++ result

def armLine (result : Arm → String) (arm : Arm) : String :=
  "            " ++ arm.pattern.text ++ " => " ++ result arm ++ ","

def selectionLines (scrutinee : Scrutinee) (arms : List Arm) (result : Arm → String) :
    List String :=
  ["        match " ++ scrutinee.text ++ " \x7b"] ++ arms.map (armLine result) ++
    ["            _ => unreachable!(\"invalid block state: \x7b:?\x7d\", self),"] ++
    ["        \x7d"]

def lines : BlockDeclaration → List String
  | .fixed rawName typeName id name =>
    [headingLine rawName] ++
      (["#[derive(" ++ derivedTraits ++ ", Default)]"] ++
        [typeLine (.fixed rawName typeName id name), ""]) ++
      lookupLines typeName [constantLine (toString id.toNat)] [constantLine (Text.quoted name)]
  | .matching rawName typeName fieldTypes scrutinee arms =>
    [headingLine rawName] ++
      (["#[derive(" ++ derivedTraits ++ ")]"] ++
        [typeLine (.matching rawName typeName fieldTypes scrutinee arms), ""]) ++
      ["#[allow(unreachable_patterns)]"] ++
      lookupLines typeName (selectionLines scrutinee arms fun arm => toString arm.id.toNat)
        (selectionLines scrutinee arms fun arm => Text.quoted arm.name)

theorem lined_heading {rawName : String} (oneLine : OneLine rawName) :
    Lined (heading rawName) [headingLine rawName] "" := by
  have mark : Lined "/// Block state of `" [] "/// Block state of `" := .inline (by decide)
  have ending : Lined "`.\n" ["`."] "" := by decide
  exact (mark.appendInline oneLine).append ending

theorem lined_constant {result : String} (oneLine : OneLine result) :
    Lined (constant result) [constantLine result] "" := by
  have indent : Lined "        " [] "        " := .inline (by decide)
  have ending : Lined "\n" [""] "" := by decide
  have line := (indent.appendInline oneLine).append ending
  rwa [String.append_empty] at line

theorem lined_selection {scrutinee : Scrutinee} {arms : List Arm} {result : Arm → String}
    (patterns : ∀ arm ∈ arms, OneLine arm.pattern.text) (results : ∀ arm, OneLine (result arm)) :
    Lined (selection scrutinee arms result) (selectionLines scrutinee arms result) "" := by
  have keyword : Lined "        match " [] "        match " := .inline (by decide)
  have isScrutinee : OneLine scrutinee.text := by cases scrutinee <;> decide
  have opening : Lined " \x7b\n" [" \x7b"] "" := by decide
  have indent : Lined "            " [] "            " := .inline (by decide)
  have arrow : OneLine " => " := by decide
  have comma : Lined ",\n" [","] "" := by decide
  have each : ∀ arm ∈ arms,
      Lined ("            " ++ arm.pattern.text ++ " => " ++ result arm ++ ",\n")
        [armLine result arm] "" := by
    intro arm isArm
    have start := (indent.appendInline (patterns arm isArm)).appendInline arrow
    exact (start.appendInline (results arm)).append comma
  have last : Lined lastArm
      ["            _ => unreachable!(\"invalid block state: \x7b:?\x7d\", self),"] "" := by
    decide
  have closing : Lined "        \x7d\n" ["        \x7d"] "" := by decide
  have start := (keyword.appendInline isScrutinee).append opening
  exact ((start.appendLines (.joinLines each)).appendLines last).appendLines closing

theorem lined_lookups {typeName idText nameText : String} {idBody nameBody : List String}
    (oneLine : OneLine typeName) (ids : Lined idText idBody "")
    (names : Lined nameText nameBody "") :
    Lined (lookups typeName idText nameText) (lookupLines typeName idBody nameBody) "" := by
  have keyword : Lined "impl BlockState for " [] "impl BlockState for " := .inline (by decide)
  have opening : Lined " \x7b\n" [" \x7b"] "" := by decide
  have idHead : Lined "    fn get_id(&self) -> u16 \x7b\n"
      ["    fn get_id(&self) -> u16 \x7b"] "" := by
    decide
  have nameHead : Lined "    fn get_name(&self) -> &'static str \x7b\n"
      ["    fn get_name(&self) -> &'static str \x7b"] "" := by
    decide
  have functionEnd : Lined "    \x7d\n" ["    \x7d"] "" := by decide
  have blank : Lined "\n" [""] "" := by decide
  have closing : Lined "\x7d\n\n" ["\x7d", ""] "" := by decide
  have start := (keyword.appendInline oneLine).append opening
  have idFunction := (idHead.appendLines ids).appendLines functionEnd
  have nameFunction := (nameHead.appendLines names).appendLines functionEnd
  have body := ((start.appendLines idFunction).appendLines blank).appendLines nameFunction
  exact body.appendLines closing

theorem lined {declaration : BlockDeclaration}
    (oneLine : ∀ text ∈ declaration.insertions, OneLine text) :
    Lined declaration.text declaration.lines "" := by
  cases declaration with
  | fixed rawName typeName id name =>
    have isRawName : OneLine rawName := oneLine _ (by simp [insertions])
    have isTypeName : OneLine typeName := oneLine _ (by simp [insertions])
    have keyword : Lined ("#[derive(" ++ derivedTraits ++ ", Default)]\npub struct ")
        ["#[derive(" ++ derivedTraits ++ ", Default)]"] "pub struct " := by
      decide
    have noFields : Lined ";\n\n" [";", ""] "" := by decide
    have type := (keyword.appendInline isTypeName).append noFields
    exact ((lined_heading isRawName).appendLines type).appendLines
      (lined_lookups isTypeName (lined_constant (.word (.number id.toNat)))
        (lined_constant (.quoted name)))
  | matching rawName typeName fieldTypes scrutinee arms =>
    have isRawName : OneLine rawName := oneLine _ (by simp [insertions])
    have isTypeName : OneLine typeName := oneLine _ (by simp [insertions])
    have patterns : ∀ arm ∈ arms, OneLine arm.pattern.text := by
      intro arm isArm
      exact oneLine _ (List.mem_append_right _ (List.mem_map_of_mem isArm))
    have fields : OneLine
        (String.intercalate ", " (fieldTypes.map fun fieldType => "pub " ++ fieldType)) := by
      have visibility : OneLine "pub " := by decide
      apply OneLine.intercalate (by decide)
      rw [List.forall_mem_map]
      intro fieldType isField
      exact visibility.append (oneLine _ (by simp [insertions, isField]))
    have keyword : Lined ("#[derive(" ++ derivedTraits ++ ")]\npub struct ")
        ["#[derive(" ++ derivedTraits ++ ")]"] "pub struct " := by
      decide
    have opening : OneLine "(" := by decide
    have closing : Lined ");\n\n" [");", ""] "" := by decide
    have lint : Lined "#[allow(unreachable_patterns)]\n" ["#[allow(unreachable_patterns)]"] "" := by
      decide
    have start := (keyword.appendInline isTypeName).appendInline opening
    have type := (start.appendInline fields).append closing
    exact (((lined_heading isRawName).appendLines type).appendLines lint).appendLines
      (lined_lookups isTypeName
        (lined_selection patterns fun arm => .word (.number arm.id.toNat))
        (lined_selection patterns fun arm => .quoted arm.name))

def items (declaration : BlockDeclaration) : List String :=
  [declaration.typeLine, lookupLine declaration.typeName]

theorem filter_selectionLines (scrutinee : Scrutinee) (arms : List Arm) (result : Arm → String) :
    (selectionLines scrutinee arms result).filter standsOut = [] := by
  have keyword : LineStart "        match " .inside := by decide
  have indent : LineStart "            " .inside := by decide
  have start := filter_insideLine ((keyword.append scrutinee.text).append " \x7b").kind_eq
  have listed : (arms.map (armLine result)).filter standsOut = [] :=
    filter_map_of_inside fun arm =>
      ((((indent.append _).append _).append _).append _).kind_eq
  have last : ["            _ => unreachable!(\"invalid block state: \x7b:?\x7d\", self),"].filter
      standsOut = [] := by
    decide
  have closing : ["        \x7d"].filter standsOut = [] := by decide
  simp only [selectionLines, List.filter_append, start, listed, last, closing, List.append_nil]

theorem lineKind_lookupLine (typeName : String) : lineKind (lookupLine typeName) = .item := by
  have keyword : LineStart "impl BlockState for " .item := by decide
  exact ((keyword.append typeName).append " \x7b").kind_eq

theorem filter_lookupLines (typeName : String) {idBody nameBody : List String}
    (ids : idBody.filter standsOut = []) (names : nameBody.filter standsOut = []) :
    (lookupLines typeName idBody nameBody).filter standsOut = [lookupLine typeName] := by
  have isItem := standsOut_of_item (lineKind_lookupLine typeName)
  have idHead : ["    fn get_id(&self) -> u16 \x7b"].filter standsOut = [] := by decide
  have nameHead : ["    fn get_name(&self) -> &'static str \x7b"].filter standsOut = [] := by
    decide
  have functionEnd : ["    \x7d"].filter standsOut = [] := by decide
  have blank : [""].filter standsOut = [] := by decide
  have closing : ["\x7d", ""].filter standsOut = [] := by decide
  simp only [lookupLines, List.filter_append, ids, names, idHead, nameHead, functionEnd, blank,
    closing, List.filter_singleton, isItem, cond_true, List.append_nil]

theorem lineKind_typeLine (declaration : BlockDeclaration) :
    lineKind declaration.typeLine = .item := by
  have keyword : LineStart "pub struct " .item := by decide
  cases declaration
  · exact ((keyword.append _).append _).kind_eq
  · exact ((((keyword.append _).append _).append _).append _).kind_eq

theorem lineKind_items (declaration : BlockDeclaration) :
    ∀ line ∈ declaration.items, lineKind line = .item := by
  rw [items, List.forall_mem_cons, List.forall_mem_singleton]
  exact ⟨declaration.lineKind_typeLine, lineKind_lookupLine _⟩

theorem filter_lines (declaration : BlockDeclaration) :
    declaration.lines.filter standsOut = declaration.items := by
  have type := filter_itemLine declaration.lineKind_typeLine
  have comment : LineStart "/// Block state of `" .inside := by decide
  have heading (rawName : String) : [headingLine rawName].filter standsOut = [] :=
    filter_insideLine ((comment.append rawName).append "`.").kind_eq
  cases declaration with
  | fixed rawName typeName id name =>
    have indent : LineStart "        " .inside := by decide
    have constant (result : String) : [constantLine result].filter standsOut = [] :=
      filter_insideLine (indent.append result).kind_eq
    have derive : ["#[derive(" ++ derivedTraits ++ ", Default)]"].filter standsOut = [] := by
      decide
    have lookups := filter_lookupLines typeName (constant (toString id.toNat))
      (constant (Text.quoted name))
    simp only [lines, List.filter_append, heading, derive, type, lookups]
    rfl
  | matching rawName typeName fieldTypes scrutinee arms =>
    have derive : ["#[derive(" ++ derivedTraits ++ ")]"].filter standsOut = [] := by
      decide
    have lint : ["#[allow(unreachable_patterns)]"].filter standsOut = [] := by decide
    have lookups := filter_lookupLines typeName
      (filter_selectionLines scrutinee arms fun arm => toString arm.id.toNat)
      (filter_selectionLines scrutinee arms fun arm => Text.quoted arm.name)
    simp only [lines, List.filter_append, heading, derive, type, lint, lookups]
    rfl

end BlockDeclaration

/-! ## The state table -/

def TableEntry.line (entry : TableEntry) : String :=
  "        (" ++ boxPath ++ "::new(" ++ entry.expr.text ++ ") as " ++ boxPath ++
    "<dyn BlockState>, " ++ toString entry.id.toNat ++ ", " ++ Text.quoted entry.name ++ "),"

def tableLine : String :=
  s!"pub fn all_block_states() -> {listPath}<({boxPath}<dyn BlockState>, u16, " ++
    "&'static str)> \x7b"

def tableLines (entries : List TableEntry) : List String :=
  ["/// Every catalog state with the id and name the catalog assigns it.", "#[must_use]"] ++
    [tableLine] ++ ["    vec!["] ++ entries.map TableEntry.line ++ ["    ]", "\x7d", ""]

theorem TableEntry.lined {entry : TableEntry} (oneLine : OneLine entry.expr.text) :
    Lined entry.text [entry.line] "" := by
  have opening : Lined ("        (" ++ boxPath ++ "::new(") []
      ("        (" ++ boxPath ++ "::new(") :=
    .inline (by decide)
  have cast : OneLine (") as " ++ boxPath ++ "<dyn BlockState>, ") := by decide
  have id : OneLine (toString entry.id.toNat ++ ", ") :=
    (OneLine.word (.number entry.id.toNat)).append (by decide)
  have closing : Lined "),\n" ["),"] "" := by decide
  have start := (opening.appendInline oneLine).appendInline cast
  have whole := ((start.appendInline id).appendInline (.quoted entry.name)).append closing
  rw [List.nil_append] at whole
  unfold text line
  simpa only [toString, String.append_assoc] using whole

theorem lined_tableText {entries : List TableEntry}
    (oneLine : ∀ entry ∈ entries, OneLine entry.expr.text) :
    Lined (tableText entries) (tableLines entries) "" := by
  have comment : Lined "/// Every catalog state with the id and name the catalog assigns it.\n"
      ["/// Every catalog state with the id and name the catalog assigns it."] "" := by
    decide
  have lint : Lined "#[must_use]\n" ["#[must_use]"] "" := by decide
  have signature : OneLine
      s!"pub fn all_block_states() -> {listPath}<({boxPath}<dyn BlockState>, u16, " := by
    decide
  have opening : Lined "&'static str)> \x7b\n    vec![\n"
      ["&'static str)> \x7b", "    vec!["] "" := by
    decide
  have closing : Lined "    ]\n\x7d\n\n" ["    ]", "\x7d", ""] "" := by decide
  have entryLines : Lined (String.join (entries.map TableEntry.text)) (entries.map TableEntry.line)
      "" :=
    .joinLines fun entry isEntry => TableEntry.lined (oneLine entry isEntry)
  have head := ((comment.appendLines lint).start signature).append opening
  exact (head.appendLines entryLines).appendLines closing

theorem lineKind_tableLine : lineKind tableLine = .item := by
  have keyword : LineStart "pub fn all_block_states() -> " .item := by decide
  exact (((((keyword.append _).append _).append _).append _).append _).kind_eq

theorem filter_tableLines (entries : List TableEntry) :
    (tableLines entries).filter standsOut = [tableLine] := by
  have indent : LineStart "        (" .inside := by decide
  have entryLine (entry : TableEntry) : lineKind entry.line = .inside := by
    unfold TableEntry.line
    simp only [String.append_assoc]
    exact (indent.append _).kind_eq
  have comment : ["/// Every catalog state with the id and name the catalog assigns it.",
      "#[must_use]"].filter standsOut = [] := by
    decide
  have opening : ["    vec!["].filter standsOut = [] := by decide
  have closing : ["    ]", "\x7d", ""].filter standsOut = [] := by decide
  simp only [tableLines, List.filter_append, comment, List.filter_singleton,
    standsOut_of_item lineKind_tableLine, opening, filter_map_of_inside entryLine, closing]
  rfl

end BlockStates
