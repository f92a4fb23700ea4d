import BlockStates.Proofs.Code.Reader
import BlockStates.Proofs.Lexical.Declarations

/-!
# Reading declarations

What a reader of code finds where a declaration is written: the declared type,
and for a block its look-ups with the very arms of the declaration.  Each part is
followed from its tokens to its trees and from the trees to what is read.
-/

set_option autoImplicit false

namespace BlockStates

open Code Code.Tree Lexical

/-! ## Expressions and patterns -/

def ValueExpr.trees : ValueExpr → List Tree
  | .wrapped typeName digits => [word typeName, group '(' [number digits]]
  | .variant typeName variantName => [word typeName, pathMark, word variantName]

def StateExpr.trees : StateExpr → List Tree
  | .bare typeName => [word typeName]
  | .applied typeName fields =>
    [word typeName, group '(' ([mark ','].intercalate (fields.map ValueExpr.trees))]

def Pattern.trees : Pattern → List Tree
  | .numbers parts => [number (String.join parts)]
  | .values parts => parts.flatMap ValueExpr.trees
  | .state expr => expr.trees

def Scrutinee.trees : Scrutinee → List Tree
  | .number => [word "self", mark '.', Tree.number "0", mark '.', Tree.number "0"]
  | .field => [word "self", mark '.', Tree.number "0"]
  | .whole => [word "self"]

theorem mapM_map_eq_some {Item : Type} {items : List Item} {treesFor : Item → List Tree}
    {read? : List Tree → Option Item}
    (each : ∀ item ∈ items, read? (treesFor item) = some item) :
    (items.map treesFor).mapM read? = some items := by
  induction items with
  | nil => rfl
  | cons item rest restRead =>
    obtain ⟨first, later⟩ := List.forall_mem_cons.mp each
    rw [List.map_cons, List.mapM_cons, first, restRead later]
    rfl

theorem grows_comma : GrowsInto [.mark ',', .mark ' '] [mark ','] :=
  fun _ _ => rfl

theorem IsByteNumber.isDigit {digits : String} (isNumber : IsByteNumber digits) :
    ∀ character ∈ digits.toList, character.isDigit = true := by
  intro character member
  rw [Char.isDigit, Bool.and_eq_true, decide_eq_true_iff, decide_eq_true_iff]
  exact isNumber.digits character member

theorem IsByteNumber.isDecimal {digits : String} (isNumber : IsByteNumber digits) :
    isDecimal digits = true :=
  List.all_eq_true.mpr isNumber.isDigit

theorem IsByteNumber.isNumeric {digits : String} (isNumber : IsByteNumber digits) :
    isNumeric digits = true := by
  have nonempty : digits.toList ≠ [] := fun empty =>
    isNumber.nonempty (String.toList_eq_nil_iff.mp empty)
  obtain ⟨first, rest, characters⟩ := List.exists_cons_of_ne_nil nonempty
  have isDigit := isNumber.isDigit first (by simp [characters])
  rw [Lexical.isNumeric, characters, List.head?_cons, Option.any_some, isDigit]

section Expressions

variable {unit : SourceUnit} {expr : ValueExpr} {exprs : List ValueExpr}
  {typeName fieldType : String} {fieldTypes : List String}

theorem ValueExpr.Resolves.grows (words : unit.NamesAreWords)
    (resolves : expr.Resolves unit fieldType) : GrowsInto expr.tokens expr.trees := by
  cases resolves with
  | wrapped rawName declared fits =>
    exact (GrowsInto.word (words.property declared).isName).append
      (.parens (.number fits.isNumeric))
  | variant rawName variants declared listed =>
    have path : GrowsInto [.mark ':', .mark ':'] [pathMark] := fun _ _ => rfl
    exact ((GrowsInto.word (words.property declared).isName).append path).append
      (.word (words.variants _ _ _ declared _ listed).isName)

theorem ValueExpr.Resolves.value?_trees (resolves : expr.Resolves unit fieldType) :
    value? expr.trees = some expr := by
  cases resolves with
  | wrapped rawName declared fits => exact if_pos fits.isDecimal
  | variant rawName variants declared listed => rfl

theorem ValueExpr.isPart_trees (expr : ValueExpr) : IsPart expr.trees := by
  cases expr <;> exact ⟨by simp [trees], by simp [trees]⟩

theorem ValueExpr.exists_resolves
    (fields : List.Forall₂ (ValueExpr.Resolves unit) exprs fieldTypes) :
    ∀ expr ∈ exprs, ∃ fieldType, expr.Resolves unit fieldType := by
  induction fields with
  | nil => simp
  | cons resolves _ rest => exact List.forall_mem_cons.mpr ⟨⟨_, resolves⟩, rest⟩

theorem StateExpr.grows_applied (words : unit.NamesAreWords) (isName : isNumeric typeName = false)
    (fields : List.Forall₂ (ValueExpr.Resolves unit) exprs fieldTypes) :
    GrowsInto (StateExpr.applied typeName exprs).tokens
      (StateExpr.applied typeName exprs).trees := by
  have each : ∀ expr ∈ exprs, GrowsInto expr.tokens expr.trees := by
    intro expr member
    obtain ⟨fieldType, resolves⟩ := ValueExpr.exists_resolves fields expr member
    exact resolves.grows words
  exact (GrowsInto.word isName).append (.parens (.intercalate grows_comma each))

theorem StateExpr.state?_applied (typeName : String)
    (fields : List.Forall₂ (ValueExpr.Resolves unit) exprs fieldTypes) :
    state? (StateExpr.applied typeName exprs).trees = some (.applied typeName exprs) := by
  have each : ∀ expr ∈ exprs, value? expr.trees = some expr := by
    intro expr member
    obtain ⟨fieldType, resolves⟩ := ValueExpr.exists_resolves fields expr member
    exact resolves.value?_trees
  rw [trees, state?, IsPart.parts_intercalate fun expr _ => expr.isPart_trees,
    mapM_map_eq_some each]
  rfl

theorem StateExpr.Resolves.grows (words : unit.NamesAreWords) {expr : StateExpr}
    (resolves : expr.Resolves unit) : GrowsInto expr.tokens expr.trees := by
  cases resolves with
  | bare rawName id name declared => exact .word (words.block declared).isName
  | applied rawName fieldTypes scrutinee arms declared fields =>
    exact StateExpr.grows_applied words (words.block declared).isName fields

theorem StateExpr.Resolves.state?_trees {expr : StateExpr} (resolves : expr.Resolves unit) :
    state? expr.trees = some expr := by
  cases resolves with
  | bare rawName id name declared => rfl
  | applied rawName fieldTypes scrutinee arms declared fields =>
    exact StateExpr.state?_applied _ fields

/-- The arguments of a state are values, so no state is taken for a value. -/
theorem StateExpr.value?_applied (typeName : String) (exprs : List ValueExpr) :
    value? (StateExpr.applied typeName exprs).trees = none := by
  match exprs with
  | [] => rfl
  | [expr] => cases expr <;> rfl
  | expr :: next :: rest => cases expr <;> rfl

theorem ValueExpr.pattern?_trees (expr : ValueExpr) :
    pattern? expr.trees =
      match value? expr.trees with
      | some expr => some (.values [expr])
      | none => (state? expr.trees).map .state := by
  cases expr <;> rfl

theorem Pattern.Resolves.grows (words : unit.NamesAreWords) (isName : isNumeric typeName = false)
    {scrutinee : Scrutinee} {pattern : Pattern}
    (resolves : pattern.Resolves unit typeName fieldTypes scrutinee) :
    GrowsInto pattern.tokens pattern.trees := by
  cases resolves with
  | @number rawName fieldType digits declared fits =>
    have single : String.join [digits] = digits := by simp
    rw [Pattern.tokens, Pattern.trees, single]
    exact .number fits.isNumeric
  | field resolves =>
    rw [Pattern.tokens, Pattern.trees, List.flatMap_singleton, List.flatMap_singleton]
    exact resolves.grows words
  | whole fields => exact StateExpr.grows_applied words isName fields

theorem Pattern.Resolves.pattern?_trees {scrutinee : Scrutinee} {pattern : Pattern}
    (resolves : pattern.Resolves unit typeName fieldTypes scrutinee) :
    pattern? pattern.trees = some pattern := by
  cases resolves with
  | @number rawName fieldType digits declared fits =>
    have single : String.join [digits] = digits := by simp
    rw [Pattern.trees, single]
    exact if_pos fits.isDecimal
  | @field fieldType expr resolves =>
    rw [Pattern.trees, List.flatMap_singleton, expr.pattern?_trees, resolves.value?_trees]
  | @whole fieldTypes exprs fields =>
    have isPattern : pattern? (Pattern.state (.applied typeName exprs)).trees =
        match value? (StateExpr.applied typeName exprs).trees with
        | some expr => some (.values [expr])
        | none => (state? (StateExpr.applied typeName exprs).trees).map .state := rfl
    rw [isPattern, StateExpr.value?_applied, StateExpr.state?_applied typeName fields]
    rfl

theorem Pattern.Resolves.noComma_trees {scrutinee : Scrutinee} {pattern : Pattern}
    (resolves : pattern.Resolves unit typeName fieldTypes scrutinee) :
    mark ',' ∉ pattern.trees := by
  cases resolves with
  | number rawName declared fits => simp [Pattern.trees]
  | @field fieldType expr resolves => simpa [Pattern.trees] using expr.isPart_trees.noComma
  | whole fields => simp [Pattern.trees, StateExpr.trees]

theorem Scrutinee.grows (scrutinee : Scrutinee) : GrowsInto scrutinee.tokens scrutinee.trees := by
  cases scrutinee <;> exact fun _ _ => rfl

theorem Scrutinee.scrutinee?_trees (scrutinee : Scrutinee) :
    scrutinee? scrutinee.trees = some scrutinee := by
  cases scrutinee <;> rfl

end Expressions

/-! ## Bodies of look-ups -/

theorem decimalValue_toDigits (number : Nat) :
    decimalValue (Nat.toDigits 10 number) = number := by
  have digit : ∀ digit < 10, (Nat.digitChar digit).toNat - 0x30 = digit := by decide
  induction number using Nat.strongRecOn with
  | ind number smaller =>
    by_cases single : number < 10
    · rw [Nat.toDigits_of_lt_base single]
      simp [decimalValue, digit number single]
    · have long : 10 ≤ number := Nat.le_of_not_lt single
      have front : (Nat.toDigits 10 (number / 10)).foldl _ 0 = number / 10 :=
        smaller (number / 10) (by omega)
      rw [Nat.toDigits_of_base_le (by decide) long, decimalValue, List.foldl_append, front,
        List.foldl_cons, List.foldl_nil, digit _ (Nat.mod_lt number (by decide))]
      omega

theorem id?_number (id : UInt16) : id? (number (toString id.toNat)) = some id := by
  have characters : (toString id.toNat).toList = Nat.toDigits 10 id.toNat := Nat.toList_repr
  have decimal : isDecimal (toString id.toNat) = true := by
    rw [isDecimal, characters, List.all_eq_true]
    exact fun character member => Nat.isDigit_of_mem_toDigits (by decide) (by decide) member
  have value : decimalValue (toString id.toNat).toList = id.toNat := by
    rw [characters, decimalValue_toDigits]
  have small : id.toNat < 65536 := id.toNat_lt
  rw [id?, decimal, value]
  simp [small]

theorem text?_literal (text : String) : text? (literal (Text.quoted text)) = some text :=
  meaning?_quoted text

def Arm.trees (arm : Arm) (result : Tree) : List Tree :=
  arm.pattern.trees ++ [arrow, result]

def lastArmTrees : List Tree :=
  [word "_", arrow, word "unreachable", mark '!',
    group '(' [literal "\"invalid block state: \x7b:?\x7d\"", mark ',', word "self"]]

def selectionTrees (scrutinee : Scrutinee) (arms : List Arm) (result : Arm → Tree) : List Tree :=
  word "match" :: scrutinee.trees ++
    [group '\x7b' ((arms.map (fun arm => arm.trees (result arm)) ++ [lastArmTrees]).flatMap
      fun trees => trees ++ [mark ','])]

section Bodies

variable {scrutinee : Scrutinee} {arms : List Arm} {resultTokens : Arm → List Token}
  {tree : Arm → Tree} {Result : Type} {result? : Tree → Option Result} {resultOf : Arm → Result}

theorem grows_constant {result : List Token} {tree : Tree} (grows : GrowsInto result [tree]) :
    GrowsInto (BlockDeclaration.constantTokens result) [tree] := by
  have indent : GrowsInto (tokensOf "        ") [] := fun _ _ => rfl
  have ending : GrowsInto (tokensOf "\n") [] := fun _ _ => rfl
  exact (indent.append grows).append ending

theorem grows_arm {arm : Arm} (pattern : GrowsInto arm.pattern.tokens arm.pattern.trees)
    (result : GrowsInto (resultTokens arm) [tree arm]) :
    GrowsInto (BlockDeclaration.armTokens resultTokens arm)
      (arm.trees (tree arm) ++ [mark ',']) := by
  have indent : GrowsInto (tokensOf "            ") [] := fun _ _ => rfl
  have between : GrowsInto (tokensOf " => ") [arrow] := fun _ _ => rfl
  have comma : GrowsInto (tokensOf ",\n") [mark ','] := fun _ _ => rfl
  have grows := (((indent.append pattern).append between).append result).append comma
  simpa [Arm.trees, BlockDeclaration.armTokens] using grows

theorem grows_lastArm :
    GrowsInto (tokensOf BlockDeclaration.lastArm) (lastArmTrees ++ [mark ',']) :=
  fun _ _ => rfl

theorem opens_brace : Opens (tokensOf " \x7b\n") [] '\x7b' :=
  fun _ _ => rfl

theorem grows_selection (patterns : ∀ arm ∈ arms, GrowsInto arm.pattern.tokens arm.pattern.trees)
    (results : ∀ arm, GrowsInto (resultTokens arm) [tree arm]) :
    GrowsInto (BlockDeclaration.selectionTokens scrutinee arms resultTokens)
      (selectionTrees scrutinee arms tree) := by
  have keyword : GrowsInto (tokensOf "        match ") [word "match"] := fun _ _ => rfl
  have closing : Closes (tokensOf "        \x7d\n") '\x7b' [] := fun _ _ _ => rfl
  have listed : GrowsInto (arms.flatMap (BlockDeclaration.armTokens resultTokens))
      (arms.flatMap fun arm => arm.trees (tree arm) ++ [mark ',']) :=
    .flatMap fun arm member => grows_arm (patterns arm member) (results arm)
  have grows := GrowsInto.group ((keyword.append scrutinee.grows).opens opens_brace)
    (listed.append grows_lastArm) closing
  simpa [selectionTrees, BlockDeclaration.selectionTokens, List.flatMap_map] using grows

theorem arm?_trees {arm : Arm} (pattern : pattern? arm.pattern.trees = some arm.pattern)
    (result : result? (tree arm) = some (resultOf arm)) :
    arm? result? (arm.trees (tree arm)) = some (arm.pattern, resultOf arm) := by
  simp [arm?, Arm.trees, pattern, result]

theorem lastArm?_trees : lastArm? lastArmTrees = some BlockDeclaration.unknownState := by
  decide +kernel

theorem arms?_trees (patterns : ∀ arm ∈ arms, pattern? arm.pattern.trees = some arm.pattern)
    (results : ∀ arm, result? (tree arm) = some (resultOf arm)) :
    arms? result? (arms.map (fun arm => arm.trees (tree arm)) ++ [lastArmTrees]) =
      some (arms.map fun arm => (arm.pattern, resultOf arm), BlockDeclaration.unknownState) := by
  induction arms with
  | nil =>
    rw [List.map_nil, List.nil_append, arms?, lastArm?_trees]
    rfl
  | cons arm rest restRead =>
    obtain ⟨pattern, later⟩ := List.forall_mem_cons.mp patterns
    have isArm := arm?_trees pattern (results arm)
    have isRest := restRead later
    -- Some arm follows, so this one is not read as the last.
    obtain ⟨next, others, split⟩ := List.exists_cons_of_ne_nil
      (List.append_ne_nil_of_right_ne_nil (rest.map fun arm => arm.trees (tree arm))
        (List.cons_ne_nil lastArmTrees []))
    rw [List.map_cons, List.cons_append]
    rw [split] at isRest ⊢
    rw [arms?, isRest]
    · simp [isArm]
    · simp

theorem body?_selection {unit : SourceUnit} {typeName : String} {fieldTypes : List String}
    (patterns : ∀ arm ∈ arms, arm.pattern.Resolves unit typeName fieldTypes scrutinee)
    (results : ∀ arm, result? (tree arm) = some (resultOf arm))
    (marks : ∀ arm, tree arm ≠ mark ',') :
    body? result? (selectionTrees scrutinee arms tree) =
      some (.selection scrutinee (arms.map fun arm => (arm.pattern, resultOf arm))
        BlockDeclaration.unknownState) := by
  have areParts : ∀ trees ∈ arms.map (fun arm => arm.trees (tree arm)) ++ [lastArmTrees],
      IsPart (id trees) := by
    rw [List.forall_mem_append, List.forall_mem_singleton, List.forall_mem_map]
    refine ⟨fun arm member => ⟨by simp [Arm.trees], ?_⟩, ⟨by simp [lastArmTrees], ?_⟩⟩
    · have noComma := (patterns arm member).noComma_trees
      simp [Arm.trees, noComma, (marks arm).symm]
    · simp [lastArmTrees]
  have read := arms?_trees (fun arm member => (patterns arm member).pattern?_trees) results
  have isBody : body? result? (selectionTrees scrutinee arms tree) =
      (arms? result? (parts ((arms.map (fun arm => arm.trees (tree arm)) ++
        [lastArmTrees]).flatMap fun trees => id trees ++ [mark ',']))).bind fun read =>
        (scrutinee? scrutinee.trees).bind fun scrutinee =>
          some (.selection scrutinee read.1 read.2) := by
    cases scrutinee <;> rfl
  rw [isBody, IsPart.parts_flatMap areParts, List.map_id, read, Scrutinee.scrutinee?_trees]
  rfl

end Bodies

/-! ## Properties -/

def PropertyDeclaration.content : PropertyDeclaration → Code
  | .wrapper _ typeName => [.struct typeName [byteType], .property typeName]
  | .enumeration _ typeName variants => [.enumeration typeName variants, .property typeName]

def fieldTrees (fieldTypes : List String) : List Tree :=
  [mark ','].intercalate (fieldTypes.map fun fieldType => [word "pub", word fieldType])

theorem items?_struct (typeName : String) {fieldTypes : List String} (composed : fieldTypes ≠ [])
    (rest : List Tree) :
    items? ([word "pub", word "struct", word typeName, group '(' (fieldTrees fieldTypes),
        mark ';'] ++ rest) =
      (items? rest).map fun later => .struct typeName fieldTypes :: later := by
  have areParts : ∀ fieldType ∈ fieldTypes, IsPart [word "pub", word fieldType] :=
    fun _ _ => ⟨by simp, by simp⟩
  have read : (fieldTypes.map fun fieldType => [word "pub", word fieldType]).mapM fieldType? =
      some fieldTypes :=
    mapM_map_eq_some fun _ _ => rfl
  rw [← IsPart.parts_intercalate areParts, ← fieldTrees] at read
  obtain ⟨first, others, split⟩ : ∃ first others, fieldTrees fieldTypes = first :: others := by
    match fieldTypes with
    | [] => exact absurd rfl composed
    | [fieldType] => exact ⟨_, _, rfl⟩
    | fieldType :: next :: later => exact ⟨_, _, rfl⟩
  rw [split] at read ⊢
  have isStruct : items? ([word "pub", word "struct", word typeName, group '(' (first :: others),
      mark ';'] ++ rest) = ((parts (first :: others)).mapM fieldType?).bind fun fieldTypes =>
        (items? rest).bind fun later => some (.struct typeName fieldTypes :: later) := rfl
  rw [isStruct, read, Option.bind_some, Option.map_eq_bind]
  rfl

def deriveTrees (more : List Tree) : List Tree :=
  [word "derive", group '(' ([word "Debug", mark ',', word "Clone", mark ',', word "Copy",
    mark ',', word "PartialEq", mark ',', word "Eq", mark ',', word "Hash"] ++ more)]

namespace PropertyDeclaration

theorem reads_heading (rawName : String) : Reads (headingTokens rawName) [] := by
  have derive : GrowsInto (tokensOf ("\n#[derive(" ++ derivedTraits ++ ")]\n"))
      [mark '#', group '[' (deriveTrees [])] := fun _ _ => rfl
  exact (Reads.blank (.comment (comment rawName))).append (.skip derive rfl)

theorem reads_marker {typeName : String} (isName : isNumeric typeName = false) :
    Reads (markerTokens typeName) [.property typeName] := by
  have start : GrowsInto (tokensOf "impl BlockProperty for ")
      [word "impl", word "BlockProperty", word "for"] := fun _ _ => rfl
  have body : GrowsInto (tokensOf " \x7b\x7d\n\n") [group '\x7b' []] := fun _ _ => rfl
  refine .item ((start.append (.word isName)).append body) fun rest => ?_
  rw [Option.map_eq_bind]
  rfl

theorem reads_wrapper {typeName : String} (isName : isNumeric typeName = false) :
    Reads (tokensOf "pub struct " ++ [.word typeName] ++ tokensOf "(pub u8);\n\n")
      [.struct typeName [byteType]] := by
  have start : GrowsInto (tokensOf "pub struct ") [word "pub", word "struct"] := fun _ _ => rfl
  have field : GrowsInto (tokensOf "(pub u8);\n\n") [group '(' (fieldTrees [byteType]), mark ';'] :=
    fun _ _ => rfl
  exact .item ((start.append (.word isName)).append field)
    (items?_struct typeName (List.cons_ne_nil _ _))

theorem reads_variants {typeName : String} (isName : isNumeric typeName = false)
    {variants : List String} (areNames : ∀ variant ∈ variants, isNumeric variant = false) :
    Reads (tokensOf "pub enum " ++ [.word typeName] ++ tokensOf " \x7b\n" ++
        variants.flatMap variantTokens ++ tokensOf "\x7d\n\n")
      [.enumeration typeName variants] := by
  have keyword : GrowsInto (tokensOf "pub enum ") [word "pub", word "enum"] := fun _ _ => rfl
  have closing : Closes (tokensOf "\x7d\n\n") '\x7b' [] := fun _ _ _ => rfl
  have listed : GrowsInto (variants.flatMap variantTokens)
      (variants.flatMap fun variant => [word variant] ++ [mark ',']) := by
    have indent : GrowsInto (tokensOf "    ") [] := fun _ _ => rfl
    have comma : GrowsInto (tokensOf ",\n") [mark ','] := fun _ _ => rfl
    exact .flatMap fun variant member =>
      (indent.append (.word (areNames variant member))).append comma
  have areParts : ∀ variant ∈ variants, IsPart [word variant] :=
    fun _ _ => ⟨by simp, by simp⟩
  have read : (variants.map fun variant => [word variant]).mapM name? = some variants :=
    mapM_map_eq_some fun _ _ => rfl
  rw [← IsPart.parts_flatMap areParts] at read
  refine .item (.group ((keyword.append (.word isName)).opens opens_brace) listed closing)
    fun rest => ?_
  have isEnumeration (content : List Tree) :
      items? ([word "pub", word "enum", word typeName, group '\x7b' content] ++ rest) =
        ((parts content).mapM name?).bind fun variants =>
          (items? rest).bind fun later => some (.enumeration typeName variants :: later) := rfl
  exact (isEnumeration _).trans (by rw [read, Option.bind_some, Option.map_eq_bind]; rfl)

theorem reads {unit : SourceUnit} (words : unit.NamesAreWords)
    {declaration : PropertyDeclaration} (declared : declaration ∈ unit.properties) :
    Reads declaration.tokens declaration.content := by
  have isIdentifier := words.property declared
  cases declaration with
  | wrapper rawName typeName =>
    have isName : isNumeric typeName = false := isIdentifier.isName
    exact ((reads_heading rawName).append (reads_wrapper isName)).append (reads_marker isName)
  | enumeration rawName typeName variants =>
    have isName : isNumeric typeName = false := isIdentifier.isName
    have representation : Reads (tokensOf
        (if variants.length ≤ greatestVariantCount then "#[repr(u8)]\n" else "")) [] := by
      split
      · have grows : GrowsInto (tokensOf "#[repr(u8)]\n")
            [mark '#', group '[' [word "repr", group '(' [word "u8"]]] := fun _ _ => rfl
        exact .skip grows rfl
      · exact .nil
    have enumeration := reads_variants isName fun variant member =>
      (words.variants _ _ _ declared variant member).isName
    have whole := (((reads_heading rawName).append representation).append enumeration).append
      (reads_marker isName)
    simpa only [tokens, content, List.append_assoc, List.nil_append, List.singleton_append]
      using whole

end PropertyDeclaration

/-! ## Blocks -/

namespace BlockDeclaration

def content (declaration : BlockDeclaration) : Code :=
  [.struct declaration.typeName declaration.fieldTypes,
    .implementation declaration.implementation]

theorem reads_heading (rawName : String) : Reads (headingTokens rawName) [] := by
  have feed : Reads (tokensOf "\n") [] := .blank fun _ _ => rfl
  exact (Reads.blank (.comment (comment rawName))).append feed

theorem reads_lookups {typeName : String} (isName : isNumeric typeName = false)
    {idTokens nameTokens : List Token} {idTrees nameTrees : List Tree}
    (ids : GrowsInto idTokens idTrees) (names : GrowsInto nameTokens nameTrees)
    {getId : Body UInt16} {getName : Body String} (readId : body? id? idTrees = some getId)
    (readName : body? text? nameTrees = some getName) :
    Reads (lookupTokens typeName idTokens nameTokens)
      [.implementation ⟨typeName, getId, getName⟩] := by
  have keyword : GrowsInto (tokensOf "impl BlockState for ")
      [word "impl", word "BlockState", word "for"] := fun _ _ => rfl
  have idHead : Opens (tokensOf "    fn get_id(&self) -> u16 \x7b\n")
      [word "fn", word "get_id", group '(' [mark '&', word "self"], operator '-' '>',
        word "u16"] '\x7b' := fun _ _ => rfl
  have nameHead : Opens (tokensOf "    fn get_name(&self) -> &'static str \x7b\n")
      [word "fn", word "get_name", group '(' [mark '&', word "self"], operator '-' '>',
        mark '&', lifetime "\x27static", word "str"] '\x7b' := fun _ _ => rfl
  have functionEnd : Closes (tokensOf "    \x7d\n") '\x7b' [] := fun _ _ _ => rfl
  have feed : GrowsInto (tokensOf "\n") [] := fun _ _ => rfl
  have closing : Closes (tokensOf "\x7d\n\n") '\x7b' [] := fun _ _ _ => rfl
  have functions := ((GrowsInto.group idHead ids functionEnd).append feed).append
    (GrowsInto.group nameHead names functionEnd)
  have grows := GrowsInto.group ((keyword.append (.word isName)).opens opens_brace) functions
    closing
  have split : lookupTokens typeName idTokens nameTokens =
      tokensOf "impl BlockState for " ++ [.word typeName] ++ tokensOf " \x7b\n" ++
        (tokensOf "    fn get_id(&self) -> u16 \x7b\n" ++ idTokens ++ tokensOf "    \x7d\n" ++
          tokensOf "\n" ++ (tokensOf "    fn get_name(&self) -> &'static str \x7b\n" ++
            nameTokens ++ tokensOf "    \x7d\n")) ++ tokensOf "\x7d\n\n" := by
    simp only [lookupTokens, List.append_assoc]
  rw [split]
  refine .item grows fun rest => ?_
  have isImplementation : items? ([word "impl", word "BlockState", word "for", word typeName,
      group '\x7b' [word "fn", word "get_id", group '(' [mark '&', word "self"], operator '-' '>',
        word "u16", group '\x7b' idTrees, word "fn", word "get_name",
        group '(' [mark '&', word "self"], operator '-' '>', mark '&', lifetime "\x27static",
        word "str", group '\x7b' nameTrees]] ++ rest) =
      (body? id? idTrees).bind fun getId => (body? text? nameTrees).bind fun getName =>
        (items? rest).bind fun later =>
          some (.implementation ⟨typeName, getId, getName⟩ :: later) := rfl
  rw [readId, readName, Option.bind_some, Option.bind_some] at isImplementation
  rw [Option.map_eq_bind]
  exact isImplementation

theorem reads_fields {typeName : String} (isName : isNumeric typeName = false)
    {fieldTypes : List String} (composed : fieldTypes ≠ [])
    (areNames : ∀ fieldType ∈ fieldTypes, isNumeric fieldType = false) :
    Reads (tokensOf ("#[derive(" ++ derivedTraits ++ ")]\npub struct ") ++ [.word typeName] ++
        tokensOf "(" ++ fieldTokens fieldTypes ++ tokensOf ");\n\n")
      [.struct typeName fieldTypes] := by
  have opening : Opens (tokensOf "(") [] '(' := fun _ _ => rfl
  have closing : Closes (tokensOf ");\n\n") '(' [mark ';'] := fun _ _ _ => rfl
  have visibility : GrowsInto (tokensOf "pub ") [word "pub"] := fun _ _ => rfl
  have fields : GrowsInto (fieldTokens fieldTypes) (fieldTrees fieldTypes) :=
    .intercalate grows_comma fun fieldType member =>
      visibility.append (.word (areNames fieldType member))
  have split : tokensOf ("#[derive(" ++ derivedTraits ++ ")]\npub struct ") =
      tokensOf ("#[derive(" ++ derivedTraits ++ ")]\n") ++ tokensOf "pub struct " := by
    decide +kernel
  have derive : GrowsInto (tokensOf ("#[derive(" ++ derivedTraits ++ ")]\n"))
      [mark '#', group '[' (deriveTrees [])] := fun _ _ => rfl
  have keyword : GrowsInto (tokensOf "pub struct ") [word "pub", word "struct"] := fun _ _ => rfl
  have grows := GrowsInto.group ((keyword.append (.word isName)).opens opening) fields closing
  have struct : Reads _ [.struct typeName fieldTypes] :=
    .item grows (items?_struct typeName composed)
  have whole := (Reads.skip derive rfl).append struct
  rw [split]
  simpa only [List.append_assoc, List.nil_append] using whole

theorem reads_single {typeName : String} (isName : isNumeric typeName = false) :
    Reads (tokensOf ("#[derive(" ++ derivedTraits ++ ", Default)]\npub struct ") ++
        [.word typeName] ++ tokensOf ";\n\n")
      [.struct typeName []] := by
  have split : tokensOf ("#[derive(" ++ derivedTraits ++ ", Default)]\npub struct ") =
      tokensOf ("#[derive(" ++ derivedTraits ++ ", Default)]\n") ++ tokensOf "pub struct " := by
    decide +kernel
  have derive : GrowsInto (tokensOf ("#[derive(" ++ derivedTraits ++ ", Default)]\n"))
      [mark '#', group '[' (deriveTrees [mark ',', word "Default"])] := fun _ _ => rfl
  have keyword : GrowsInto (tokensOf "pub struct ") [word "pub", word "struct"] := fun _ _ => rfl
  have ending : GrowsInto (tokensOf ";\n\n") [mark ';'] := fun _ _ => rfl
  have struct : Reads (tokensOf "pub struct " ++ [.word typeName] ++ tokensOf ";\n\n")
      [.struct typeName []] := by
    refine .item ((keyword.append (.word isName)).append ending) fun rest => ?_
    rw [Option.map_eq_bind]
    rfl
  have whole := (Reads.skip derive rfl).append struct
  rw [split]
  simpa only [List.append_assoc, List.nil_append] using whole

theorem reads {unit : SourceUnit} (words : unit.NamesAreWords) (resolve : unit.NamesResolve)
    {declaration : BlockDeclaration} (declared : declaration ∈ unit.blocks) :
    Reads declaration.tokens declaration.content := by
  have isIdentifier := words.block declared
  cases declaration with
  | fixed rawName typeName id name =>
    have isName : isNumeric typeName = false := isIdentifier.isName
    have getId : body? id? [number (toString id.toNat)] = some (.constant id) := by
      rw [body?, id?_number]
      rfl
    have getName : body? text? [literal (Text.quoted name)] = some (.constant name) := by
      rw [body?, text?_literal]
      rfl
    have lookups := reads_lookups isName
      (grows_constant (.number (isNumeric_number id.toNat))) (grows_constant (.literal _))
      getId getName
    exact ((reads_heading rawName).append (reads_single isName)).append lookups
  | matching rawName typeName fieldTypes scrutinee arms =>
    have isName : isNumeric typeName = false := isIdentifier.isName
    have lint : GrowsInto (tokensOf "#[allow(unreachable_patterns)]\n")
        [mark '#', group '[' [word "allow", group '(' [word "unreachable_patterns"]]] :=
      fun _ _ => rfl
    have areNames : ∀ fieldType ∈ fieldTypes, isNumeric fieldType = false := by
      intro fieldType isField
      have isType := resolve.fields _ declared fieldType isField
      exact (words.typeNames fieldType (List.mem_append_left _ isType)).isName
    have patterns := resolve.patterns _ _ _ _ _ declared
    have grow : ∀ arm ∈ arms, GrowsInto arm.pattern.tokens arm.pattern.trees :=
      fun arm member => (patterns arm member).grows words isName
    have composed := resolve.composed _ _ _ _ _ declared
    have lookups := reads_lookups isName
      (grows_selection grow fun arm => .number (isNumeric_number arm.id.toNat))
      (grows_selection grow fun arm => .literal (Text.quoted arm.name))
      (body?_selection patterns (fun arm => id?_number arm.id) fun _ => by simp)
      (body?_selection patterns (fun arm => text?_literal arm.name) fun _ => by simp)
    exact (((reads_heading rawName).append (reads_fields isName composed areNames)).append
      (.skip lint rfl)).append lookups

end BlockDeclaration

/-! ## The state table -/

def boxedTrees (expr : List Tree) : List Tree :=
  [pathMark, word "std", pathMark, word "boxed", pathMark, word "Box", pathMark, word "new",
    group '(' expr, word "as", pathMark, word "std", pathMark, word "boxed", pathMark, word "Box",
    mark '<', word "dyn", word "BlockState", mark '>']

def TableEntry.trees (entry : TableEntry) : List Tree :=
  [group '(' (boxedTrees entry.expr.trees ++ [mark ','] ++ [number (toString entry.id.toNat)] ++
    [mark ','] ++ [literal (Text.quoted entry.name)])]

theorem TableEntry.grows {unit : SourceUnit} (words : unit.NamesAreWords) {entry : TableEntry}
    (resolves : entry.expr.Resolves unit) : GrowsInto entry.tokens (entry.trees ++ [mark ',']) := by
  have startSplit : tokensOf ("        (" ++ boxPath ++ "::new(") =
      tokensOf "        (" ++ tokensOf (boxPath ++ "::new(") := by
    decide +kernel
  have outerOpening : Opens (tokensOf "        (") [] '(' := fun _ _ => rfl
  have innerOpening : Opens (tokensOf (boxPath ++ "::new("))
      [pathMark, word "std", pathMark, word "boxed", pathMark, word "Box", pathMark,
        word "new"] '(' := fun _ _ => rfl
  have cast : Closes (tokensOf (") as " ++ boxPath ++ "<dyn BlockState>, ")) '('
      [word "as", pathMark, word "std", pathMark, word "boxed", pathMark, word "Box", mark '<',
        word "dyn", word "BlockState", mark '>', mark ','] := fun _ _ _ => rfl
  have comma : GrowsInto (tokensOf ", ") [mark ','] := fun _ _ => rfl
  have closing : Closes (tokensOf "),\n") '(' [mark ','] := fun _ _ _ => rfl
  have boxed := GrowsInto.group innerOpening (resolves.grows words) cast
  have id := (GrowsInto.number (isNumeric_number entry.id.toNat)).append comma
  have inner := (boxed.append id).append (.literal (Text.quoted entry.name))
  have grows := GrowsInto.group outerOpening inner closing
  rw [tokens, startSplit]
  simpa [trees, boxedTrees] using grows

theorem TableEntry.isPart_trees (entry : TableEntry) : IsPart entry.trees :=
  ⟨by simp [trees], by simp [trees]⟩

theorem TableEntry.entry?_trees {unit : SourceUnit} {entry : TableEntry}
    (resolves : entry.expr.Resolves unit) : entry? entry.trees = some entry := by
  have isEntry : entry? entry.trees = (state? entry.expr.trees).bind fun expr =>
      (id? (number (toString entry.id.toNat))).bind fun id =>
        (text? (literal (Text.quoted entry.name))).bind fun name => some ⟨expr, id, name⟩ := rfl
  rw [isEntry, resolves.state?_trees, id?_number, text?_literal]
  rfl

def functionTrees : List Tree :=
  [word "pub", word "fn", word "all_block_states", group '(' [], operator '-' '>', pathMark,
    word "std", pathMark, word "vec", pathMark, word "Vec", mark '<']

def lineTypeTrees : List Tree :=
  [group '(' [pathMark, word "std", pathMark, word "boxed", pathMark, word "Box", mark '<',
    word "dyn", word "BlockState", mark '>', mark ',', word "u16", mark ',', mark '&',
    lifetime "\x27static", word "str"], mark '>']

theorem reads_table {unit : SourceUnit} (words : unit.NamesAreWords)
    {entries : List TableEntry} (resolve : ∀ entry ∈ entries, entry.expr.Resolves unit) :
    Reads (tableTokens entries) [.table entries] := by
  have startSplit : tokensOf tableStart =
      tokensOf "\n#[must_use]\n" ++ (tokensOf "pub fn all_block_states() -> ::std::vec::Vec<" ++
        (tokensOf "(::std::boxed::Box<dyn BlockState>, u16, &'static str)> \x7b\n" ++
          tokensOf "    vec![\n")) := by
    decide +kernel
  have endSplit : tokensOf "    ]\n\x7d\n\n" = tokensOf "    ]\n" ++ tokensOf "\x7d\n\n" := by
    decide +kernel
  have lint : GrowsInto (tokensOf "\n#[must_use]\n") [mark '#', group '[' [word "must_use"]] :=
    fun _ _ => rfl
  have function : GrowsInto (tokensOf "pub fn all_block_states() -> ::std::vec::Vec<")
      functionTrees := fun _ _ => rfl
  have lineType : Opens (tokensOf
      "(::std::boxed::Box<dyn BlockState>, u16, &'static str)> \x7b\n")
      lineTypeTrees '\x7b' := fun _ _ => rfl
  have listOpening : Opens (tokensOf "    vec![\n") [word "vec", mark '!'] '[' := fun _ _ => rfl
  have listClosing : Closes (tokensOf "    ]\n") '[' [] := fun _ _ _ => rfl
  have closing : Closes (tokensOf "\x7d\n\n") '\x7b' [] := fun _ _ _ => rfl
  have lines : GrowsInto (entries.flatMap TableEntry.tokens)
      (entries.flatMap fun entry => entry.trees ++ [mark ',']) :=
    .flatMap fun entry member => TableEntry.grows words (resolve entry member)
  have grows := GrowsInto.group (function.opens lineType)
    (GrowsInto.group listOpening lines listClosing) closing
  have read : (entries.map TableEntry.trees).mapM entry? = some entries :=
    mapM_map_eq_some fun entry member => TableEntry.entry?_trees (resolve entry member)
  rw [← IsPart.parts_flatMap fun entry _ => entry.isPart_trees] at read
  have table := Reads.item grows fun rest => by
    have isTable (lines : List Tree) : items? (functionTrees ++ lineTypeTrees ++
        [group '\x7b' [word "vec", mark '!', group '[' lines]] ++ rest) =
        ((parts lines).mapM entry?).bind fun entries =>
          (items? rest).bind fun later => some (.table entries :: later) := rfl
    exact (isTable _).trans (by rw [read, Option.bind_some, Option.map_eq_bind]; rfl)
  have whole := ((Reads.blank (.comment tableComment)).append (.skip lint rfl)).append table
  rw [tableTokens, startSplit, endSplit]
  simpa only [List.append_assoc, List.nil_append, List.cons_append] using whole

end BlockStates
