import BlockStates.Proofs.NameResolution
import BlockStates.Proofs.Lexical.Parts

/-!
# Scans of declarations

The tokens that a declaration is written as.  Fixed texts are scanned once and
for all; what comes from the catalog is given token by token.  Raw names and
values only appear inside of a comment or a literal, and each of these is one
token with exactly the text that was written for it.
-/

set_option autoImplicit false

namespace BlockStates

open Lexical

/-- The names that a unit declares are identifiers, and the raw names in its
comments stay on their lines. -/
structure SourceUnit.NamesAreWords (unit : SourceUnit) : Prop where
  typeNames : ∀ typeName ∈ unit.typeNames, IsIdentifier typeName
  variants : ∀ rawName typeName variants,
    .enumeration rawName typeName variants ∈ unit.properties →
      ∀ variant ∈ variants, IsIdentifier variant
  propertyLines : ∀ declaration ∈ unit.properties, '\n' ∉ declaration.rawName.toList
  blockLines : ∀ declaration ∈ unit.blocks, '\n' ∉ declaration.rawName.toList

namespace SourceUnit.NamesAreWords

variable {unit : SourceUnit}

theorem property (words : unit.NamesAreWords) {declaration : PropertyDeclaration}
    (declared : declaration ∈ unit.properties) : IsIdentifier declaration.typeName :=
  words.typeNames _ (List.mem_append_left _ (List.mem_map_of_mem declared))

theorem block (words : unit.NamesAreWords) {declaration : BlockDeclaration}
    (declared : declaration ∈ unit.blocks) : IsIdentifier declaration.typeName :=
  words.typeNames _ (List.mem_append_right _ (List.mem_map_of_mem declared))

end SourceUnit.NamesAreWords

/-! ## Expressions and patterns -/

def ValueExpr.tokens : ValueExpr → List Token
  | .wrapped typeName number => [.word typeName, .mark '(', .word number, .mark ')']
  | .variant typeName variantName =>
    [.word typeName, .mark ':', .mark ':', .word variantName]

def StateExpr.tokens : StateExpr → List Token
  | .bare typeName => [.word typeName]
  | .applied typeName fields =>
    [.word typeName, .mark '('] ++
      [.mark ',', .mark ' '].intercalate (fields.map ValueExpr.tokens) ++ [.mark ')']

def Pattern.tokens : Pattern → List Token
  | .numbers parts => [.word (String.join parts)]
  | .values parts => parts.flatMap ValueExpr.tokens
  | .state expr => expr.tokens

def Scrutinee.tokens : Scrutinee → List Token
  | .number => [.word "self", .mark '.', .word "0", .mark '.', .word "0"]
  | .field => [.word "self", .mark '.', .word "0"]
  | .whole => [.word "self"]

section Expressions

variable {unit : SourceUnit}

theorem IsByteNumber.isWord {number : String} (isNumber : IsByteNumber number) : IsWord number := by
  apply IsWord.of_digits isNumber.nonempty
  intro character member
  rw [Char.isDigit, Bool.and_eq_true, decide_eq_true_iff, decide_eq_true_iff]
  exact isNumber.digits character member

theorem scans_openBracket : Scans [] "(" [.mark '('] [')'] := by
  decide

theorem scans_closeBracket : Scans [')'] ")" [.mark ')'] [] := by
  decide

theorem scans_comma : Scans [] ", " [.mark ',', .mark ' '] [] := by
  decide

theorem scans_openBrace : ScansFixed [] " \x7b\n" ['\x7d'] := by
  decide

theorem scans_closeBrace : ScansFixed ['\x7d'] "\x7d\n\n" [] := by
  decide

theorem ValueExpr.Resolves.endsOpen (words : unit.NamesAreWords) {expr : ValueExpr}
    {fieldType : String} (resolves : expr.Resolves unit fieldType) :
    EndsOpen expr.text expr.tokens := by
  cases resolves with
  | wrapped rawName declared fits =>
    have typeName := EndsOpen.word (words.property declared).word
    have opened := typeName.appendScans (by decide) scans_openBracket
    exact .of_scans (opened.appendOpen (.word fits.isWord) (by decide) scans_closeBracket)
  | variant rawName variants declared listed =>
    have typeName := EndsOpen.word (words.property declared).word
    have path : Scans [] "::" [.mark ':', .mark ':'] [] := by decide
    exact .append (typeName.appendScans (by decide) path)
      (.word (words.variants _ _ _ declared _ listed).word)

/-- Expressions for fields, in the brackets behind the name of the type. -/
theorem StateExpr.endsOpen_applied (words : unit.NamesAreWords) {typeName : String}
    (isWord : IsWord typeName) {exprs : List ValueExpr} {fieldTypes : List String}
    (fields : List.Forall₂ (ValueExpr.Resolves unit) exprs fieldTypes) :
    EndsOpen (StateExpr.applied typeName exprs).text (StateExpr.applied typeName exprs).tokens := by
  have opened := (EndsOpen.word isWord).appendScans (by decide) scans_openBracket
  have each : ∀ expr ∈ exprs, EndsOpen expr.text expr.tokens :=
    ((List.forall₂_and_left _ _).mp
      (fields.imp fun _ _ resolves => ⟨resolves.endsOpen words, resolves⟩)).1
  exact .of_scans
    (opened.appendOpen (.intercalate (by decide) scans_comma each) (by decide) scans_closeBracket)

theorem StateExpr.Resolves.endsOpen (words : unit.NamesAreWords) {expr : StateExpr}
    (resolves : expr.Resolves unit) : EndsOpen expr.text expr.tokens := by
  cases resolves with
  | bare rawName id name declared => exact .word (words.block declared).word
  | applied rawName fieldTypes scrutinee arms declared fields =>
    exact StateExpr.endsOpen_applied words (words.block declared).word fields

theorem Pattern.Resolves.endsOpen (words : unit.NamesAreWords) {typeName : String}
    (isWord : IsWord typeName) {fieldTypes : List String} {scrutinee : Scrutinee}
    {pattern : Pattern} (resolves : pattern.Resolves unit typeName fieldTypes scrutinee) :
    EndsOpen pattern.text pattern.tokens := by
  cases resolves with
  | @number rawName fieldType number declared fits =>
    have single : String.join [number] = number := by simp
    simp only [Pattern.text, Pattern.tokens, single]
    exact .word fits.isWord
  | @field fieldType expr resolves =>
    simpa [Pattern.text, Pattern.tokens] using resolves.endsOpen words
  | whole fields => exact StateExpr.endsOpen_applied words isWord fields

theorem Scrutinee.endsOpen (scrutinee : Scrutinee) : EndsOpen scrutinee.text scrutinee.tokens := by
  have zero : EndsOpen "0" [.word "0"] := .word (.of_all (by decide) (by decide))
  have self : EndsOpen "self" [.word "self"] := .word (.of_all (by decide) (by decide))
  cases scrutinee with
  | number =>
    have wrapper : Scans [] "self.0." [.word "self", .mark '.', .word "0", .mark '.'] [] := by
      decide
    exact .append wrapper zero
  | field =>
    have value : Scans [] "self." [.word "self", .mark '.'] [] := by decide
    exact .append value zero
  | whole => exact self

end Expressions

/-! ## Properties -/

namespace PropertyDeclaration

def comment (rawName : String) : String :=
  "/// Values of the `" ++ rawName ++ "` property."

def headingTokens (rawName : String) : List Token :=
  .lineComment (comment rawName) :: tokensOf ("\n#[derive(" ++ derivedTraits ++ ")]\n")

def markerTokens (typeName : String) : List Token :=
  tokensOf "impl BlockProperty for " ++ [.word typeName] ++ tokensOf " \x7b\x7d\n\n"

def variantTokens (variant : String) : List Token :=
  tokensOf "    " ++ [.word variant] ++ tokensOf ",\n"

def tokens : PropertyDeclaration → List Token
  | .wrapper rawName typeName =>
    headingTokens rawName ++
      (tokensOf "pub struct " ++ [.word typeName] ++ tokensOf "(pub u8);\n\n") ++
      markerTokens typeName
  | .enumeration rawName typeName variants =>
    headingTokens rawName ++
      tokensOf (if variants.length ≤ greatestVariantCount then "#[repr(u8)]\n" else "") ++
      tokensOf "pub enum " ++ [.word typeName] ++ tokensOf " \x7b\n" ++
      variants.flatMap variantTokens ++ tokensOf "\x7d\n\n" ++ markerTokens typeName

theorem scans_heading {rawName : String} (oneLine : '\n' ∉ rawName.toList) :
    Scans [] (heading rawName) (headingTokens rawName) [] := by
  have split : heading rawName = "/// Values of the `" ++ rawName ++ "` property." ++
      ("\n#[derive(" ++ derivedTraits ++ ")]\n") := by
    have ending : "` property.\n#[derive(" = "` property." ++ "\n#[derive(" := by decide
    unfold heading
    rw [ending]
    simp only [toString, String.append_assoc]
  rw [split]
  exact .lineComment (scan_comment (by decide) oneLine (by decide)) (by decide) (by decide +kernel)

theorem scans_marker {typeName : String} (isWord : IsWord typeName) :
    Scans [] (marker typeName) (markerTokens typeName) [] := by
  have start : Scans [] "impl BlockProperty for " (tokensOf "impl BlockProperty for ") [] := by
    decide +kernel
  exact start.appendOpen (.word isWord) (by decide) (by decide)

theorem scans_variant {variant : String} (isWord : IsWord variant) :
    Scans [] s!"    {variant},\n" (variantTokens variant) [] := by
  have indent : ScansFixed [] "    " [] := by decide
  exact indent.appendOpen (.word isWord) (by decide) (by decide)

theorem scans_representation (variants : List String) :
    ScansFixed [] (if variants.length ≤ greatestVariantCount then "#[repr(u8)]\n" else "") [] := by
  split
  · decide
  · decide

theorem scans {unit : SourceUnit} (words : unit.NamesAreWords)
    {declaration : PropertyDeclaration} (declared : declaration ∈ unit.properties) :
    Scans [] declaration.text declaration.tokens [] := by
  have heading := scans_heading (words.propertyLines declaration declared)
  have isWord := (words.property declared).word
  have marker := scans_marker isWord
  cases declaration with
  | wrapper rawName typeName =>
    have keyword : ScansFixed [] "pub struct " [] := by decide +kernel
    have field : ScansFixed [] "(pub u8);\n\n" [] := by decide +kernel
    have wrapper := keyword.appendOpen (.word isWord) (by decide) field
    exact (heading.appendClosed wrapper).appendClosed marker
  | enumeration rawName typeName variants =>
    have keyword : ScansFixed [] "pub enum " [] := by decide +kernel
    have listed : Scans [] (String.join (variants.map fun variant => s!"    {variant},\n"))
        (variants.flatMap variantTokens) [] :=
      .join fun variant member => scans_variant (words.variants _ _ _ declared variant member).word
    have start := (heading.appendClosed (scans_representation variants)).append keyword
    have body := (start.appendOpen (.word isWord) (by decide) scans_openBrace).appendClosed listed
    exact (body.append scans_closeBrace).append marker

end PropertyDeclaration

/-! ## Blocks -/

namespace BlockDeclaration

def comment (rawName : String) : String :=
  "/// Block state of `" ++ rawName ++ "`."

def headingTokens (rawName : String) : List Token :=
  .lineComment (comment rawName) :: tokensOf "\n"

def constantTokens (result : List Token) : List Token :=
  tokensOf "        " ++ result ++ tokensOf "\n"

def armTokens (result : Arm → List Token) (arm : Arm) : List Token :=
  tokensOf "            " ++ arm.pattern.tokens ++ tokensOf " => " ++ result arm ++ tokensOf ",\n"

def selectionTokens (scrutinee : Scrutinee) (arms : List Arm) (result : Arm → List Token) :
    List Token :=
  tokensOf "        match " ++ scrutinee.tokens ++ tokensOf " \x7b\n" ++
    arms.flatMap (armTokens result) ++ tokensOf lastArm ++ tokensOf "        \x7d\n"

def lookupTokens (typeName : String) (idBody nameBody : List Token) : List Token :=
  tokensOf "impl BlockState for " ++ [.word typeName] ++ tokensOf " \x7b\n" ++
    (tokensOf "    fn get_id(&self) -> u16 \x7b\n" ++ idBody ++ tokensOf "    \x7d\n") ++
    tokensOf "\n" ++
    (tokensOf "    fn get_name(&self) -> &'static str \x7b\n" ++ nameBody ++
      tokensOf "    \x7d\n") ++
    tokensOf "\x7d\n\n"

def fieldTokens (fieldTypes : List String) : List Token :=
  [.mark ',', .mark ' '].intercalate
    (fieldTypes.map fun fieldType => tokensOf "pub " ++ [.word fieldType])

def tokens : BlockDeclaration → List Token
  | .fixed rawName typeName id name =>
    headingTokens rawName ++
      (tokensOf ("#[derive(" ++ derivedTraits ++ ", Default)]\npub struct ") ++
        [.word typeName] ++ tokensOf ";\n\n") ++
      lookupTokens typeName (constantTokens [.word (toString id.toNat)])
        (constantTokens [.literal (Text.quoted name)])
  | .matching rawName typeName fieldTypes scrutinee arms =>
    headingTokens rawName ++
      (tokensOf ("#[derive(" ++ derivedTraits ++ ")]\npub struct ") ++ [.word typeName] ++
        tokensOf "(" ++ fieldTokens fieldTypes ++ tokensOf ");\n\n") ++
      tokensOf "#[allow(unreachable_patterns)]\n" ++
      lookupTokens typeName
        (selectionTokens scrutinee arms fun arm => [.word (toString arm.id.toNat)])
        (selectionTokens scrutinee arms fun arm => [.literal (Text.quoted arm.name)])

theorem scans_heading {rawName : String} (oneLine : '\n' ∉ rawName.toList) :
    Scans [] (heading rawName) (headingTokens rawName) [] := by
  have split : heading rawName = "/// Block state of `" ++ rawName ++ "`." ++ "\n" := by
    have ending : "`.\n" = "`." ++ "\n" := by decide
    unfold heading
    rw [ending]
    simp only [toString, String.append_assoc]
  rw [split]
  exact .lineComment (scan_comment (by decide) oneLine (by decide)) (by decide) (by decide)

theorem scans_constant {result : String} {tokens : List Token} (isOpen : EndsOpen result tokens) :
    Scans [] (constant result) (constantTokens tokens) [] := by
  have indent : ScansFixed [] "        " [] := by decide
  exact indent.appendOpen isOpen (by decide) (by decide)

theorem scans_lastArm : ScansFixed [] lastArm [] := by
  decide +kernel

theorem scans_selection {scrutinee : Scrutinee} {arms : List Arm} {result : Arm → String}
    {resultTokens : Arm → List Token}
    (patterns : ∀ arm ∈ arms, EndsOpen arm.pattern.text arm.pattern.tokens)
    (results : ∀ arm, EndsOpen (result arm) (resultTokens arm)) :
    Scans [] (selection scrutinee arms result)
      (selectionTokens scrutinee arms resultTokens) [] := by
  have keyword : ScansFixed [] "        match " [] := by decide +kernel
  have closing : ScansFixed ['\x7d'] "        \x7d\n" [] := by decide +kernel
  have indent : ScansFixed [] "            " [] := by decide +kernel
  have arrow : ScansFixed [] " => " [] := by decide +kernel
  have comma : ScansFixed [] ",\n" [] := by decide +kernel
  have each : ∀ arm ∈ arms, Scans []
      ("            " ++ arm.pattern.text ++ " => " ++ result arm ++ ",\n")
      (armTokens resultTokens arm) [] := by
    intro arm member
    have start := indent.appendOpen (patterns arm member) (by decide) arrow
    exact start.appendOpen (results arm) (by decide) comma
  have start := keyword.appendOpen scrutinee.endsOpen (by decide) scans_openBrace
  exact ((start.appendClosed (.join each)).appendClosed scans_lastArm).append closing

theorem scans_lookups {typeName idBody nameBody : String} {idTokens nameTokens : List Token}
    (isWord : IsWord typeName) (ids : Scans [] idBody idTokens [])
    (names : Scans [] nameBody nameTokens []) :
    Scans [] (lookups typeName idBody nameBody) (lookupTokens typeName idTokens nameTokens) [] := by
  have keyword : ScansFixed [] "impl BlockState for " [] := by decide +kernel
  have idHead : ScansFixed [] "    fn get_id(&self) -> u16 \x7b\n" ['\x7d'] := by decide +kernel
  have nameHead : ScansFixed [] "    fn get_name(&self) -> &'static str \x7b\n" ['\x7d'] := by
    decide +kernel
  have functionEnd : ScansFixed ['\x7d'] "    \x7d\n" [] := by decide +kernel
  have blank : ScansFixed [] "\n" [] := by decide +kernel
  have idFunction := (idHead.appendClosed ids).append functionEnd
  have nameFunction := (nameHead.appendClosed names).append functionEnd
  have start := keyword.appendOpen (.word isWord) (by decide) scans_openBrace
  have body := ((start.appendClosed idFunction).appendClosed blank).appendClosed nameFunction
  exact body.append scans_closeBrace

theorem fieldTypes_endsOpen {fieldTypes : List String}
    (areWords : ∀ fieldType ∈ fieldTypes, IsWord fieldType) :
    EndsOpen (String.intercalate ", " (fieldTypes.map fun fieldType => "pub " ++ fieldType))
      (fieldTokens fieldTypes) := by
  have visibility : ScansFixed [] "pub " [] := by decide
  apply EndsOpen.intercalate (by decide) scans_comma
  intro fieldType member
  exact .append visibility (.word (areWords fieldType member))

theorem id_endsOpen (id : UInt16) : EndsOpen (toString id.toNat) [.word (toString id.toNat)] :=
  .word (.number id.toNat)

theorem name_endsOpen (name : String) :
    EndsOpen (Text.quoted name) [.literal (Text.quoted name)] :=
  .of_scans (.quoted name)

theorem scans {unit : SourceUnit} (words : unit.NamesAreWords) (resolve : unit.NamesResolve)
    {declaration : BlockDeclaration} (declared : declaration ∈ unit.blocks) :
    Scans [] declaration.text declaration.tokens [] := by
  have heading := scans_heading (words.blockLines declaration declared)
  have isWord := (words.block declared).word
  cases declaration with
  | fixed rawName typeName id name =>
    have keyword :
        ScansFixed [] ("#[derive(" ++ derivedTraits ++ ", Default)]\npub struct ") [] := by
      decide +kernel
    have noFields : ScansFixed [] ";\n\n" [] := by decide
    have type := keyword.appendOpen (.word isWord) (by decide) noFields
    exact (heading.appendClosed type).appendClosed
      (scans_lookups isWord (scans_constant (id_endsOpen id)) (scans_constant (name_endsOpen name)))
  | matching rawName typeName fieldTypes scrutinee arms =>
    have keyword : ScansFixed [] ("#[derive(" ++ derivedTraits ++ ")]\npub struct ") [] := by
      decide +kernel
    have opening : ScansFixed [] "(" [')'] := by decide
    have closing : ScansFixed [')'] ");\n\n" [] := by decide
    have lint : ScansFixed [] "#[allow(unreachable_patterns)]\n" [] := by decide +kernel
    have areWords : ∀ fieldType ∈ fieldTypes, IsWord fieldType := by
      intro fieldType isField
      have isType := resolve.fields _ declared fieldType isField
      exact (words.typeNames fieldType (List.mem_append_left _ isType)).word
    have patterns : ∀ arm ∈ arms, EndsOpen arm.pattern.text arm.pattern.tokens := by
      intro arm isArm
      exact (resolve.patterns _ _ _ _ _ declared arm isArm).endsOpen words isWord
    have start := keyword.appendOpen (.word isWord) (by decide) opening
    have type := start.appendOpen (fieldTypes_endsOpen areWords) (by decide) closing
    exact ((heading.appendClosed type).appendClosed lint).appendClosed
      (scans_lookups isWord (scans_selection patterns fun arm => id_endsOpen arm.id)
        (scans_selection patterns fun arm => name_endsOpen arm.name))

end BlockDeclaration

/-! ## The state table -/

def TableEntry.tokens (entry : TableEntry) : List Token :=
  tokensOf ("        (" ++ boxPath ++ "::new(") ++ entry.expr.tokens ++
    tokensOf (") as " ++ boxPath ++ "<dyn BlockState>, ") ++
    ([.word (toString entry.id.toNat)] ++ tokensOf ", ") ++ [.literal (Text.quoted entry.name)] ++
    tokensOf "),\n"

def tableComment : String :=
  "/// Every catalog state with the id and name the catalog assigns it."

def tableStart : String :=
  "\n" ++ "#[must_use]\n" ++
    s!"pub fn all_block_states() -> {listPath}<({boxPath}<dyn BlockState>, u16, " ++
    "&'static str)> \x7b\n    vec![\n"

def tableTokens (entries : List TableEntry) : List Token :=
  .lineComment tableComment :: tokensOf tableStart ++ entries.flatMap TableEntry.tokens ++
    tokensOf "    ]\n\x7d\n\n"

theorem TableEntry.scans {unit : SourceUnit} (words : unit.NamesAreWords) {entry : TableEntry}
    (resolves : entry.expr.Resolves unit) : Scans [] entry.text entry.tokens [] := by
  have opening : ScansFixed [] ("        (" ++ boxPath ++ "::new(") [')', ')'] := by decide +kernel
  have cast : ScansFixed [')', ')'] (") as " ++ boxPath ++ "<dyn BlockState>, ") [')'] := by
    decide +kernel
  have comma : ScansFixed [] ", " [] := by decide
  have closing : ScansFixed [')'] "),\n" [] := by decide
  have split : entry.text = "        (" ++ boxPath ++ "::new(" ++ entry.expr.text ++
      (") as " ++ boxPath ++ "<dyn BlockState>, ") ++ (toString entry.id.toNat ++ ", ") ++
      Text.quoted entry.name ++ "),\n" := by
    unfold text
    simp only [toString, String.append_assoc]
  have id := (BlockDeclaration.id_endsOpen entry.id).appendScans (by decide) comma
  have value := opening.appendOpen (resolves.endsOpen words) (by decide) cast
  rw [split]
  exact ((value.appendClosed id).appendClosed (.quoted entry.name)).append closing

theorem scans_tableStart : ScansFixed [] tableStart [']', '\x7d'] := by
  apply ScansFixed.of_run
  unfold tableStart boxPath listPath
  simp only [toString, String.toList_append]
  decide +kernel

theorem scans_tableText {unit : SourceUnit} (words : unit.NamesAreWords)
    {entries : List TableEntry} (resolve : ∀ entry ∈ entries, entry.expr.Resolves unit) :
    Scans [] (tableText entries) (tableTokens entries) [] := by
  have closing : ScansFixed [']', '\x7d'] "    ]\n\x7d\n\n" [] := by decide +kernel
  have lines : Scans [] (String.join (entries.map TableEntry.text))
      (entries.flatMap TableEntry.tokens) [] :=
    .join fun entry member => TableEntry.scans words (resolve entry member)
  have split : tableText entries = tableComment ++ tableStart ++
      String.join (entries.map TableEntry.text) ++ "    ]\n\x7d\n\n" := by
    have comment : "/// Every catalog state with the id and name the catalog assigns it.\n" =
        tableComment ++ "\n" := by
      decide +kernel
    unfold tableText tableStart
    rw [comment]
    simp only [toString, String.append_assoc]
  have ended : tableStart.toList.head? = some '\n' := by
    unfold tableStart
    simp only [String.toList_append]
    decide +kernel
  have start : Scans [] (tableComment ++ tableStart) _ [']', '\x7d'] :=
    .lineComment (by decide +kernel) ended scans_tableStart
  rw [split]
  exact (start.appendClosed lines).append closing

end BlockStates
