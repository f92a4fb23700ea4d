import BlockStates.Identifier
import BlockStates.Proofs.UpperCase

/-!
# Raw names of usable identifiers

An identifier is made of the segments of its raw name.  Nothing but the first
character of a segment is changed, and no upper-case form holds a small ASCII letter
or a separator of its own, so that the check of an identifier says exactly what its
raw name is like.  `usable_iff_segments_fit` states this, and that usable identifiers
are none of the words which the generated code reserves.
-/

set_option autoImplicit false

namespace BlockStates

/-! ## Segments -/

namespace Identifier

theorem isSeparator_iff {character : Char} :
    isSeparator character = true ↔ character ∈ ['_', ':', '-'] := by
  simp [isSeparator, or_assoc]

def capitalize : List Char → List Char
  | [] => []
  | first :: rest => Text.upperCase first ++ rest

/-- The parts of a raw name between its separators, without those that are empty. -/
def segments (raw : String) : List (List Char) :=
  (raw.toList.splitOnP isSeparator).filter (· ≠ [])

/-- Writing stops at each separator; only the first segment depends on where the
writing is. -/
theorem join_of_splitOnP (text : List Char) {first : List Char} {later : List (List Char)}
    (isSplit : text.splitOnP isSeparator = first :: later) :
    join true text = capitalize first ++ later.flatMap capitalize ∧
      join false text = first ++ later.flatMap capitalize := by
  induction text generalizing first later with
  | nil =>
    obtain ⟨rfl, rfl⟩ := List.cons.inj isSplit
    exact ⟨rfl, rfl⟩
  | cons character rest restJoin =>
    obtain ⟨restFirst, restLater, restSplit⟩ :=
      List.exists_cons_of_ne_nil (List.splitOnP_ne_nil isSeparator rest)
    obtain ⟨restOpening, restInside⟩ := restJoin restSplit
    rw [List.splitOnP_cons_eq_if_modifyHead, restSplit] at isSplit
    by_cases parts : isSeparator character = true
    · rw [if_pos parts] at isSplit
      obtain ⟨rfl, rfl⟩ := List.cons.inj isSplit
      simp [join, parts, restOpening, capitalize]
    · rw [if_neg parts] at isSplit
      obtain ⟨rfl, rfl⟩ := List.cons.inj isSplit
      simp [join, parts, restInside, capitalize]

/-- What stands behind a separator is written as if nothing stood in front of it. -/
theorem join_append_separator {separator : Char} (parts : isSeparator separator = true)
    (text rest : List Char) (opening : Bool) :
    join opening (text ++ separator :: rest) = join opening text ++ join true rest := by
  induction text generalizing opening with
  | nil => simp [join, parts]
  | cons character text textJoin =>
    cases parted : isSeparator character with
    | true => simp [join, parted, textJoin]
    | false => cases opening <;> simp [join, parted, textJoin]

theorem ofRaw_append_separator {separator : Char} (parts : isSeparator separator = true)
    (first second : String) :
    ofRaw (first ++ String.singleton separator ++ second) = ofRaw first ++ ofRaw second := by
  rw [ofRaw, String.toList_append, String.toList_append, String.toList_singleton,
    List.append_assoc, List.singleton_append, join_append_separator parts, String.ofList_append]
  rfl

theorem toList_ofRaw (raw : String) : (ofRaw raw).toList = (segments raw).flatMap capitalize := by
  have skipsEmpty (parts : List (List Char)) :
      (parts.filter (· ≠ [])).flatMap capitalize = parts.flatMap capitalize := by
    induction parts with
    | nil => rfl
    | cons part parts partsFlat =>
      cases part with
      | nil => simpa [capitalize] using partsFlat
      | cons first rest => simpa using partsFlat
  obtain ⟨first, later, isSplit⟩ :=
    List.exists_cons_of_ne_nil (List.splitOnP_ne_nil isSeparator raw.toList)
  rw [ofRaw, String.toList_ofList, segments, skipsEmpty, isSplit,
    (join_of_splitOnP raw.toList isSplit).1, List.flatMap_cons]

theorem segments_ne_nil {raw : String} {segment : List Char} (isSegment : segment ∈ segments raw) :
    segment ≠ [] := by
  simpa using (List.mem_filter.mp isSegment).2

theorem not_separator_of_mem_splitOnP (text : List Char) :
    ∀ part ∈ text.splitOnP isSeparator, ∀ character ∈ part, isSeparator character = false := by
  induction text with
  | nil => simp
  | cons character rest restPlain =>
    obtain ⟨first, later, isSplit⟩ :=
      List.exists_cons_of_ne_nil (List.splitOnP_ne_nil isSeparator rest)
    rw [isSplit, List.forall_mem_cons] at restPlain
    obtain ⟨firstPlain, laterPlain⟩ := restPlain
    rw [List.splitOnP_cons_eq_if_modifyHead, isSplit]
    cases parts : isSeparator character with
    | true => simpa using ⟨firstPlain, laterPlain⟩
    | false => simpa [parts] using ⟨firstPlain, laterPlain⟩

/-- A text in one segment is only changed at its start. -/
theorem toList_ofRaw_of_unparted {raw : String}
    (unparted : ∀ character ∈ raw.toList, isSeparator character = false) :
    (ofRaw raw).toList = capitalize raw.toList := by
  have isSplit : raw.toList.splitOnP isSeparator = [raw.toList] :=
    List.splitOnP_eq_singleton (by simpa using unparted)
  rw [ofRaw, String.toList_ofList, (join_of_splitOnP raw.toList isSplit).1, List.flatMap_nil,
    List.append_nil]

/-- The first character of an identifier is that of an upper-case form. -/
theorem exists_form_of_ofRaw {raw : String} {first : Char} {rest : List Char}
    (isText : (ofRaw raw).toList = first :: rest) :
    ∃ character tail later images, segments raw = (character :: tail) :: later ∧
      Text.upperCase character = first :: images := by
  rw [toList_ofRaw] at isText
  cases isSegments : segments raw with
  | nil => simp [isSegments] at isText
  | cons segment later =>
    have nonempty : segment ≠ [] := segments_ne_nil (isSegments ▸ List.mem_cons_self)
    obtain ⟨character, tail, rfl⟩ := List.exists_cons_of_ne_nil nonempty
    obtain ⟨image, images, isForm⟩ := List.exists_cons_of_ne_nil (Text.upperCase_ne_nil character)
    rw [isSegments, List.flatMap_cons, capitalize, isForm] at isText
    obtain ⟨rfl, -⟩ := List.cons.inj isText
    exact ⟨character, tail, later, images, rfl, isForm⟩

/-- No separator is left in an identifier. -/
theorem not_separator_of_mem_ofRaw {raw : String} {character : Char}
    (member : character ∈ (ofRaw raw).toList) : isSeparator character = false := by
  rw [toList_ofRaw, List.mem_flatMap] at member
  obtain ⟨segment, isSegment, inSegment⟩ := member
  have plain := not_separator_of_mem_splitOnP raw.toList segment (List.mem_filter.mp isSegment).1
  cases segment with
  | nil => exact absurd inSegment List.not_mem_nil
  | cons first rest =>
    rcases List.mem_append.mp inSegment with isImage | inRest
    · cases parts : isSeparator character with
      | false => rfl
      | true =>
        -- A separator is ASCII and no capital, so it would be the first character itself.
        have marks : ∀ mark ∈ ['_', ':', '-'], mark.toNat < 0x80 ∧ mark.isUpper = false := by
          rw [List.forall_mem_cons, List.forall_mem_cons, List.forall_mem_singleton]
          decide
        obtain ⟨ascii, noCapital⟩ := marks character (isSeparator_iff.mp parts)
        obtain rfl := Text.eq_of_mem_upperCase isImage ascii noCapital
        exact parts.symm.trans (plain character List.mem_cons_self)
    · exact plain character (List.mem_cons_of_mem _ inRest)

theorem line_not_mem_ofRaw (raw : String) : '_' ∉ (ofRaw raw).toList :=
  fun member => absurd (not_separator_of_mem_ofRaw member) (by decide)

/-! ## Usable identifiers -/

/-- A character with an upper-case form of letters and digits, and then letters and
digits. -/
inductive SegmentFits : List Char → Prop where
  | intro {first : Char} {rest : List Char}
      (opening : ∀ image ∈ Text.upperCase first, image.isAlphanum = true)
      (inside : ∀ character ∈ rest, character.isAlphanum = true) : SegmentFits (first :: rest)

def OpensWithLetter (segment : List Char) : Prop :=
  ∃ first rest letter images, segment = first :: rest ∧
    Text.upperCase first = letter :: images ∧ letter.isAlpha = true

theorem segmentFits_iff {segment : List Char} (nonempty : segment ≠ []) :
    SegmentFits segment ↔ ∀ character ∈ capitalize segment, character.isAlphanum = true := by
  constructor
  · rintro ⟨opening, inside⟩
    exact List.forall_mem_append.mpr ⟨opening, inside⟩
  · intro all
    obtain ⟨first, rest, rfl⟩ := List.exists_cons_of_ne_nil nonempty
    obtain ⟨opening, inside⟩ := List.forall_mem_append.mp all
    exact .intro opening inside

theorem isWord_iff_of_no_line {text : List Char} (noLine : '_' ∉ text) :
    isWord text = true ↔
      (∀ character ∈ text, character.isAlphanum = true) ∧
        ∃ first rest, text = first :: rest ∧ first.isAlpha = true := by
  cases text with
  | nil => simp [isWord]
  | cons first rest =>
    have restIff : (∀ character ∈ rest, (character.isAlphanum || character == '_') = true) ↔
        ∀ character ∈ rest, character.isAlphanum = true := by
      apply forall₂_congr
      intro character member
      have differs : character ≠ '_' := fun same => noLine (same ▸ List.mem_cons_of_mem _ member)
      simp [differs]
    rw [isWord, Bool.and_eq_true, List.all_eq_true, restIff, List.forall_mem_cons]
    constructor
    · rintro ⟨isAlpha, inside⟩
      exact ⟨⟨by simp [Char.isAlphanum, isAlpha], inside⟩, first, rest, rfl, isAlpha⟩
    · rintro ⟨⟨-, inside⟩, letter, others, same, isAlpha⟩
      obtain ⟨rfl, rfl⟩ := List.cons.inj same
      exact ⟨isAlpha, inside⟩

theorem opens_iff (raw : String) :
    (∃ letter rest, (ofRaw raw).toList = letter :: rest ∧ letter.isAlpha = true) ↔
      ∃ segment later, segments raw = segment :: later ∧ OpensWithLetter segment := by
  constructor
  · rintro ⟨letter, rest, isText, isAlpha⟩
    obtain ⟨character, tail, later, images, isSegments, isForm⟩ := exists_form_of_ofRaw isText
    exact ⟨_, later, isSegments, character, tail, letter, images, rfl, isForm, isAlpha⟩
  · rintro ⟨_, later, isSegments, character, tail, letter, images, rfl, isForm, isAlpha⟩
    refine ⟨letter, images ++ tail ++ later.flatMap capitalize, ?_, isAlpha⟩
    rw [toList_ofRaw, isSegments, List.flatMap_cons, capitalize, isForm]
    rfl

/-- A raw name makes a usable identifier exactly if all its segments fit, there is one,
the first one opens with a letter, and they do not make `Self`. -/
theorem isUsable_ofRaw_iff (raw : String) :
    isUsable (ofRaw raw) = true ↔
      (∀ segment ∈ segments raw, SegmentFits segment) ∧
      (∃ first later, segments raw = first :: later ∧ OpensWithLetter first) ∧
      ofRaw raw ≠ "Self" := by
  have charactersIff : (∀ character ∈ (ofRaw raw).toList, character.isAlphanum = true) ↔
      ∀ segment ∈ segments raw, SegmentFits segment := by
    rw [toList_ofRaw, List.forall_mem_flatMap]
    exact forall₂_congr fun segment isSegment =>
      (segmentFits_iff (segments_ne_nil isSegment)).symm
  rw [isUsable, Bool.and_eq_true, isWord_iff_of_no_line (line_not_mem_ofRaw raw), opens_iff,
    charactersIff, bne_iff_ne, and_assoc]

def IsCapitalWord (text : String) : Prop :=
  ∃ first rest, text.toList = first :: rest ∧ first.isUpper = true ∧
    ∀ character ∈ rest, character.isAlphanum = true

theorem isCapitalWord_of_isUsable {raw : String} (usable : isUsable (ofRaw raw) = true) :
    IsCapitalWord (ofRaw raw) := by
  have isWord : isWord (ofRaw raw).toList = true := by
    rw [isUsable, Bool.and_eq_true] at usable
    exact usable.1
  obtain ⟨characters, letter, rest, isText, isAlpha⟩ :=
    (isWord_iff_of_no_line (line_not_mem_ofRaw raw)).mp isWord
  refine ⟨letter, rest, isText, ?_, fun character member =>
    characters character (isText ▸ List.mem_cons_of_mem _ member)⟩
  obtain ⟨character, _, _, images, -, isForm⟩ := exists_form_of_ofRaw isText
  exact Text.isUpper_of_mem_upperCase (isForm ▸ List.mem_cons_self) isAlpha

/-- The keywords of the generated code, those included that it only keeps free. -/
def keywords : List String :=
  ["Self", "abstract", "as", "async", "await", "become", "box", "break", "const", "continue",
    "crate", "do", "dyn", "else", "enum", "extern", "false", "final", "fn", "for", "gen", "if",
    "impl", "in", "let", "loop", "macro", "macro_rules", "match", "mod", "move", "mut",
    "override", "priv", "pub", "raw", "ref", "return", "safe", "self", "static", "struct", "super",
    "trait", "true", "try", "type", "typeof", "union", "unsafe", "unsized", "use", "virtual",
    "where", "while", "yield"]

def primitiveTypes : List String :=
  ["bool", "char", "f16", "f32", "f64", "f128", "i8", "i16", "i32", "i64", "i128", "isize", "str",
    "u8", "u16", "u32", "u64", "u128", "usize"]

def reservedWords : List String :=
  keywords ++ primitiveTypes ++ ["all_block_states"]

theorem not_capital_of_reserved :
    ∀ word ∈ reservedWords, word ≠ "Self" →
      word.toList.head?.any Char.isUpper = false := by
  decide +kernel

theorem IsCapitalWord.not_reserved {text : String} (isCapital : IsCapitalWord text)
    (notSelf : text ≠ "Self") : text ∉ reservedWords := by
  intro reserved
  obtain ⟨first, rest, isText, isUpper, -⟩ := isCapital
  have notUpper := not_capital_of_reserved text reserved notSelf
  rw [isText] at notUpper
  exact Bool.false_ne_true (notUpper.symm.trans isUpper)

theorem not_reserved_of_isUsable {raw : String} (usable : isUsable (ofRaw raw) = true) :
    ofRaw raw ∉ reservedWords :=
  (isCapitalWord_of_isUsable usable).not_reserved ((isUsable_ofRaw_iff raw).mp usable).2.2

/-- Which raw names become usable identifiers, and what such an identifier is like:
a capital word that is none of the reserved ones. -/
theorem usable_iff_segments_fit (raw : String) :
    (isUsable (ofRaw raw) = true ↔
      (∀ segment ∈ segments raw, SegmentFits segment) ∧
      (∃ first later, segments raw = first :: later ∧ OpensWithLetter first) ∧
      ofRaw raw ≠ "Self") ∧
    (isUsable (ofRaw raw) = true →
      IsCapitalWord (ofRaw raw) ∧ ofRaw raw ∉ reservedWords) := by
  refine ⟨isUsable_ofRaw_iff raw, ?_⟩
  exact fun usable => ⟨isCapitalWord_of_isUsable usable, not_reserved_of_isUsable usable⟩

/-- A ligature opens the first segment, an empty one stands in the middle, and a number
ends the name. -/
theorem usable_iff_segments_fit_of_firLog :
    isUsable (ofRaw "\uFB01r:_log-2") = true ∧
      ofRaw "\uFB01r:_log-2" = "FIrLog2" ∧ IsCapitalWord (ofRaw "\uFB01r:_log-2") ∧
        ofRaw "\uFB01r:_log-2" ∉ reservedWords := by
  have usable : isUsable (ofRaw "\uFB01r:_log-2") = true := by decide +kernel
  obtain ⟨isCapital, notReserved⟩ := (usable_iff_segments_fit "\uFB01r:_log-2").2 usable
  exact ⟨usable, by decide +kernel, isCapital, notReserved⟩

end Identifier

end BlockStates
