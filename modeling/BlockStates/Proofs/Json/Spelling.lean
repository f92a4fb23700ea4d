import BlockStates.Json.Ignored

/-!
# Spellings of JSON texts

A JSON text is a list of tokens with blanks around them.  Strings are the only
tokens that can be written in several ways: each character as it is or as any of
its escapes.  Nothing here knows of a reader.
-/

set_option autoImplicit false

namespace BlockStates.Json

inductive Token where
  | opening (bracket : Bracket)
  | closing (bracket : Bracket)
  | comma
  | colon
  | text (value : String)
  /-- A number or a word, which can be written in one way only. -/
  | plain (characters : List Char)
  deriving DecidableEq, Repr

/-! ## Characters of strings -/

def IsHexDigit (value : Nat) (digit : Char) : Prop :=
  value < 16 ∧ (digit = Nat.digitChar value ∨ digit = (Nat.digitChar value).toUpper)

instance (value : Nat) (digit : Char) : Decidable (IsHexDigit value digit) :=
  inferInstanceAs (Decidable (value < 16 ∧
    (digit = Nat.digitChar value ∨ digit = (Nat.digitChar value).toUpper)))

inductive SpellsUnit : Nat → List Char → Prop where
  | digits {first second third fourth : Nat} {one two three four : Char}
      (isFirst : IsHexDigit first one) (isSecond : IsHexDigit second two)
      (isThird : IsHexDigit third three) (isFourth : IsHexDigit fourth four) :
      SpellsUnit (((first * 16 + second) * 16 + third) * 16 + fourth) [one, two, three, four]

def shortEscapes : List (Char × Char) :=
  [('"', '"'), ('\\', '\\'), ('/', '/'), ('b', '\x08'), ('f', '\x0c'), ('n', '\n'), ('r', '\r'),
    ('t', '\t')]

inductive SpellsCharacter : Char → List Char → Prop where
  | raw {character : Char} (noQuote : character ≠ '"') (noBackslash : character ≠ '\\')
      (noControl : 0x20 ≤ character.toNat) : SpellsCharacter character [character]
  | short {letter character : Char} (listed : (letter, character) ∈ shortEscapes) :
      SpellsCharacter character ['\\', letter]
  | unit {character : Char} {digits : List Char} (isUnit : SpellsUnit character.toNat digits) :
      SpellsCharacter character ('\\' :: 'u' :: digits)
  /-- A character beyond 16 bits as two units. -/
  | pair {character : Char} {high low : List Char} (beyond : 0x10000 ≤ character.toNat)
      (isHigh : SpellsUnit (0xD800 + (character.toNat - 0x10000) / 0x400) high)
      (isLow : SpellsUnit (0xDC00 + (character.toNat - 0x10000) % 0x400) low) :
      SpellsCharacter character ('\\' :: 'u' :: (high ++ '\\' :: 'u' :: low))

inductive SpellsText : List Char → List Char → Prop where
  | nil : SpellsText [] []
  | cons {character : Char} {value piece pieces : List Char}
      (first : SpellsCharacter character piece) (later : SpellsText value pieces) :
      SpellsText (character :: value) (piece ++ pieces)

/-! ## Tokens and texts -/

def Bracket.opener : Bracket → Char
  | .list => '['
  | .object => '\x7b'

def Token.mark? : Token → Option Char
  | .opening bracket => some bracket.opener
  | .closing bracket => some bracket.closer
  | .comma => some ','
  | .colon => some ':'
  | .text _ | .plain _ => none

def isPlain (character : Char) : Bool :=
  character.isAlphanum || character == '-' || character == '+' || character == '.'

inductive Token.Spelled : Token → List Char → Prop where
  | mark {token : Token} {character : Char} (isMark : token.mark? = some character) :
      Spelled token [character]
  | text {value : String} {characters : List Char}
      (spelled : SpellsText value.toList characters) :
      Spelled (.text value) ('"' :: (characters ++ ['"']))
  | plain {characters : List Char} (nonempty : characters ≠ [])
      (inside : ∀ character ∈ characters, isPlain character = true) :
      Spelled (.plain characters) characters

def Blank (characters : List Char) : Prop :=
  ∀ character ∈ characters, character ∈ [' ', '\t', '\n', '\r']

instance (characters : List Char) : Decidable (Blank characters) :=
  List.decidableBAll (fun character => character ∈ [' ', '\t', '\n', '\r']) characters

/-- A text of tokens, with any blanks in front of each token and at the end. -/
inductive Spelled : List Token → List Char → Prop where
  | nil {blanks : List Char} (blank : Blank blanks) : Spelled [] blanks
  | cons {token : Token} {tokens : List Token} {blanks characters rest : List Char}
      (blank : Blank blanks) (first : token.Spelled characters) (later : Spelled tokens rest) :
      Spelled (token :: tokens) (blanks ++ (characters ++ rest))

/-! ## Lists and objects -/

def behindPart (bracket : Bracket) : List (List Token) → List Token
  | [] => [.closing bracket]
  | part :: parts => .comma :: (part ++ behindPart bracket parts)

def insideBracket (bracket : Bracket) : List (List Token) → List Token
  | [] => [.closing bracket]
  | part :: parts => part ++ behindPart bracket parts

def listTokens (items : List (List Token)) : List Token :=
  .opening .list :: insideBracket .list items

abbrev Member := String × List Token

def Member.tokens (member : Member) : List Token :=
  .text member.1 :: .colon :: member.2

def objectTokens (members : List Member) : List Token :=
  .opening .object :: insideBracket .object (members.map Member.tokens)

def integerToken (value : Int) : Token :=
  .plain (toString value).toList

/-! ## The front of a text -/

/-- Whether a token ends or parts values, so that no value starts with it. -/
def Token.isPunctuation : Token → Bool
  | .closing _ | .comma | .colon => true
  | .opening _ | .text _ | .plain _ => false

/-- Tokens in front of which a number or a word ends. -/
def Parted (tokens : List Token) : Prop :=
  ∀ characters, tokens.head? ≠ some (.plain characters)

theorem isBlank_iff (character : Char) :
    isBlank character = true ↔ character ∈ [' ', '\t', '\n', '\r'] := by
  simp only [isBlank, Bool.or_eq_true, beq_iff_eq, List.mem_cons, List.not_mem_nil, or_false]
  grind

theorem skipBlanks_append {blanks : List Char} (blank : Blank blanks) (text : List Char) :
    skipBlanks (blanks ++ text) = skipBlanks text :=
  List.dropWhile_append_of_pos fun character member =>
    (isBlank_iff character).mpr (blank character member)

theorem skipBlanks_of_not_blank {first : Char} (noBlank : isBlank first = false)
    (rest : List Char) : skipBlanks (first :: rest) = first :: rest :=
  List.dropWhile_cons_of_neg (by simp [noBlank])

theorem Spelled.skipBlanks_nil {text : List Char} (spelled : Spelled [] text) :
    skipBlanks text = [] := by
  cases spelled with
  | nil blank =>
    have skipped := skipBlanks_append blank []
    rwa [List.append_nil] at skipped

theorem Token.not_plain_of_mark {token : Token} {mark : Char} (isMark : token.mark? = some mark) :
    isBlank mark = false ∧ isPlain mark = false := by
  cases token with
  | opening bracket | closing bracket =>
    cases bracket <;> cases isMark <;> decide
  | comma | colon => cases isMark; decide
  | text | plain => cases isMark

theorem not_blank_of_isPlain {character : Char} (plain : isPlain character = true) :
    isBlank character = false := by
  rw [← Bool.not_eq_true, isBlank_iff]
  intro listed
  simp only [List.mem_cons, List.not_mem_nil, or_false] at listed
  rcases listed with rfl | rfl | rfl | rfl <;> exact absurd plain (by decide)

inductive Token.StartsWith : Token → Char → Prop where
  | mark {token : Token} {first : Char} (isMark : token.mark? = some first) :
      StartsWith token first
  | quote {value : String} : StartsWith (.text value) '"'
  | plain {characters : List Char} {first : Char} (plain : isPlain first = true) :
      StartsWith (.plain characters) first

theorem Token.Spelled.starts {token : Token} {characters : List Char}
    (spelled : token.Spelled characters) :
    ∃ first rest, characters = first :: rest ∧ token.StartsWith first := by
  cases spelled with
  | mark isMark => exact ⟨_, [], rfl, .mark isMark⟩
  | text => exact ⟨_, _, rfl, .quote⟩
  | plain nonempty inside =>
    obtain ⟨first, rest, rfl⟩ := List.exists_cons_of_ne_nil nonempty
    exact ⟨first, rest, rfl, .plain (inside first List.mem_cons_self)⟩

theorem Token.StartsWith.not_blank {token : Token} {first : Char}
    (starts : token.StartsWith first) : isBlank first = false := by
  cases starts with
  | mark isMark => exact (not_plain_of_mark isMark).1
  | quote => decide
  | plain plain => exact not_blank_of_isPlain plain

/-- Behind the blanks in front of a token the token itself is left. -/
theorem Spelled.skipBlanks_cons {token : Token} {tokens : List Token} {text : List Char}
    (spelled : Spelled (token :: tokens) text) :
    ∃ characters rest, skipBlanks text = characters ++ rest ∧ token.Spelled characters ∧
      Spelled tokens rest := by
  cases spelled with
  | @cons _ _ blanks characters rest blank first later =>
    refine ⟨characters, rest, ?_, first, later⟩
    obtain ⟨opening, others, rfl, starts⟩ := first.starts
    rw [skipBlanks_append blank, List.cons_append, skipBlanks_of_not_blank starts.not_blank]

/-- So the text without the blanks at its front is a spelling of the same tokens. -/
theorem Spelled.of_skipBlanks {token : Token} {tokens : List Token} {text : List Char}
    (spelled : Spelled (token :: tokens) text) :
    ∃ first rest, skipBlanks text = first :: rest ∧ token.StartsWith first ∧
      Spelled (token :: tokens) (first :: rest) := by
  obtain ⟨characters, rest, skipped, isToken, later⟩ := spelled.skipBlanks_cons
  obtain ⟨first, others, rfl, starts⟩ := isToken.starts
  have noBlanks : Blank [] := by simp [Blank]
  exact ⟨first, others ++ rest, skipped, starts, .cons noBlanks isToken later⟩

theorem Spelled.skipBlanks_text {value : String} {tokens : List Token} {text : List Char}
    (spelled : Spelled (.text value :: tokens) text) :
    ∃ characters rest, skipBlanks text = '"' :: (characters ++ '"' :: rest) ∧
      SpellsText value.toList characters ∧ Spelled tokens rest := by
  obtain ⟨characters, rest, skipped, isToken, later⟩ := spelled.skipBlanks_cons
  cases isToken with
  | mark isMark => cases isMark
  | text spells => exact ⟨_, rest, by simpa using skipped, spells, later⟩

theorem Spelled.skipBlanks_plain {characters : List Char} {tokens : List Token}
    {text : List Char} (spelled : Spelled (.plain characters :: tokens) text) :
    ∃ rest, skipBlanks text = characters ++ rest ∧ Spelled tokens rest := by
  obtain ⟨_, rest, skipped, isToken, later⟩ := spelled.skipBlanks_cons
  cases isToken with
  | mark isMark => cases isMark
  | plain => exact ⟨rest, skipped, later⟩

theorem Spelled.skipBlanks_mark {token : Token} {tokens : List Token} {text : List Char}
    {mark : Char} (isMark : token.mark? = some mark) (spelled : Spelled (token :: tokens) text) :
    ∃ rest, skipBlanks text = mark :: rest ∧ Spelled tokens rest := by
  obtain ⟨characters, rest, skipped, isToken, later⟩ := spelled.skipBlanks_cons
  cases isToken with
  | mark isOther =>
    obtain rfl := Option.some.inj (isMark.symm.trans isOther)
    exact ⟨rest, skipped, later⟩
  | text | plain => cases isMark

/-- No value starts with a character that closes or parts values. -/
theorem Token.StartsWith.not_mark {token : Token} {first mark : Char}
    (starts : token.StartsWith first) (opensValue : token.isPunctuation = false) (other : Token)
    (punctuation : other.isPunctuation = true) (isMark : other.mark? = some mark) :
    first ≠ mark := by
  rintro rfl
  have notPlain := (not_plain_of_mark isMark).2
  cases starts with
  | mark isFirst =>
    cases token with
    | opening bracket =>
      cases other with
      | closing otherBracket =>
        cases bracket <;> cases otherBracket <;> cases isFirst <;> cases isMark
      | comma | colon => cases bracket <;> cases isFirst <;> cases isMark
      | opening | text | plain => cases punctuation
    | closing | comma | colon => cases opensValue
    | text | plain => cases isFirst
  | quote =>
    cases other with
    | closing bracket => cases bracket <;> cases isMark
    | comma | colon => cases isMark
    | opening | text | plain => cases punctuation
  | plain plain => exact Bool.false_ne_true (notPlain.symm.trans plain)

/-- Where a number or a word ends, no character follows that would prolong it. -/
theorem Spelled.not_plain_of_parted {tokens : List Token} {text : List Char}
    (spelled : Spelled tokens text) (parted : Parted tokens) :
    ∀ first ∈ text.head?, isPlain first = false := by
  have blankNotPlain {blanks : List Char} (blank : Blank blanks) {first : Char}
      (isFirst : first ∈ blanks) : isPlain first = false := by
    rw [← Bool.not_eq_true]
    intro plain
    have noBlank := not_blank_of_isPlain plain
    rw [(isBlank_iff first).mpr (blank first isFirst)] at noBlank
    cases noBlank
  intro first isFirst
  cases spelled with
  | nil blank => exact blankNotPlain blank (List.mem_of_mem_head? isFirst)
  | @cons token tokens blanks characters rest blank isToken later =>
    cases blanks with
    | cons head others =>
      obtain rfl := Option.some.inj isFirst
      exact blankNotPlain blank List.mem_cons_self
    | nil =>
      obtain ⟨head, others, rfl, starts⟩ := isToken.starts
      obtain rfl := Option.some.inj isFirst
      cases starts with
      | mark isMark => exact (Token.not_plain_of_mark isMark).2
      | quote => decide
      | plain => exact absurd rfl (parted _)

/-! ## Every token can be written -/

def isRaw (character : Char) : Bool :=
  character != '"' && character != '\\' && 0x20 ≤ character.toNat

theorem spellsText_of_isRaw {value : List Char} (raw : value.all isRaw = true) :
    SpellsText value value := by
  induction value with
  | nil => exact .nil
  | cons character value laterSpelled =>
    rw [List.all_cons, Bool.and_eq_true] at raw
    obtain ⟨isFirst, later⟩ := raw
    simp only [isRaw, Bool.and_eq_true, bne_iff_ne, decide_eq_true_eq] at isFirst
    obtain ⟨⟨noQuote, noBackslash⟩, noControl⟩ := isFirst
    exact .cons (.raw noQuote noBackslash noControl) (laterSpelled later)

/-- Tokens as they are spelled, each with the blanks in front of it. -/
theorem spelled_of_pieces {pieces : List (String × Token × List Char)}
    (all : ∀ piece ∈ pieces, Blank piece.1.toList ∧ piece.2.1.Spelled piece.2.2) :
    Spelled (pieces.map fun piece => piece.2.1)
      (pieces.flatMap fun piece => piece.1.toList ++ piece.2.2) := by
  induction pieces with
  | nil => exact .nil (by decide)
  | cons piece pieces laterSpelled =>
    obtain ⟨⟨blank, isToken⟩, later⟩ := List.forall_mem_cons.mp all
    rw [List.map_cons, List.flatMap_cons, List.append_assoc]
    exact .cons blank isToken (laterSpelled later)

theorem exists_spelling (character : Char) : ∃ piece, SpellsCharacter character piece := by
  by_cases quote : character = '"'
  · have listed : ('"', '"') ∈ shortEscapes := by decide
    subst quote
    exact ⟨_, .short listed⟩
  · by_cases backslash : character = '\\'
    · have listed : ('\\', '\\') ∈ shortEscapes := by decide
      subst backslash
      exact ⟨_, .short listed⟩
    · by_cases control : character.toNat < 0x20
      · have isDigit (value : Nat) (small : value < 16) : IsHexDigit value (Nat.digitChar value) :=
          ⟨small, Or.inl rfl⟩
        have isUnit := SpellsUnit.digits (isDigit 0 (by omega)) (isDigit 0 (by omega))
          (isDigit (character.toNat / 16) (by omega)) (isDigit (character.toNat % 16) (by omega))
        have sameUnit : ((0 * 16 + 0) * 16 + character.toNat / 16) * 16 + character.toNat % 16 =
            character.toNat := by
          omega
        rw [sameUnit] at isUnit
        exact ⟨_, .unit isUnit⟩
      · exact ⟨_, .raw quote backslash (by omega)⟩

theorem exists_spelledText (value : List Char) : ∃ characters, SpellsText value characters := by
  induction value with
  | nil => exact ⟨[], .nil⟩
  | cons character later laterSpelled =>
    obtain ⟨piece, first⟩ := exists_spelling character
    obtain ⟨pieces, spelled⟩ := laterSpelled
    exact ⟨piece ++ pieces, .cons first spelled⟩

def Writable (tokens : List Token) : Prop :=
  ∀ token ∈ tokens, ∃ characters, token.Spelled characters

theorem Writable.exists_text {tokens : List Token} (writable : Writable tokens) :
    ∃ text, Spelled tokens text := by
  induction tokens with
  | nil => exact ⟨[], .nil (by simp [Blank])⟩
  | cons token tokens laterSpelled =>
    obtain ⟨first, later⟩ := List.forall_mem_cons.mp writable
    obtain ⟨characters, isToken⟩ := first
    obtain ⟨rest, spelled⟩ := laterSpelled later
    exact ⟨[] ++ (characters ++ rest), .cons (by simp [Blank]) isToken spelled⟩

theorem Token.Spelled.writable {token : Token} {characters : List Char}
    (spelled : token.Spelled characters) : Writable [token] :=
  List.forall_mem_singleton.mpr ⟨characters, spelled⟩

theorem writable_text (value : String) : Writable [.text value] := by
  obtain ⟨characters, spelled⟩ := exists_spelledText value.toList
  exact (Token.Spelled.text spelled).writable

theorem Writable.mark {token : Token} {mark : Char} (isMark : token.mark? = some mark)
    {tokens : List Token} (writable : Writable tokens) : Writable (token :: tokens) :=
  List.forall_mem_cons.mpr ⟨⟨_, .mark isMark⟩, writable⟩

theorem Writable.append {tokens others : List Token} (writable : Writable tokens)
    (otherWritable : Writable others) : Writable (tokens ++ others) :=
  List.forall_mem_append.mpr ⟨writable, otherWritable⟩

theorem writable_behindPart (bracket : Bracket) {parts : List (List Token)}
    (writable : ∀ part ∈ parts, Writable part) : Writable (behindPart bracket parts) := by
  induction parts with
  | nil => exact .mark rfl (by simp [Writable])
  | cons part parts laterWritable =>
    obtain ⟨first, later⟩ := List.forall_mem_cons.mp writable
    exact .mark rfl (first.append (laterWritable later))

theorem writable_insideBracket (bracket : Bracket) {parts : List (List Token)}
    (writable : ∀ part ∈ parts, Writable part) : Writable (insideBracket bracket parts) := by
  cases parts with
  | nil => exact .mark rfl (by simp [Writable])
  | cons part parts =>
    obtain ⟨first, later⟩ := List.forall_mem_cons.mp writable
    exact first.append (writable_behindPart bracket later)

theorem writable_listTokens {items : List (List Token)}
    (writable : ∀ item ∈ items, Writable item) : Writable (listTokens items) :=
  .mark rfl (writable_insideBracket .list writable)

theorem writable_objectTokens {members : List Member}
    (writable : ∀ member ∈ members, Writable member.2) : Writable (objectTokens members) := by
  apply Writable.mark rfl
  apply writable_insideBracket
  intro part isPart
  obtain ⟨member, isMember, rfl⟩ := List.mem_map.mp isPart
  exact (writable_text member.1).append (.mark rfl (writable member isMember))

end BlockStates.Json
