import BlockStates.Identifier
import BlockStates.Text.Quoted
import BlockStates.Proofs.Lexical.Composition
import BlockStates.Proofs.UpperCase

/-!
# Scans of single tokens

The parts of a unit that depend on a catalog: names, numbers, the line comment
over a declaration, and string literals.  Each is scanned into one token, whatever
the raw text in it is.
-/

set_option autoImplicit false

namespace BlockStates.Lexical

namespace Mode

theorem run_of_ending {mode : Mode} {token : Token} {character : Char}
    (ends : mode.step character = ending token character) (rest : List Char) :
    mode.run (character :: rest) =
      (token :: (code.run (character :: rest)).1, (code.run (character :: rest)).2) := by
  rw [run_cons, ends]
  rfl

/-- A text all of whose characters only prolong a token. -/
theorem run_prolonging (inside : List Char → Mode) (text : List Char)
    (prolongs : ∀ character ∈ text, ∀ read : List Char,
      (inside read).step character = ([], inside (read ++ [character])))
    (read : List Char) : (inside read).run text = ([], inside (read ++ text)) := by
  induction text generalizing read with
  | nil => simp
  | cons character rest restRun =>
    obtain ⟨first, later⟩ := List.forall_mem_cons.mp prolongs
    rw [run_cons, first, restRun later, List.append_assoc]
    rfl

end Mode

/-! ## Names and numbers -/

/-- A text that is not empty and has no other than word characters: a name, a
keyword or a number. -/
structure IsWord (text : String) : Prop where
  nonempty : text ≠ ""
  characters : ∀ character ∈ text.toList, isWordCharacter character = true

theorem IsWord.of_all {text : String} (nonempty : text ≠ "")
    (characters : text.toList.all isWordCharacter = true) : IsWord text :=
  ⟨nonempty, List.all_eq_true.mp characters⟩

def isNumeric (text : String) : Bool :=
  text.toList.head?.any Char.isDigit

structure IsIdentifier (text : String) : Prop where
  word : IsWord text
  isName : isNumeric text = false

/-- A word, or a word behind the mark that lets a keyword be a name. -/
inductive IsName : String → Prop where
  | plain {text : String} (word : IsWord text) : IsName text
  | raw {text : String} (word : IsWord text) : IsName ("r#" ++ text)

theorem not_isWordCharacter_hash : isWordCharacter '#' = false := by
  decide

theorem opening_of_isWordCharacter {character : Char} (isWord : isWordCharacter character = true) :
    Mode.opening character = ([], .word [character]) := by
  have differs : ∀ other, isWordCharacter other = false → character ≠ other := by
    rintro other noWord rfl
    exact Bool.false_ne_true (noWord.symm.trans isWord)
  rw [Mode.opening, if_neg (differs '/' (by decide)), if_neg (differs '"' (by decide)),
    if_neg (differs '\x27' (by decide)), if_pos isWord]

theorem run_word {text : List Char}
    (characters : ∀ character ∈ text, isWordCharacter character = true) (read : List Char) :
    (Mode.word read).run text = ([], .word (read ++ text)) := by
  apply Mode.run_prolonging
  intro character member before
  exact if_pos (characters character member)

theorem IsWord.run_code {text : String} (word : IsWord text) :
    Mode.code.run text.toList = ([], .word text.toList) := by
  have nonempty : text.toList ≠ [] := fun empty => word.nonempty (String.toList_eq_nil_iff.mp empty)
  obtain ⟨first, rest, isText⟩ := List.exists_cons_of_ne_nil nonempty
  have characters := word.characters
  rw [isText] at characters ⊢
  obtain ⟨isFirst, isRest⟩ := List.forall_mem_cons.mp characters
  have opened : Mode.code.step first = ([], .word [first]) := opening_of_isWordCharacter isFirst
  rw [Mode.run_cons, opened, run_word isRest]
  rfl

/-- A text that ends in a word ends open. -/
theorem EndsOpen.of_run {text : String} {tokens : List Token} {read : List Char}
    (run : Mode.code.run text.toList = (tokens, .word read)) (complete : read ≠ ['r', '#'])
    (balanced : Balanced tokens) : EndsOpen text (tokens ++ [.word (String.ofList read)]) where
  run_append := by
    intro following ended
    rw [Mode.run_append, run]
    cases following with
    | nil => simp at ended
    | cons character rest =>
      simp only [List.head?_cons, Option.any_some, endsWord, Bool.and_eq_true, Bool.not_eq_true',
        decide_eq_true_eq] at ended
      have ends : (Mode.word read).step character =
          Mode.ending (.word (String.ofList read)) character := by
        have noHash : character ≠ '#' := by
          rintro rfl
          simp at ended
        simp [Mode.step, ended.1, noHash, ended.2, complete]
      rw [Mode.run_of_ending ends]
      simp
  balanced := by
    rw [Balanced, nest_append, balanced]
    rfl

theorem EndsOpen.word {text : String} (word : IsWord text) : EndsOpen text [.word text] := by
  have complete : text.toList ≠ ['r', '#'] := by
    intro isMark
    have isHash := word.characters '#' (by simp [isMark])
    exact Bool.false_ne_true (not_isWordCharacter_hash.symm.trans isHash)
  simpa using EndsOpen.of_run word.run_code complete rfl

theorem EndsOpen.name {text : String} (name : IsName text) : EndsOpen text [.word text] := by
  cases name with
  | plain word => exact .word word
  | @raw text word =>
    have marked : Mode.code.run "r#".toList = ([], .word "r#".toList) := by decide
    have run : Mode.code.run ("r#" ++ text).toList = ([], .word ("r#" ++ text).toList) := by
      rw [String.toList_append, Mode.run_append, marked, run_word word.characters]
      rfl
    have complete : ("r#" ++ text).toList ≠ ['r', '#'] := by
      simpa using word.nonempty
    have endsOpen := EndsOpen.of_run run complete rfl
    rwa [List.nil_append, String.ofList_toList] at endsOpen

theorem isWordCharacter_of_isAlphanum {character : Char}
    (isAlphanum : character.isAlphanum = true) : isWordCharacter character = true := by
  simp [isWordCharacter, isAlphanum]

theorem IsWord.of_isUsable {identifier : String} (usable : Identifier.isUsable identifier = true) :
    IsWord identifier := by
  rw [Identifier.isUsable, Bool.and_eq_true] at usable
  have isWord := usable.1
  cases characters : identifier.toList with
  | nil => simp [characters, Identifier.isWord] at isWord
  | cons first rest =>
    rw [characters, Identifier.isWord, Bool.and_eq_true, List.all_eq_true] at isWord
    refine ⟨by rintro rfl; simp at characters, ?_⟩
    rw [characters, List.forall_mem_cons]
    refine ⟨isWordCharacter_of_isAlphanum (by simp [Char.isAlphanum, isWord.1]), ?_⟩
    intro character member
    rcases Bool.or_eq_true_iff.mp (isWord.2 character member) with isAlphanum | isUnderscore
    · exact isWordCharacter_of_isAlphanum isAlphanum
    · simp [isWordCharacter, isUnderscore]

theorem not_isDigit_of_isAlpha {character : Char} (isLetter : character.isAlpha = true) :
    character.isDigit = false := by
  change (character.isUpper || character.isLower) = true at isLetter
  rw [Bool.or_eq_true, Text.isUpper_iff, Text.isLower_iff] at isLetter
  by_contra isDigit
  rw [Bool.not_eq_false, Char.isDigit, Bool.and_eq_true, decide_eq_true_iff, decide_eq_true_iff]
    at isDigit
  change 0x30 ≤ character.toNat ∧ character.toNat ≤ 0x39 at isDigit
  omega

theorem IsIdentifier.of_isUsable {identifier : String}
    (usable : Identifier.isUsable identifier = true) : IsIdentifier identifier := by
  refine ⟨.of_isUsable usable, ?_⟩
  rw [Identifier.isUsable, Bool.and_eq_true] at usable
  have isWord := usable.1
  unfold isNumeric
  cases characters : identifier.toList with
  | nil => rfl
  | cons first rest =>
    rw [characters, Identifier.isWord, Bool.and_eq_true] at isWord
    exact not_isDigit_of_isAlpha isWord.1

theorem IsWord.of_digits {text : String} (nonempty : text ≠ "")
    (digits : ∀ character ∈ text.toList, character.isDigit = true) : IsWord text :=
  ⟨nonempty, fun character member =>
    isWordCharacter_of_isAlphanum (by simp [Char.isAlphanum, digits character member])⟩

theorem IsWord.number (number : Nat) : IsWord (toString number) := by
  have characters : (toString number).toList = Nat.toDigits 10 number := Nat.toList_repr
  apply IsWord.of_digits
  · intro empty
    rw [empty] at characters
    exact Nat.toDigits_ne_nil characters.symm
  · intro character member
    rw [characters] at member
    exact Nat.isDigit_of_mem_toDigits (by decide) (by decide) member

theorem isNumeric_number (number : Nat) : isNumeric (toString number) = true := by
  have characters : (toString number).toList = Nat.toDigits 10 number := Nat.toList_repr
  have nonempty : Nat.toDigits 10 number ≠ [] := Nat.toDigits_ne_nil
  obtain ⟨first, rest, digits⟩ := List.exists_cons_of_ne_nil nonempty
  have isDigit : first.isDigit = true :=
    Nat.isDigit_of_mem_toDigits (by decide) (by decide) (digits ▸ List.mem_cons_self)
  rw [isNumeric, characters, digits, List.head?_cons, Option.any_some, isDigit]

/-! ## Raw names -/

/-- A character that parts no segments and is its own upper case is found again
in the identifier. -/
theorem mem_join {mark : Char} (partsNothing : Identifier.isSeparator mark = false)
    (fixed : Text.upperCase mark = [mark]) (text : List Char) (isMark : mark ∈ text)
    (opening : Bool) : mark ∈ Identifier.join opening text := by
  induction text generalizing opening with
  | nil => simp at isMark
  | cons character rest restMem =>
    rw [Identifier.join]
    rcases List.mem_cons.mp isMark with rfl | inRest
    · cases opening <;> simp [partsNothing, fixed]
    · split_ifs
      · exact restMem inRest true
      · exact List.mem_append_right _ (restMem inRest false)
      · exact List.mem_cons_of_mem _ (restMem inRest false)

/-- So a raw name that makes a usable identifier has no such character outside of
words. -/
theorem not_mem_of_isUsable {raw : String} {mark : Char}
    (usable : Identifier.isUsable (Identifier.ofRaw raw) = true)
    (partsNothing : Identifier.isSeparator mark = false) (fixed : Text.upperCase mark = [mark])
    (outside : isWordCharacter mark = false) : mark ∉ raw.toList := by
  intro isMark
  have inIdentifier : mark ∈ (Identifier.ofRaw raw).toList := by
    rw [Identifier.ofRaw, String.toList_ofList]
    exact mem_join partsNothing fixed raw.toList isMark true
  have isWord := (IsWord.of_isUsable usable).characters mark inIdentifier
  exact Bool.false_ne_true (outside.symm.trans isWord)

/-- A raw name that makes a usable identifier stays on its line. -/
theorem newline_not_mem_of_isUsable {raw : String}
    (usable : Identifier.isUsable (Identifier.ofRaw raw) = true) : '\n' ∉ raw.toList :=
  not_mem_of_isUsable usable (by decide) (by simp [Text.upperCase]) (by decide)

/-- The end of a line ends the comment on it. -/
theorem Scans.lineComment {comment last : String} {lastTokens : List Token}
    {behind : List Char} (inComment : scan comment = ([], .lineComment comment.toList))
    (ended : last.toList.head? = some '\n') (following : Scans [] last lastTokens behind) :
    Scans [] (comment ++ last) (.lineComment comment :: lastTokens) behind where
  scan_eq := by
    obtain ⟨rest, isLast⟩ := List.head?_eq_some_iff.mp ended
    have run : Mode.code.run comment.toList = ([], .lineComment comment.toList) := inComment
    have ends : ∀ read, (Mode.lineComment read).step '\n' =
        Mode.ending (.lineComment (String.ofList read)) '\n' := fun _ => rfl
    have lastRun := following.run_eq
    rw [isLast] at lastRun
    rw [scan, String.toList_append, Mode.run_append, run, isLast, Mode.run_of_ending (ends _),
      lastRun, String.ofList_toList]
    rfl
  nested := following.nested

/-- A comment around a name that stays on its line does so as well. -/
theorem scan_comment {mark name ending : String}
    (marked : scan mark = ([], .lineComment mark.toList)) (oneLine : '\n' ∉ name.toList)
    (endingOneLine : '\n' ∉ ending.toList) :
    scan (mark ++ name ++ ending) = ([], .lineComment (mark ++ name ++ ending).toList) := by
  have opened : Mode.code.run mark.toList = ([], .lineComment mark.toList) := marked
  rw [scan, String.append_assoc, String.toList_append, Mode.run_append, opened,
    Mode.run_prolonging .lineComment]
  · rfl
  · rintro character member read
    apply if_neg
    rintro rfl
    rw [String.toList_append] at member
    exact (List.mem_append.mp member).elim oneLine endingOneLine

/-! ## Literals -/

theorem run_literal {text : List Char}
    (plain : ∀ character ∈ text, character ≠ '"' ∧ character ≠ '\\') (read : List Char) :
    (Mode.literal '"' false read).run text = ([], .literal '"' false (read ++ text)) := by
  apply Mode.run_prolonging
  intro character member before
  obtain ⟨noQuote, noBackslash⟩ := plain character member
  simp [Mode.step, noQuote, noBackslash]

theorem mem_hexDigits {code : Nat} {character : Char} (member : character ∈ Text.hexDigits code) :
    ∃ digit < 16, character = Nat.digitChar digit := by
  unfold Text.hexDigits at member
  induction code using Nat.strongRecOn with
  | ind code smaller =>
    by_cases single : code < 16
    · rw [Nat.toDigits_of_lt_base single, List.mem_singleton] at member
      exact ⟨code, single, member⟩
    · have long : 16 ≤ code := Nat.le_of_not_lt single
      rw [Nat.toDigits_of_base_le (by decide) long] at member
      rcases List.mem_append.mp member with before | isLast
      · exact smaller (code / 16) (by omega) before
      · exact ⟨code % 16, Nat.mod_lt code (by decide), List.mem_singleton.mp isLast⟩

theorem hexDigits_plain (code : Nat) :
    ∀ character ∈ Text.hexDigits code, character ≠ '"' ∧ character ≠ '\\' := by
  have each : ∀ digit < 16, Nat.digitChar digit ≠ '"' ∧ Nat.digitChar digit ≠ '\\' := by decide
  intro character member
  obtain ⟨digit, isDigit, rfl⟩ := mem_hexDigits member
  exact each digit isDigit

/-- A character as it is written inside of a literal does not end it. -/
theorem run_escaped (character : Char) (read : List Char) :
    (Mode.literal '"' false read).run (Text.escaped character) =
      ([], .literal '"' false (read ++ Text.escaped character)) := by
  -- The backslash takes the meaning from one character; what follows it in the
  -- longest form is plain.
  have afterBackslash : ∀ second rest,
      (∀ following ∈ rest, following ≠ '"' ∧ following ≠ '\\') →
        (Mode.literal '"' false read).run ('\\' :: second :: rest) =
          ([], .literal '"' false (read ++ '\\' :: second :: rest)) := by
    intro second rest plain
    rw [Mode.run_cons, Mode.run_cons]
    simp [Mode.step, run_literal plain]
  unfold Text.escaped
  split_ifs with isNul isTab isReturn isNewline isQuote isBackslash isInvisible
  any_goals exact afterBackslash _ [] (by simp)
  · have plain : ∀ following ∈ '{' :: Text.hexDigits character.toNat ++ ['}'],
        following ≠ '"' ∧ following ≠ '\\' := by
      rw [List.forall_mem_append, List.forall_mem_cons, List.forall_mem_singleton]
      exact ⟨⟨by decide, hexDigits_plain _⟩, by decide⟩
    exact afterBackslash 'u' _ plain
  · exact run_literal (by simp [isQuote, isBackslash]) read

/-- Whatever the text is, it is quoted as one literal. -/
theorem Scans.quoted (text : String) :
    Scans [] (Text.quoted text) [.literal (Text.quoted text)] [] where
  scan_eq := by
    have content : ∀ (characters read : List Char),
        (Mode.literal '"' false read).run (characters.flatMap Text.escaped) =
          ([], .literal '"' false (read ++ characters.flatMap Text.escaped)) := by
      intro characters
      induction characters with
      | nil => simp
      | cons character rest restRun =>
        intro read
        rw [List.flatMap_cons, Mode.run_append, run_escaped, restRun, List.append_assoc]
        rfl
    have opened : Mode.code.step '"' = ([], .literal '"' false ['"']) := rfl
    rw [scan, Text.quoted, String.toList_ofList, List.cons_append, Mode.run_cons, opened,
      Mode.run_append, content]
    rfl
  nested := rfl

end BlockStates.Lexical
