import BlockStates.Json.StringToken
import BlockStates.Proofs.Lexical.Parts

/-!
# String literals

What a string literal of the generated code stands for, by a reader of its own that
knows nothing of how literals are written: it takes one character after the other
and follows the escapes of the language.  `quoted_faithful` says that a quoted text
is one literal on one line which stands for just that text.
-/

set_option autoImplicit false

namespace BlockStates.Lexical

/-! ## Reading a literal -/

inductive LiteralPlace where
  /-- In front of the opening quote. -/
  | front
  | content
  /-- Behind a backslash. -/
  | escape
  /-- Behind the letter of an escape by code point. -/
  | codeLetter
  /-- Inside the braces of an escape by code point, behind so many digits, which
  have this value. -/
  | code (digits value : Nat)
  /-- Behind the closing quote. -/
  | behind
  deriving DecidableEq, Repr

namespace LiteralPlace

def letterEscape? (letter : Char) : Option Char :=
  if letter = 'n' then some '\n'
  else if letter = 'r' then some '\r'
  else if letter = 't' then some '\t'
  else if letter = '0' then some '\x00'
  else if letter = '\\' then some '\\'
  else if letter = '"' then some '"'
  else if letter = '\x27' then some '\x27'
  else none

/-- The place behind a character and the characters that are read with it; nothing
if no literal goes on like that.  Escapes of bytes and continued lines are left out:
a literal that has them is not read. -/
def step (place : LiteralPlace) (character : Char) : Option (LiteralPlace × List Char) :=
  match place with
  | .front => if character = '"' then some (.content, []) else none
  | .content =>
    if character = '"' then some (.behind, [])
    else if character = '\\' then some (.escape, [])
    else if character = '\r' then none
    else some (.content, [character])
  | .escape =>
    if character = 'u' then some (.codeLetter, [])
    else (letterEscape? character).map fun meant => (.content, [meant])
  | .codeLetter => if character = '{' then some (.code 0 0, []) else none
  | .code digits value =>
    if character = '}' then
      if 0 < digits ∧ value.isValidChar then some (.content, [Char.ofNat value]) else none
    else if character = '_' then
      if 0 < digits then some (.code digits value, []) else none
    else
      match Json.hexDigit? character with
      | some digit =>
        if digits < 6 then some (.code (digits + 1) (16 * value + digit), []) else none
      | none => none
  | .behind => none

def run (place : LiteralPlace) : List Char → Option (LiteralPlace × List Char)
  | [] => some (place, [])
  | character :: rest => do
    let (next, meant) ← place.step character
    let (last, more) ← run next rest
    return (last, meant ++ more)

end LiteralPlace

/-- The text that a literal stands for, if the whole is one literal. -/
def meaning? (literal : String) : Option String :=
  match LiteralPlace.front.run literal.toList with
  | some (.behind, meant) => some (String.ofList meant)
  | _ => none

/-! ## Quotes and lines -/

/-- Whether a text takes the meaning from the character behind it: it ends with a
backslash that keeps its own meaning. -/
def escapesNext (text : List Char) : Bool :=
  text.foldl (fun escaped character => !escaped && character == '\\') false

/-- Whether a character controls how a text is set: a control character, or one that
parts lines or paragraphs. -/
def breaksLine (character : Char) : Bool :=
  let code := character.toNat
  code < 0x20 || (0x7F ≤ code && code ≤ 0x9F) || code == 0x2028 || code == 0x2029

/-- A literal that stands for a text, on one line and without an end before its end. -/
structure IsLiteralFor (literal text : String) : Prop where
  token : scan literal = ([.literal literal], .code)
  /-- Between the first and the last quote every quote is escaped, and the last one
  is not. -/
  quotes : ∃ content, literal = "\"" ++ content ++ "\"" ∧ escapesNext content.toList = false ∧
    ∀ before after, content.toList = before ++ '"' :: after → escapesNext before = true
  oneLine : ∀ character ∈ literal.toList, breaksLine character = false
  meaning : meaning? literal = some text

/-! ## Reading what is quoted -/

namespace LiteralPlace

theorem run_append {place middle last : LiteralPlace} {first second meant more : List Char}
    (firstRun : place.run first = some (middle, meant))
    (secondRun : middle.run second = some (last, more)) :
    place.run (first ++ second) = some (last, meant ++ more) := by
  induction first generalizing place meant with
  | nil =>
    cases firstRun
    exact secondRun
  | cons character rest restAppend =>
    obtain ⟨⟨next, read⟩, isStep, later⟩ := Option.bind_eq_some_iff.mp firstRun
    obtain ⟨⟨_, readLater⟩, restRun, result⟩ := Option.bind_eq_some_iff.mp later
    cases result
    simp [run, isStep, restAppend restRun]

theorem step_digit {digits value digit : Nat} (isDigit : digit < 16) (room : digits < 6) :
    (code digits value).step (Nat.digitChar digit) =
      some (.code (digits + 1) (16 * value + digit), []) := by
  have plain : ∀ digit < 16, Nat.digitChar digit ≠ '}' ∧ Nat.digitChar digit ≠ '_' ∧
      Json.hexDigit? (Nat.digitChar digit) = some digit := by
    decide
  obtain ⟨noBrace, noLine, isHex⟩ := plain digit isDigit
  simp [step, noBrace, noLine, isHex, room]

/-- The digits of a number are read as the number. -/
theorem run_hexDigits (number : Nat) (short : (Text.hexDigits number).length ≤ 6) :
    (code 0 0).run (Text.hexDigits number) =
      some (.code (Text.hexDigits number).length number, []) := by
  unfold Text.hexDigits at short ⊢
  induction number using Nat.strongRecOn with
  | ind number smaller =>
    by_cases single : number < 16
    · rw [Nat.toDigits_of_lt_base single]
      simp [run, step_digit single]
    · have long : 16 ≤ number := Nat.le_of_not_lt single
      rw [Nat.toDigits_of_base_le (by decide) long, List.length_append, List.length_singleton] at *
      have front := smaller (number / 16) (by omega) (by omega)
      have isLast : number % 16 < 16 := Nat.mod_lt number (by decide)
      have lastDigit :
          (code (Nat.toDigits 16 (number / 16)).length (number / 16)).step
              (Nat.digitChar (number % 16)) =
            some (.code ((Nat.toDigits 16 (number / 16)).length + 1)
              (16 * (number / 16) + number % 16), []) :=
        step_digit isLast (Nat.lt_of_succ_le short)
      rw [Nat.div_add_mod] at lastDigit
      exact run_append front (by simp [run, lastDigit])

/-- A character is read as itself from what is written for it. -/
theorem run_escaped (character : Char) :
    content.run (Text.escaped character) = some (.content, [character]) := by
  unfold Text.escaped
  split_ifs with isNul isTab isReturn isNewline isQuote isBackslash isInvisible
  · rw [isNul]
    rfl
  · rw [isTab]
    rfl
  · rw [isReturn]
    rfl
  · rw [isNewline]
    rfl
  · rw [isQuote]
    rfl
  · rw [isBackslash]
    rfl
  · have valid : character.toNat.isValidChar := character.valid
    have small : character.toNat < 16 ^ 6 := by
      rcases valid with below | ⟨-, below⟩ <;> omega
    have short : (Text.hexDigits character.toNat).length ≤ 6 :=
      (Nat.length_toDigits_le_iff (by decide) (by decide)).mpr small
    have someDigit : 0 < (Text.hexDigits character.toNat).length := Nat.length_toDigits_pos
    have opened : content.run ['\\', 'u', '{'] = some (.code 0 0, []) := rfl
    have closed : (code (Text.hexDigits character.toNat).length character.toNat).run ['}'] =
        some (.content, [character]) := by
      simp [run, step, someDigit, valid, Char.ofNat_toNat]
    exact run_append (run_append opened (run_hexDigits character.toNat short)) closed
  · simp [run, step, isQuote, isBackslash, isReturn]

end LiteralPlace

theorem meaning?_quoted (text : String) : meaning? (Text.quoted text) = some text := by
  have content (characters : List Char) :
      LiteralPlace.content.run (characters.flatMap Text.escaped) = some (.content, characters) := by
    induction characters with
    | nil => rfl
    | cons character rest restRun =>
      rw [List.flatMap_cons]
      exact LiteralPlace.run_append (LiteralPlace.run_escaped character) restRun
  have opened : LiteralPlace.front.run ['"'] = some (.content, []) := rfl
  have closed : LiteralPlace.content.run ['"'] = some (.behind, []) := rfl
  have whole := LiteralPlace.run_append
    (LiteralPlace.run_append opened (content text.toList)) closed
  rw [List.nil_append, List.append_nil, List.singleton_append] at whole
  rw [meaning?, Text.quoted, String.toList_ofList, whole]
  exact congrArg some String.ofList_toList

/-! ## Quotes and lines of what is quoted -/

/-- A text inside of a literal that neither ends the literal nor takes the meaning
from what follows. -/
structure StaysInside (text : List Char) : Prop where
  ends : escapesNext text = false
  quotes : ∀ before after, text = before ++ '"' :: after → escapesNext before = true

namespace StaysInside

theorem escape (character : Char) : StaysInside ['\\', character] where
  ends := rfl
  quotes := by
    intro before after split
    match before with
    | [] => simp at split
    | [first] =>
      obtain ⟨rfl, -⟩ := List.cons_eq_cons.mp split
      rfl
    | _ :: _ :: _ => simp at split

theorem plain {text : List Char}
    (isPlain : ∀ character ∈ text, character ≠ '"' ∧ character ≠ '\\') : StaysInside text where
  ends := by
    induction text with
    | nil => rfl
    | cons character rest restEnds =>
      obtain ⟨first, later⟩ := List.forall_mem_cons.mp isPlain
      have noEscape : (!false && character == '\\') = false := by simp [first.2]
      rw [escapesNext, List.foldl_cons, noEscape]
      exact restEnds later
  quotes := by
    rintro before after rfl
    exact absurd rfl (isPlain '"' (by simp)).1

theorem append {first second : List Char} (firstStays : StaysInside first)
    (secondStays : StaysInside second) : StaysInside (first ++ second) := by
  have behindFirst (text : List Char) : escapesNext (first ++ text) = escapesNext text := by
    have ends := firstStays.ends
    unfold escapesNext at ends ⊢
    rw [List.foldl_append, ends]
  refine ⟨(behindFirst second).trans secondStays.ends, ?_⟩
  intro before after split
  rcases List.append_eq_append_iff.mp split with ⟨middle, rfl, isSecond⟩ | ⟨middle, isFirst, rest⟩
  · rw [behindFirst]
    exact secondStays.quotes middle after isSecond
  · match middle with
    | [] => exact absurd (secondStays.quotes [] after rest.symm) Bool.false_ne_true
    | quote :: inFirst =>
      obtain ⟨rfl, -⟩ := List.cons_eq_cons.mp rest
      exact firstStays.quotes before inFirst isFirst

theorem flatMap {write : Char → List Char} (each : ∀ character, StaysInside (write character))
    (characters : List Char) : StaysInside (characters.flatMap write) := by
  induction characters with
  | nil => exact .plain (by simp)
  | cons character rest restStays => exact (each character).append restStays

theorem escaped (character : Char) : StaysInside (Text.escaped character) := by
  unfold Text.escaped
  split_ifs with isNul isTab isReturn isNewline isQuote isBackslash isInvisible
  any_goals exact .escape _
  · have braced : ∀ following ∈ '{' :: Text.hexDigits character.toNat ++ ['}'],
        following ≠ '"' ∧ following ≠ '\\' := by
      rw [List.forall_mem_append, List.forall_mem_cons, List.forall_mem_singleton]
      exact ⟨⟨by decide, hexDigits_plain _⟩, by decide⟩
    exact (StaysInside.escape 'u').append (.plain braced)
  · exact .plain (by simp [isQuote, isBackslash])

end StaysInside

/-- What would break a line does not show. -/
theorem isInvisible_of_breaksLine {character : Char} (breaks : breaksLine character = true) :
    Text.isInvisible character = true := by
  simp only [breaksLine, Bool.or_eq_true, Bool.and_eq_true, decide_eq_true_eq, beq_iff_eq] at breaks
  unfold Text.isInvisible
  rcases breaks with ((isControl | isDelete) | isLine) | isParagraph
  · simp [isControl]
  · have found : Text.invisibleRanges.any (fun range =>
        range.1 ≤ character.toNat && character.toNat ≤ range.2) = true := by
      have firstRange : (0x7F, 0xA0) ∈ Text.invisibleRanges := List.mem_cons_self
      have inside : character.toNat ≤ 0xA0 := by omega
      exact List.any_eq_true.mpr ⟨_, firstRange, by simp [isDelete.1, inside]⟩
    simp [isDelete.1, found]
  · rw [isLine]
    decide +kernel
  · rw [isParagraph]
    decide +kernel

theorem not_breaksLine_escaped (character : Char) :
    ∀ written ∈ Text.escaped character, breaksLine written = false := by
  have short (letter : Char) (plain : breaksLine letter = false) :
      ∀ written ∈ ['\\', letter], breaksLine written = false := by
    rw [List.forall_mem_cons, List.forall_mem_singleton]
    exact ⟨by decide, plain⟩
  unfold Text.escaped
  split_ifs with isNul isTab isReturn isNewline isQuote isBackslash isInvisible
  · exact short '0' (by decide)
  · exact short 't' (by decide)
  · exact short 'r' (by decide)
  · exact short 'n' (by decide)
  · exact short '"' (by decide)
  · exact short '\\' (by decide)
  · have digits : ∀ written ∈ Text.hexDigits character.toNat, breaksLine written = false := by
      have each : ∀ digit < 16, breaksLine (Nat.digitChar digit) = false := by decide
      intro written isWritten
      obtain ⟨digit, isDigit, rfl⟩ := mem_hexDigits isWritten
      exact each digit isDigit
    have opening : ∀ written ∈ ['\\', 'u', '{'], breaksLine written = false := by
      rw [List.forall_mem_cons, List.forall_mem_cons, List.forall_mem_singleton]
      decide
    rw [List.forall_mem_append, List.forall_mem_append, List.forall_mem_singleton]
    exact ⟨⟨opening, digits⟩, by decide⟩
  · rw [List.forall_mem_singleton, ← Bool.not_eq_true]
    exact mt isInvisible_of_breaksLine isInvisible

theorem not_breaksLine_quoted (text : String) :
    ∀ character ∈ (Text.quoted text).toList, breaksLine character = false := by
  rw [Text.quoted, String.toList_ofList, List.forall_mem_append, List.forall_mem_cons,
    List.forall_mem_singleton, List.forall_mem_flatMap]
  exact ⟨⟨by decide, fun character _ => not_breaksLine_escaped character⟩, by decide⟩

/-- Every text is quoted as one literal that stands for it, so no two texts are
quoted alike. -/
theorem quoted_faithful :
    (∀ text, IsLiteralFor (Text.quoted text) text) ∧ Function.Injective Text.quoted := by
  constructor
  · intro text
    have inside := StaysInside.flatMap StaysInside.escaped text.toList
    refine ⟨(Scans.quoted text).scan_eq, ⟨String.ofList (text.toList.flatMap Text.escaped), ?_, ?_,
      ?_⟩, not_breaksLine_quoted text, meaning?_quoted text⟩
    · apply String.toList_inj.mp
      simp [Text.quoted]
    · rw [String.toList_ofList]
      exact inside.ends
    · rw [String.toList_ofList]
      exact inside.quotes
  · intro first second same
    have meanings := congrArg meaning? same
    rw [meaning?_quoted, meaning?_quoted] at meanings
    exact Option.some.inj meanings

end BlockStates.Lexical
