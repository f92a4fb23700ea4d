import Mathlib.Data.List.Basic

/-!
# Scans of generated code

How a compiler parts a unit into tokens, reading one character after the other.
Comments, literals and lifetimes are kept apart from code as the language has
it: block comments nest, a line comment ends before the line feed, and inside a
literal a backslash takes the meaning from what follows.  Blanks and operators
are left as single marks; a literal with a prefix, which no unit contains, is
not scanned any further.
-/

set_option autoImplicit false

namespace BlockStates.Lexical

/-! ## Tokens and modes -/

inductive Token where
  /-- A name, a keyword or a number. -/
  | word (text : String)
  /-- A character that stands for itself: a bracket, an operator or a blank. -/
  | mark (character : Char)
  | lineComment (text : String)
  | blockComment (text : String)
  | literal (text : String)
  | lifetime (text : String)
  deriving DecidableEq, Repr

def Token.text : Token → List Char
  | .mark character => [character]
  | .word text | .lineComment text | .blockComment text | .literal text | .lifetime text =>
    text.toList

def Token.isCode : Token → Bool
  | .word _ | .mark _ | .lifetime _ => true
  | .lineComment _ | .blockComment _ | .literal _ => false

/-- What a scan is in the middle of, with the characters that it has read of an
unfinished token. -/
inductive Mode where
  | code
  /-- Behind a slash that may start a comment. -/
  | slash
  | word (read : List Char)
  | lineComment (read : List Char)
  /-- Inside a block comment and as many more around it as `depth` says.  `last`
  is the last character, if it can still be half of a comment mark. -/
  | blockComment (depth : Nat) (last : Option Char) (read : List Char)
  /-- Inside a literal that ends with `quote`. -/
  | literal (quote : Char) (escaped : Bool) (read : List Char)
  /-- Behind a single quote, which starts a character or a lifetime. -/
  | behindQuote
  | lifetime (read : List Char)
  | unknown (read : List Char)
  deriving DecidableEq, Repr

def isWideBlank (character : Char) : Bool :=
  character.toNat ∈ [0x85, 0x200E, 0x200F, 0x2028, 0x2029]

def isWordCharacter (character : Char) : Bool :=
  character.isAlphanum || character == '_' ||
    (0x80 ≤ character.toNat && !isWideBlank character)

namespace Mode

def opening (character : Char) : List Token × Mode :=
  if character = '/' then ([], .slash)
  else if character = '"' then ([], .literal '"' false ['"'])
  else if character = '\x27' then ([], .behindQuote)
  else if isWordCharacter character then ([], .word [character])
  else ([.mark character], .code)

def ending (token : Token) (character : Char) : List Token × Mode :=
  (token :: (opening character).1, (opening character).2)

def step (mode : Mode) (character : Char) : List Token × Mode :=
  match mode with
  | .code => opening character
  | .slash =>
    if character = '/' then ([], .lineComment ['/', '/'])
    else if character = '*' then ([], .blockComment 0 none ['/', '*'])
    else ending (.mark '/') character
  | .word read =>
    if isWordCharacter character then ([], .word (read ++ [character]))
    else if character = '#' ∧ read = ['r'] then ([], .word ['r', '#'])
    else if character ∈ ['"', '\x27', '#'] ∨ read = ['r', '#'] then
      ([], .unknown (read ++ [character]))
    else ending (.word (String.ofList read)) character
  | .lineComment read =>
    if character = '\n' then ending (.lineComment (String.ofList read)) character
    else ([], .lineComment (read ++ [character]))
  | .blockComment depth last read =>
    if last = some '/' ∧ character = '*' then
      ([], .blockComment (depth + 1) none (read ++ [character]))
    else if last = some '*' ∧ character = '/' then
      match depth with
      | 0 => ([.blockComment (String.ofList (read ++ [character]))], .code)
      | outer + 1 => ([], .blockComment outer none (read ++ [character]))
    else ([], .blockComment depth (some character) (read ++ [character]))
  | .literal quote escaped read =>
    if escaped then ([], .literal quote false (read ++ [character]))
    else if character = quote then ([.literal (String.ofList (read ++ [character]))], .code)
    else ([], .literal quote (character == '\\') (read ++ [character]))
  | .behindQuote =>
    if character = '\\' then ([], .literal '\x27' true ['\x27', character])
    else if character = '\x27' then ([], .unknown ['\x27', character])
    else if isWordCharacter character then ([], .lifetime ['\x27', character])
    else ([], .literal '\x27' false ['\x27', character])
  | .lifetime read =>
    if isWordCharacter character then ([], .lifetime (read ++ [character]))
    else if character = '\x27' ∧ read.length = 2 then
      ([.literal (String.ofList (read ++ [character]))], .code)
    else if character ∈ ['\x27', '#'] then ([], .unknown (read ++ [character]))
    else ending (.lifetime (String.ofList read)) character
  | .unknown read => ([], .unknown (read ++ [character]))

def run (mode : Mode) : List Char → List Token × Mode
  | [] => ([], mode)
  | character :: rest =>
    match mode.step character with
    | (tokens, next) =>
      match run next rest with
      | (later, last) => (tokens ++ later, last)

@[simp]
theorem run_nil (mode : Mode) : mode.run [] = ([], mode) := rfl

theorem run_cons (mode : Mode) (character : Char) (rest : List Char) :
    mode.run (character :: rest) =
      ((mode.step character).1 ++ ((mode.step character).2.run rest).1,
        ((mode.step character).2.run rest).2) := rfl

theorem run_append (mode : Mode) (first second : List Char) :
    mode.run (first ++ second) =
      ((mode.run first).1 ++ ((mode.run first).2.run second).1,
        ((mode.run first).2.run second).2) := by
  induction first generalizing mode with
  | nil => rfl
  | cons character rest restAppend =>
    rw [List.cons_append, run_cons, run_cons, restAppend, List.append_assoc]

/-! ## Nothing is lost -/

def pending : Mode → List Char
  | .code => []
  | .slash => ['/']
  | .behindQuote => ['\x27']
  | .word read | .lineComment read | .blockComment _ _ read | .literal _ _ read
  | .lifetime read | .unknown read => read

theorem text_opening (character : Char) :
    (opening character).1.flatMap Token.text ++ (opening character).2.pending = [character] := by
  unfold opening
  split_ifs <;> simp_all [pending, Token.text]

theorem text_ending {token : Token} {read : List Char} (isRead : token.text = read)
    (character : Char) :
    (ending token character).1.flatMap Token.text ++ (ending token character).2.pending =
      read ++ [character] := by
  rw [ending, List.flatMap_cons, List.append_assoc, text_opening, isRead]

theorem text_step (mode : Mode) (character : Char) :
    (mode.step character).1.flatMap Token.text ++ (mode.step character).2.pending =
      mode.pending ++ [character] := by
  -- A case either ends a token, so that only the character is left, or the
  -- character joins what has been read.
  cases mode with
  | code => exact text_opening character
  | blockComment depth last read =>
    simp only [step]
    split_ifs
    · rfl
    · cases depth <;> simp [pending, Token.text]
    · rfl
  | slash =>
    simp only [step]
    split_ifs with isSlash isStar
    · simp [pending, isSlash]
    · simp [pending, isStar]
    · exact text_ending rfl character
  | word read =>
    simp only [step]
    split_ifs with isWord isRaw
    · rfl
    · simp [pending, isRaw]
    · rfl
    · refine text_ending ?_ character
      exact String.toList_ofList
  | lineComment read =>
    simp only [step]
    split_ifs
    · refine text_ending ?_ character
      exact String.toList_ofList
    · rfl
  | lifetime read =>
    simp only [step]
    split_ifs
    · rfl
    · simp [pending, Token.text]
    · rfl
    · refine text_ending ?_ character
      exact String.toList_ofList
  | literal quote escaped read | behindQuote =>
    simp only [step]
    split_ifs <;> simp [pending, Token.text]
  | unknown read => rfl

/-- The tokens of a scan and what is left of an unfinished one are the text. -/
theorem text_run (mode : Mode) (text : List Char) :
    (mode.run text).1.flatMap Token.text ++ (mode.run text).2.pending = mode.pending ++ text := by
  induction text generalizing mode with
  | nil => simp
  | cons character rest restText =>
    rw [run_cons, List.flatMap_append, List.append_assoc, restText, ← List.append_assoc,
      text_step, List.append_assoc, List.singleton_append]

end Mode

def scan (text : String) : List Token × Mode :=
  Mode.code.run text.toList

theorem scan_append (first second : String) :
    scan (first ++ second) =
      ((scan first).1 ++ ((scan first).2.run second.toList).1,
        ((scan first).2.run second.toList).2) := by
  rw [scan, String.toList_append, Mode.run_append]
  rfl

/-- A text that is scanned to its end is what its tokens are written as. -/
theorem text_of_scan {text : String} {tokens : List Token} (scanned : scan text = (tokens, .code)) :
    tokens.flatMap Token.text = text.toList := by
  have lossless := Mode.text_run .code text.toList
  rw [scan] at scanned
  rw [scanned] at lossless
  simpa [Mode.pending] using lossless

/-! ## Brackets -/

def closer? : Char → Option Char
  | '(' => some ')'
  | '[' => some ']'
  | '\x7b' => some '\x7d'
  | _ => none

/-- One token, where `awaited` are the brackets that must still be closed, the
innermost first. -/
def nestStep (awaited : List Char) : Token → Option (List Char)
  | .mark character =>
    match closer? character with
    | some closer => some (closer :: awaited)
    | none =>
      if character ∈ [')', ']', '\x7d'] then
        match awaited with
        | [] => none
        | expected :: outer => if character = expected then some outer else none
      else some awaited
  | .word _ | .lineComment _ | .blockComment _ | .literal _ | .lifetime _ => some awaited

/-- The brackets that must still be closed behind the tokens; nothing if a
bracket is closed that is not open. -/
def nest (awaited : List Char) (tokens : List Token) : Option (List Char) :=
  tokens.foldlM nestStep awaited

/-- Brackets are closed in the order in which they must be, and all of them. -/
def Balanced (tokens : List Token) : Prop :=
  nest [] tokens = some []

instance (tokens : List Token) : Decidable (Balanced tokens) :=
  inferInstanceAs (Decidable (nest [] tokens = some []))

theorem nest_append (awaited : List Char) (first second : List Token) :
    nest awaited (first ++ second) = (nest awaited first).bind fun between =>
      nest between second :=
  List.foldlM_append

theorem nestStep_frame {awaited left : List Char} {token : Token}
    (nested : nestStep awaited token = some left) (outer : List Char) :
    nestStep (awaited ++ outer) token = some (left ++ outer) := by
  unfold nestStep at nested ⊢
  split at nested
  · split at nested <;> grind
  all_goals
    obtain rfl := Option.some.inj nested
    rfl

/-- What is open around a text has no part in it. -/
theorem nest_frame {awaited left : List Char} {tokens : List Token}
    (nested : nest awaited tokens = some left) (outer : List Char) :
    nest (awaited ++ outer) tokens = some (left ++ outer) := by
  induction tokens generalizing awaited with
  | nil =>
    obtain rfl : awaited = left := Option.some.inj nested
    rfl
  | cons token rest restFrame =>
    rw [nest, List.foldlM_cons] at nested ⊢
    obtain ⟨between, first, later⟩ := Option.bind_eq_some_iff.mp nested
    rw [nestStep_frame first outer]
    exact restFrame later

end BlockStates.Lexical
