import BlockStates.Proofs.Json.NumberGrammar
import BlockStates.Proofs.Json.StringGrammar

/-!
# JSON values of any shape

The grammar of a whole JSON text.  A value is a tree; `Written` says that a phrase
of the grammar stands at the front of a text, and what is left behind it.  Nothing
here knows what a catalog is.
-/

set_option autoImplicit false

namespace BlockStates.Json

/-- A value with the characters of its numbers.  A string, also one that is a name,
may have no value; names may be repeated. -/
inductive Tree where
  | null
  | boolean (value : Bool)
  | number (characters : List Char)
  | text (content : Option String)
  | list (items : List Tree)
  | object (members : List (Option String × Tree))

inductive Phrase where
  | value (tree : Tree)
  /-- The items of a list, from behind its opening bracket. -/
  | items (items : List Tree)
  /-- The items of a list that follow an item. -/
  | laterItems (items : List Tree)
  /-- The members of an object, from behind its opening bracket. -/
  | members (members : List (Option String × Tree))
  /-- The members of an object that follow a member. -/
  | laterMembers (members : List (Option String × Tree))

/-- A phrase stands at the front of the first text and leaves the second one. -/
inductive Written : Phrase → List Char → List Char → Prop where
  | null {text rest : List Char} (word : skipBlanks text = 'n' :: 'u' :: 'l' :: 'l' :: rest) :
      Written (.value .null) text rest
  | true {text rest : List Char} (word : skipBlanks text = 't' :: 'r' :: 'u' :: 'e' :: rest) :
      Written (.value (.boolean true)) text rest
  | false {text rest : List Char}
      (word : skipBlanks text = 'f' :: 'a' :: 'l' :: 's' :: 'e' :: rest) :
      Written (.value (.boolean false)) text rest
  | number {text characters rest : List Char} (front : skipBlanks text = characters ++ rest)
      (isNumber : IsNumber characters) (ended : Ended rest) :
      Written (.value (.number characters)) text rest
  | text {text characters rest : List Char} {content : Option String}
      (front : skipBlanks text = '"' :: (characters ++ '"' :: rest))
      (spells : SpellsContent content characters) : Written (.value (.text content)) text rest
  | list {text inside rest : List Char} {items : List Tree}
      (opens : skipBlanks text = '[' :: inside) (inner : Written (.items items) inside rest) :
      Written (.value (.list items)) text rest
  | object {text inside rest : List Char} {members : List (Option String × Tree)}
      (opens : skipBlanks text = '\x7b' :: inside)
      (inner : Written (.members members) inside rest) :
      Written (.value (.object members)) text rest
  | noItem {text rest : List Char} (closes : skipBlanks text = ']' :: rest) :
      Written (.items []) text rest
  | firstItem {text behind rest : List Char} {item : Tree} {items : List Tree}
      (first : Written (.value item) text behind)
      (later : Written (.laterItems items) behind rest) : Written (.items (item :: items)) text rest
  | lastItem {text rest : List Char} (closes : skipBlanks text = ']' :: rest) :
      Written (.laterItems []) text rest
  | nextItem {text next rest : List Char} {item : Tree} {items : List Tree}
      (comma : skipBlanks text = ',' :: next) (inner : Written (.items (item :: items)) next rest) :
      Written (.laterItems (item :: items)) text rest
  | noMember {text rest : List Char} (closes : skipBlanks text = '\x7d' :: rest) :
      Written (.members []) text rest
  | firstMember {text characters afterName value behind rest : List Char} {name : Option String}
      {tree : Tree} {members : List (Option String × Tree)}
      (quote : skipBlanks text = '"' :: (characters ++ '"' :: afterName))
      (spells : SpellsContent name characters) (colon : skipBlanks afterName = ':' :: value)
      (first : Written (.value tree) value behind)
      (later : Written (.laterMembers members) behind rest) :
      Written (.members ((name, tree) :: members)) text rest
  | lastMember {text rest : List Char} (closes : skipBlanks text = '\x7d' :: rest) :
      Written (.laterMembers []) text rest
  | nextMember {text next rest : List Char} {member : Option String × Tree}
      {members : List (Option String × Tree)} (comma : skipBlanks text = ',' :: next)
      (inner : Written (.members (member :: members)) next rest) :
      Written (.laterMembers (member :: members)) text rest

def Tree.WrittenAs (tree : Tree) (text : String) : Prop :=
  ∃ rest, Written (.value tree) text.toList rest ∧ skipBlanks rest = []

/-! ## The front of a value -/

def Tree.Opens : Tree → Char → Prop
  | .null, first => first = 'n'
  | .boolean true, first => first = 't'
  | .boolean false, first => first = 'f'
  | .number _, first => first = '-' ∨ first.isDigit = true
  | .text _, first => first = '"'
  | .list _, first => first = '['
  | .object _, first => first = '\x7b'

theorem Written.opens {tree : Tree} {text rest : List Char}
    (written : Written (.value tree) text rest) :
    ∃ first later, skipBlanks text = first :: later ∧ tree.Opens first := by
  cases written with
  | null word | true word | false word => exact ⟨_, _, word, rfl⟩
  | number front isNumber =>
    obtain ⟨first, later, rfl, opens⟩ := isNumber.exists_first
    exact ⟨first, later ++ _, front, opens⟩
  | text front => exact ⟨_, _, front, rfl⟩
  | list opens | object opens => exact ⟨_, _, opens, rfl⟩

/-- No value starts with a character that closes or parts values. -/
theorem Tree.Opens.not_mark {tree : Tree} {first : Char} (opens : tree.Opens first) :
    first ≠ ']' ∧ first ≠ '\x7d' ∧ first ≠ ',' ∧ first ≠ ':' := by
  cases tree with
  | null | text | list | object =>
    obtain rfl : first = _ := opens
    decide
  | boolean value =>
    cases value <;>
    · obtain rfl : first = _ := opens
      decide
  | number =>
    have numeric : first = '-' ∨ first.isDigit = true := opens
    refine ⟨?_, ?_, ?_, ?_⟩ <;>
    · rintro rfl
      exact absurd numeric (by decide)

/-! ## What follows a value -/

/-- A character that ends or parts values, or the end of the text, prolongs no
number. -/
theorem ended_of_skipBlanks {text : List Char}
    (front : ∀ first ∈ (skipBlanks text).head?, isPlain first = false) : Ended text := by
  intro first isFirst
  cases text with
  | nil => cases isFirst
  | cons head tail =>
    obtain rfl := Option.some.inj isFirst
    by_cases blank : isBlank head = true
    · rw [← Bool.not_eq_true]
      intro plain
      rw [not_blank_of_isPlain plain] at blank
      cases blank
    · have noBlank : isBlank head = false := by simpa using blank
      rw [skipBlanks_of_not_blank noBlank] at front
      exact front head rfl

theorem ended_of_mark {text rest : List Char} {mark : Char}
    (marked : skipBlanks text = mark :: rest)
    (notPlain : isPlain mark = false) : Ended text := by
  apply ended_of_skipBlanks
  intro first isFirst
  rw [marked] at isFirst
  obtain rfl := Option.some.inj isFirst
  exact notPlain

theorem length_lt_of_front (characters : List Char) {text rest : List Char} {first : Char}
    (front : skipBlanks text = first :: (characters ++ rest)) : rest.length < text.length := by
  have taken := (length_of_skipBlanks front).2
  rw [List.length_append] at taken
  omega

/-- Every phrase takes at least one character. -/
theorem Written.length_lt {phrase : Phrase} {text rest : List Char}
    (written : Written phrase text rest) : rest.length < text.length := by
  induction written with
  | null word => exact length_lt_of_front ['u', 'l', 'l'] word
  | true word => exact length_lt_of_front ['r', 'u', 'e'] word
  | false word => exact length_lt_of_front ['a', 'l', 's', 'e'] word
  | number front isNumber =>
    obtain ⟨first, later, rfl, -⟩ := isNumber.exists_first
    exact length_lt_of_front _ front
  | @text _ characters rest _ front =>
    have spaced : characters ++ '"' :: rest = (characters ++ ['"']) ++ rest := by simp
    rw [spaced] at front
    exact length_lt_of_front _ front
  | list opens _ shorter | object opens _ shorter | nextItem opens _ shorter
  | nextMember opens _ shorter => exact Nat.lt_trans shorter (length_of_skipBlanks opens).2
  | noItem closes | lastItem closes | noMember closes | lastMember closes =>
    exact (length_of_skipBlanks closes).2
  | firstItem _ _ firstShorter laterShorter => exact Nat.lt_trans laterShorter firstShorter
  | @firstMember _ characters afterName _ _ _ _ _ _ quote _ colon _ _ firstShorter laterShorter =>
    have spaced : characters ++ '"' :: afterName = (characters ++ ['"']) ++ afterName := by simp
    rw [spaced] at quote
    have nameShorter := length_lt_of_front _ quote
    have colonShorter := (length_of_skipBlanks colon).2
    omega

/-- A member whose name is written as it is, without blanks. -/
theorem written_rawMember (name : String) (raw : name.toList.all isRaw = true) {tree : Tree}
    {members : List (Option String × Tree)} {value behind rest : List Char}
    (first : Written (.value tree) value behind)
    (later : Written (.laterMembers members) behind rest) :
    Written (.members ((some name, tree) :: members)) ('"' :: (name.toList ++ '"' :: ':' :: value))
      rest :=
  .firstMember rfl (.value (spellsText_of_isRaw raw)) rfl first later

end BlockStates.Json
