import Mathlib.Data.List.TakeWhile
import BlockStates.SourceUnit
import BlockStates.Proofs.Lexical.Scan

/-!
# The depth of comments

Inside a block comment a text can only open more comments once its closers are
parted.  How many it opens is counted here: neither parting the closers, nor
trimming, nor the division into lines changes the number, so that a comment
around a header is behind its lines as deep as the header has openers.
-/

set_option autoImplicit false

namespace BlockStates.Lexical

open SourceUnit (breakClosers licenseLine)

def openers : List Char → Nat
  | [] => 0
  | character :: rest => openers rest + if character = '/' ∧ rest.head? = some '*' then 1 else 0

def ClosesNone (text : List Char) : Prop :=
  ¬ ['*', '/'] <:+: text

theorem openers_cons_of_ne {character : Char} (notSlash : character ≠ '/') (rest : List Char) :
    openers (character :: rest) = openers rest := by
  simp [openers, notSlash]

theorem openers_eq_zero_iff (text : List Char) : openers text = 0 ↔ ¬ ['/', '*'] <:+: text := by
  induction text with
  | nil => simp [openers]
  | cons character rest restNone =>
    cases rest with
    | nil => simp [openers, List.infix_cons_iff]
    | cons next later =>
      rw [List.infix_cons_iff, not_or, ← restNone, openers]
      simp only [List.cons_prefix_cons, List.nil_prefix, List.head?_cons, Option.some.injEq]
      grind

/-! ## Comments that are not closed -/

theorem ClosesNone.tail {character : Char} {text : List Char}
    (closesNone : ClosesNone (character :: text)) : ClosesNone text :=
  fun closer => closesNone (closer.trans (List.suffix_cons character text).isInfix)

/-- A text that closes no comment leaves its own openers open, and no token ends. -/
theorem run_blockComment {last : Option Char} {text : List Char}
    (closesNone : ClosesNone (last.toList ++ text)) (depth : Nat) (read : List Char) :
    ∃ newLast, (Mode.blockComment depth last read).run text =
      ([], .blockComment (depth + openers (last.toList ++ text)) newLast (read ++ text)) := by
  induction text generalizing depth last read with
  | nil =>
    have noOpener : openers (last.toList ++ []) = 0 := by cases last <;> simp [openers]
    exact ⟨last, by rw [noOpener, List.append_nil]; rfl⟩
  | cons character rest restRun =>
    have notClosed : ¬ (last = some '*' ∧ character = '/') := by
      rintro ⟨rfl, rfl⟩
      exact closesNone ⟨[], rest, rfl⟩
    have restCloses : ClosesNone (character :: rest) := by
      cases last with
      | none => exact closesNone
      | some before => exact closesNone.tail
    rw [Mode.run_cons]
    by_cases opened : last = some '/' ∧ character = '*'
    · -- Behind an opener the scan starts afresh.
      obtain ⟨rfl, rfl⟩ := opened
      have behindOpener : ClosesNone ((none : Option Char).toList ++ rest) := restCloses.tail
      obtain ⟨newLast, isRun⟩ := restRun behindOpener (depth + 1) (read ++ ['*'])
      have counted : openers ('/' :: '*' :: rest) = 1 + openers rest := by
        simp [openers, Nat.add_comm]
      refine ⟨newLast, ?_⟩
      simp only [Mode.step, and_self, if_true, isRun]
      simp [counted, Nat.add_assoc]
    · have behindOther : ClosesNone ((some character).toList ++ rest) := restCloses
      obtain ⟨newLast, isRun⟩ := restRun behindOther depth (read ++ [character])
      have counted : openers (last.toList ++ character :: rest) = openers (character :: rest) := by
        cases last with
        | none => rfl
        | some before =>
          have noOpener : ¬ (before = '/' ∧ character = '*') := by simpa using opened
          simp [openers, noOpener]
      refine ⟨newLast, ?_⟩
      simp only [Mode.step, if_neg opened, if_neg notClosed, isRun]
      simp [counted]

/-! ## Parted closers -/

theorem head?_breakClosers (text : List Char) : (breakClosers text).head? = text.head? := by
  fun_cases breakClosers text <;> rfl

theorem closesNone_breakClosers (text : List Char) : ClosesNone (breakClosers text) := by
  fun_induction breakClosers text with
  | case1 rest restNone =>
    simp only [ClosesNone, List.infix_cons_iff, List.cons_prefix_cons] at restNone ⊢
    simp [restNone]
  | case2 character rest noCloser restNone =>
    intro closer
    rcases List.infix_cons_iff.mp closer with atFront | inRest
    · obtain ⟨rfl, isSlash⟩ := List.cons_prefix_cons.mp atFront
      have isHead : (breakClosers rest).head? = some '/' := by
        obtain ⟨behind, isRest⟩ := isSlash
        rw [← isRest]
        rfl
      rw [head?_breakClosers] at isHead
      obtain ⟨later, rfl⟩ := List.head?_eq_some_iff.mp isHead
      exact noCloser later rfl rfl
    · exact restNone inRest
  | case3 => simp [ClosesNone]

theorem openers_breakClosers (text : List Char) : openers (breakClosers text) = openers text := by
  fun_induction breakClosers text with
  | case1 rest restSame => simp [openers, restSame, head?_breakClosers]
  | case2 character rest _ restSame => rw [openers, openers, restSame, head?_breakClosers]
  | case3 => rfl

/-! ## Lines of the banner -/

/-- From the start of a line to the start of the next. -/
theorem run_licenseLine (line : List Char) (depth : Nat) (read : List Char) :
    (Mode.blockComment depth (some '\n') read).run (licenseLine line) =
      ([], .blockComment (depth + openers line) (some '\n') (read ++ licenseLine line)) := by
  rw [← openers_breakClosers, licenseLine]
  have closesNone := closesNone_breakClosers line
  cases parted : breakClosers line with
  | nil => rfl
  | cons first rest =>
    rw [parted] at closesNone
    have indented : ClosesNone ('\n' :: ' ' :: ' ' :: first :: rest) := by
      simp only [ClosesNone, List.infix_cons_iff, List.cons_prefix_cons] at closesNone ⊢
      simpa using closesNone
    have counted : openers ('\n' :: ' ' :: ' ' :: first :: rest) = openers (first :: rest) := by
      simp [openers]
    have afterFeed : ClosesNone ((some '\n').toList ++ ' ' :: ' ' :: first :: rest) := indented
    obtain ⟨newLast, isRun⟩ := run_blockComment afterFeed depth read
    simp only [Mode.run_append, isRun]
    simp [counted, Mode.run_cons, Mode.step]

def openersOfLines (lines : List (List Char)) : Nat :=
  lines.foldr (fun line count => openers line + count) 0

theorem run_licenseLines (lines : List (List Char)) (depth : Nat) (read : List Char) :
    (Mode.blockComment depth (some '\n') read).run (lines.flatMap licenseLine) =
      ([], .blockComment (depth + openersOfLines lines) (some '\n')
        (read ++ lines.flatMap licenseLine)) := by
  induction lines generalizing depth read with
  | nil => simp [openersOfLines]
  | cons line rest restRun =>
    rw [List.flatMap_cons, Mode.run_append, run_licenseLine, restRun]
    simp [openersOfLines, Nat.add_assoc]

/-! ## Lines and blanks of a header -/

theorem head?_lines (text : List Char) :
    (Text.lines text).head?.bind List.head? = some '*' ↔ text.head? = some '*' := by
  fun_cases Text.lines text <;> simp_all

theorem openers_lines (text : List Char) : openersOfLines (Text.lines text) = openers text := by
  fun_induction Text.lines text with
  | case1 => rfl
  | case2 rest restSame => simpa [openersOfLines, openers] using restSame
  | case3 rest restSame => simpa [openersOfLines, openers] using restSame
  | case4 character rest _ _ noLines restSame =>
    have sameHead := head?_lines rest
    rw [noLines] at restSame sameHead
    simp_all [openersOfLines, openers]
  | case5 character rest _ _ first later isRest restSame =>
    have sameHead := head?_lines rest
    rw [isRest] at restSame sameHead
    simp only [List.head?_cons, Option.bind_some] at sameHead
    simp only [openersOfLines, List.foldr_cons] at restSame ⊢
    simp only [openers, sameHead]
    omega

theorem openers_trimStart (text : List Char) : openers (Text.trimStart text) = openers text := by
  induction text with
  | nil => rfl
  | cons character rest restSame =>
    rw [Text.trimStart, List.dropWhile_cons]
    split
    case isTrue blank =>
      have notSlash : character ≠ '/' := by
        rintro rfl
        exact absurd blank (by decide)
      rw [openers_cons_of_ne notSlash]
      exact restSame
    case isFalse => rfl

theorem openers_concat_of_ne {character : Char} (notStar : character ≠ '*') (text : List Char) :
    openers (text ++ [character]) = openers text := by
  induction text with
  | nil => simp [openers]
  | cons first rest restSame =>
    rw [List.cons_append, openers, openers, restSame]
    cases rest <;> simp [notStar]

theorem openers_trimEnd (reversed : List Char) :
    openers (Text.trimStart reversed).reverse = openers reversed.reverse := by
  induction reversed with
  | nil => rfl
  | cons character rest restSame =>
    rw [Text.trimStart, List.dropWhile_cons]
    split
    case isTrue blank =>
      have notStar : character ≠ '*' := by
        rintro rfl
        exact absurd blank (by decide)
      rw [List.reverse_cons, openers_concat_of_ne notStar]
      exact restSame
    case isFalse => rfl

theorem openers_trim (text : List Char) : openers (Text.trim text) = openers text := by
  rw [Text.trim, openers_trimEnd, List.reverse_reverse, openers_trimStart]

theorem trim_eq_nil_iff (text : List Char) :
    Text.trim text = [] ↔ ∀ character ∈ text, Text.isWhiteSpace character := by
  rw [Text.trim, List.reverse_eq_nil_iff, Text.trimStart, List.dropWhile_eq_nil_iff]
  refine ⟨fun isBlank character isCharacter => ?_, fun isBlank character isCharacter => ?_⟩
  · rw [← List.takeWhile_append_dropWhile (p := Text.isWhiteSpace) (l := text)] at isCharacter
    rcases List.mem_append.mp isCharacter with inFront | behind
    · exact List.mem_takeWhile_imp inFront
    · exact isBlank character (List.mem_reverse.mpr behind)
  · exact isBlank character ((List.dropWhile_suffix _).subset (List.mem_reverse.mp isCharacter))

end BlockStates.Lexical
