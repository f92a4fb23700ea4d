import BlockStates.File.Path
import Mathlib.Data.List.DropRight

/-!
# The directory of a path

The directory above what a path names is named by all names of the path but the
last, also when it is written as a text and taken apart again.
-/

set_option autoImplicit false

namespace BlockStates.Path

/-! ## Pieces between slashes -/

theorem slash_not_mem_of_mem_pieces (characters : List Char) :
    ∀ piece ∈ pieces characters, '/' ∉ piece := by
  induction characters with
  | nil => simp [pieces]
  | cons character rest noSlash =>
    unfold pieces
    split
    · simpa using noSlash
    · next notSlash =>
      cases found : pieces rest with
      | nil => exact absurd found (pieces_ne_nil rest)
      | cons piece later =>
        simp only [found, List.forall_mem_cons] at noSlash ⊢
        exact ⟨by simp [Ne.symm notSlash, noSlash.1], noSlash.2⟩

theorem pieces_of_no_slash {piece : List Char} (noSlash : '/' ∉ piece) :
    pieces piece = [piece] := by
  induction piece with
  | nil => rfl
  | cons character rest restPieces =>
    simp only [List.mem_cons, not_or] at noSlash
    simp [pieces, Ne.symm noSlash.1, restPieces noSlash.2]

theorem pieces_append_slash {piece : List Char} (noSlash : '/' ∉ piece) (rest : List Char) :
    pieces (piece ++ '/' :: rest) = piece :: pieces rest := by
  induction piece with
  | nil => simp [pieces]
  | cons character later laterPieces =>
    simp only [List.mem_cons, not_or] at noSlash
    simp [pieces, Ne.symm noSlash.1, laterPieces noSlash.2]

theorem pieces_intercalate {parts : List (List Char)} (nonempty : parts ≠ [])
    (noSlash : ∀ part ∈ parts, '/' ∉ part) : pieces (['/'].intercalate parts) = parts := by
  induction parts with
  | nil => exact absurd rfl nonempty
  | cons part rest restPieces =>
    obtain ⟨partFree, restFree⟩ := List.forall_mem_cons.mp noSlash
    cases rest with
    | nil => simpa [List.intercalate] using pieces_of_no_slash partFree
    | cons next later =>
      rw [List.intercalate_cons_of_ne_nil (by simp), List.append_assoc, List.singleton_append,
        pieces_append_slash partFree, restPieces (by simp) restFree]

theorem exists_head_of_pieces {character : Char} (notSlash : character ≠ '/')
    (rest : List Char) :
    ∃ piece later, pieces (character :: rest) = (character :: piece) :: later := by
  cases found : pieces rest with
  | nil => exact absurd found (pieces_ne_nil rest)
  | cons piece later => exact ⟨piece, later, by simp [pieces, notSlash, found]⟩

/-! ## Paths taken apart -/

theorem ofText_absolute {text : String} {rest : List Char} (starts : text.toList = '/' :: rest) :
    ofText text = ⟨true, (pieces rest).map String.ofList⟩ := by
  simp [ofText, starts]

theorem ofText_relative {text : String} (starts : text.toList.head? ≠ some '/') :
    ofText text = ⟨false, (pieces text.toList).map String.ofList⟩ := by
  unfold ofText
  split
  · next rest isRest => simp [isRest] at starts
  · rfl

theorem slash_not_mem_of_ofText (text : String) :
    ∀ part ∈ (ofText text).parts, '/' ∉ part.toList := by
  unfold ofText
  split <;> simpa using slash_not_mem_of_mem_pieces _

/-- Only the empty path is relative and starts with an empty part. -/
theorem parts_of_empty_head {text : String} (relative : (ofText text).absolute = false)
    (emptyHead : (ofText text).parts.head? = some "") : (ofText text).parts = [""] := by
  cases characters : text.toList with
  | nil => simp [ofText, characters, pieces]
  | cons character rest =>
    by_cases isSlash : character = '/'
    · subst isSlash
      simp [ofText_absolute characters] at relative
    · obtain ⟨piece, later, split⟩ := exists_head_of_pieces isSlash rest
      have starts : text.toList.head? ≠ some '/' := by simpa [characters] using isSlash
      rw [ofText_relative starts, characters, split] at emptyHead
      simp at emptyHead

/-- A path is what its text is taken apart into, if the text shows where the path
starts. -/
theorem ofText_text {path : Path} (nonempty : path.parts ≠ [])
    (noSlash : ∀ part ∈ path.parts, '/' ∉ part.toList)
    (headed : path.absolute = false → path.parts.head? ≠ some "") :
    ofText path.text = path := by
  obtain ⟨absolute, parts⟩ := path
  have joined : (String.intercalate "/" parts).toList =
      ['/'].intercalate (parts.map String.toList) := by
    simp [String.toList_intercalate]
  have parted : (pieces (String.intercalate "/" parts).toList).map String.ofList = parts := by
    rw [joined, pieces_intercalate (by simpa using nonempty) (by simpa using noSlash)]
    simp [Function.comp_def]
  cases absolute with
  | true =>
    have starts : (Path.text ⟨true, parts⟩).toList =
        '/' :: (String.intercalate "/" parts).toList := by
      simp [Path.text]
    rw [ofText_absolute starts, parted]
  | false =>
    have whole : Path.text ⟨false, parts⟩ = String.intercalate "/" parts := by
      simp [Path.text]
    have starts : (String.intercalate "/" parts).toList.head? ≠ some '/' := by
      intro slash
      obtain ⟨rest, isRest⟩ : ∃ rest, (String.intercalate "/" parts).toList = '/' :: rest := by
        simpa [List.head?_eq_some_iff] using slash
      refine headed rfl ?_
      rw [← parted, isRest]
      simp [pieces]
    rw [whole, ofText_relative starts, parted]

/-! ## The directory above -/

def namesOf (parts : List String) : List String :=
  parts.filter fun part => !part.isEmpty

theorem dropIdle_eq_rdropWhile (parts : List String) :
    dropIdle parts = parts.rdropWhile isIdle := rfl

theorem dropIdle_isPrefix (parts : List String) : dropIdle parts <+: parts := by
  rw [dropIdle_eq_rdropWhile]
  exact List.rdropWhile_prefix isIdle parts

theorem namesOf_dropIdle {parts : List String} (noDot : "." ∉ parts) :
    namesOf (dropIdle parts) = namesOf parts := by
  induction parts using List.reverseRecOn with
  | nil => rfl
  | append_singleton parts last restNames =>
    simp only [List.mem_append, List.mem_singleton, not_or] at noDot
    rw [dropIdle_eq_rdropWhile, List.rdropWhile_concat, ← dropIdle_eq_rdropWhile]
    by_cases empty : last = ""
    · subst last
      rw [if_pos (by decide), restNames noDot.1]
      simp [namesOf]
    · rw [if_neg (by simp [isIdle, empty, Ne.symm noDot.2])]

theorem namesOf_dropLast {parts : List String} (nonempty : parts ≠ [])
    (named : parts.getLast nonempty ≠ "") :
    namesOf parts ≠ [] ∧ namesOf parts.dropLast = (namesOf parts).dropLast := by
  have whole : namesOf parts = namesOf parts.dropLast ++ [parts.getLast nonempty] := by
    conv_lhs => rw [← List.dropLast_append_getLast nonempty]
    simp [namesOf, named]
  exact ⟨by simp [whole], by simp [whole]⟩

theorem getLast_dropIdle_ne {parts : List String} (nonempty : dropIdle parts ≠ []) :
    (dropIdle parts).getLast nonempty ≠ "" := by
  have busy : ¬ isIdle ((dropIdle parts).getLast nonempty) :=
    List.rdropWhile_last_not isIdle parts nonempty
  intro empty
  simp [isIdle, empty] at busy

theorem parent?_eq_some {path directory : Path} (found : path.parent? = some directory) :
    dropIdle path.parts ≠ [] ∧
      directory = ⟨path.absolute, dropIdle (dropIdle path.parts).dropLast⟩ ∧
      (directory.parts = [] → path.absolute = true) := by
  unfold parent? at found
  split at found
  · cases found
  · next nonempty =>
    refine ⟨nonempty, ?_⟩
    split at found
    · next none =>
      split at found
      · next absolute =>
        obtain rfl := Option.some.inj found
        exact ⟨by rw [absolute, none], fun _ => absolute⟩
      · cases found
    · next some =>
      obtain rfl := Option.some.inj found
      exact ⟨rfl, fun none => absurd none some⟩

theorem parts_parent_isPrefix {path directory : Path} (found : path.parent? = some directory) :
    directory.parts <+: path.parts := by
  obtain ⟨-, rfl, -⟩ := parent?_eq_some found
  exact (dropIdle_isPrefix _).trans ((List.dropLast_prefix _).trans (dropIdle_isPrefix _))

theorem absolute_parent {path directory : Path} (found : path.parent? = some directory) :
    directory.absolute = path.absolute := by
  obtain ⟨-, rfl, -⟩ := parent?_eq_some found
  rfl

/-- The directory above a path has all its names but the last. -/
theorem names_parent {path directory : Path} (noDot : "." ∉ path.names)
    (found : path.parent? = some directory) :
    path.names ≠ [] ∧ directory.names = path.names.dropLast := by
  obtain ⟨nonempty, rfl, -⟩ := parent?_eq_some found
  have noDotPart : "." ∉ path.parts := fun isPart => noDot (by simp [names, isPart])
  have noDotAbove : "." ∉ (dropIdle path.parts).dropLast := fun isPart =>
    noDotPart ((dropIdle_isPrefix _).subset ((List.dropLast_prefix _).subset isPart))
  have names : path.names = namesOf (dropIdle path.parts) := (namesOf_dropIdle noDotPart).symm
  obtain ⟨someName, lastNames⟩ := namesOf_dropLast nonempty (getLast_dropIdle_ne nonempty)
  rw [names]
  exact ⟨someName, (namesOf_dropIdle noDotAbove).trans lastNames⟩

/-- The directory above a path, written and taken apart again, has the same names
and starts at the same place. -/
theorem ofText_text_parent {text : String} {directory : Path}
    (found : (ofText text).parent? = some directory) :
    (ofText directory.text).names = directory.names ∧
      (ofText directory.text).absolute = directory.absolute := by
  obtain ⟨nonempty, isDirectory, rooted⟩ := parent?_eq_some found
  have isPrefix := parts_parent_isPrefix found
  by_cases none : directory.parts = []
  · have isRoot : directory = ⟨true, []⟩ := by
      rw [isDirectory, rooted none, ← none, isDirectory]
    subst isRoot
    exact ⟨rfl, rfl⟩
  · have same : ofText directory.text = directory := by
      refine ofText_text none ?_ ?_
      · exact fun part isPart => slash_not_mem_of_ofText text part (isPrefix.subset isPart)
      · intro relative emptyHead
        rw [absolute_parent found] at relative
        have head : (ofText text).parts.head? = some "" := by
          obtain ⟨later, whole⟩ := isPrefix
          rw [← whole, List.head?_append, emptyHead]
          rfl
        -- The empty path has no directory above it.
        rw [parts_of_empty_head relative head] at nonempty
        exact nonempty rfl
    rw [same]
    exact ⟨rfl, rfl⟩

theorem names_ofText_parent {text : String} {directory : Path} (noDot : "." ∉ (ofText text).names)
    (found : (ofText text).parent? = some directory) :
    (ofText text).names ≠ [] ∧
      (ofText directory.text).names = (ofText text).names.dropLast := by
  rw [(ofText_text_parent found).1]
  exact names_parent noDot found

theorem absolute_ofText_parent {text : String} {directory : Path}
    (found : (ofText text).parent? = some directory) :
    (ofText directory.text).absolute = (ofText text).absolute :=
  (ofText_text_parent found).2.trans (absolute_parent found)

end BlockStates.Path
