import BlockStates.File.Error

/-!
# Paths

Paths with slashes.  What stands between slashes is a part; an empty part names
nothing, and a slash at the end asks for a directory.  Taking a path apart
loses nothing of its text, since its length in bytes is limited.
-/

set_option autoImplicit false

namespace BlockStates

structure Path where
  /-- Whether the path starts at the root. -/
  absolute : Bool
  /-- What stands between slashes, behind the slash that means the root. -/
  parts : List String
  deriving DecidableEq, Repr

namespace Path

def pieces : List Char → List (List Char)
  | [] => [[]]
  | character :: rest =>
    if character = '/' then [] :: pieces rest
    else
      match pieces rest with
      | [] => [[character]]
      | piece :: later => (character :: piece) :: later

def ofText (text : String) : Path :=
  match text.toList with
  | '/' :: rest => ⟨true, (pieces rest).map String.ofList⟩
  | characters => ⟨false, (pieces characters).map String.ofList⟩

def text (path : Path) : String :=
  (if path.absolute then "/" else "") ++ String.intercalate "/" path.parts

theorem pieces_ne_nil (characters : List Char) : pieces characters ≠ [] := by
  cases characters with
  | nil => simp [pieces]
  | cons character rest =>
    unfold pieces
    split
    · simp
    · split <;> simp

theorem intercalate_pieces (characters : List Char) :
    ['/'].intercalate (pieces characters) = characters := by
  induction characters with
  | nil => rfl
  | cons character rest joined =>
    unfold pieces
    split
    · next isSlash =>
      rw [List.intercalate_cons_of_ne_nil (pieces_ne_nil rest), joined, isSlash]
      rfl
    · split
      · next none => exact absurd none (pieces_ne_nil rest)
      · next piece later found =>
        rw [found] at joined
        cases later with
        | nil => simpa [List.intercalate] using joined
        | cons following others =>
          rw [List.intercalate_cons_of_ne_nil (by simp)] at joined ⊢
          simpa using joined

/-- Taking a path apart loses nothing of its text. -/
theorem text_ofText (text : String) : (ofText text).text = text := by
  rw [← String.toList_inj]
  unfold ofText
  split
  · next rest absolute =>
    simp [Path.text, String.toList_intercalate, Function.comp_def, intercalate_pieces, absolute]
  · simp [Path.text, String.toList_intercalate, Function.comp_def, intercalate_pieces]

def names (path : Path) : List String :=
  path.parts.filter fun part => !part.isEmpty

def asksDirectory (path : Path) : Bool :=
  path.text.toList.getLast? == some '/'

/-- Whether a part names nothing else than the directory it stands in. -/
def isIdle (part : String) : Bool :=
  part.isEmpty || part == "."

def dropIdle (parts : List String) : List String :=
  (parts.reverse.dropWhile isIdle).reverse

/-- The directory of what a path names, unless that is the directory where the
path starts. -/
def parent? (path : Path) : Option Path :=
  match dropIdle path.parts with
  | [] => none
  | parts =>
    match dropIdle parts.dropLast with
    | [] => if path.absolute then some ⟨true, []⟩ else none
    | above => some ⟨path.absolute, above⟩

def greatestSize : Nat := 4095

def greatestNameSize : Nat := 255

/-- Checks what every access asks of a path, whatever files there are. -/
def check (path : Path) : Except FileError Unit :=
  if '\x00' ∈ path.text.toList then .error .nulInPath
  else if greatestSize < path.text.utf8ByteSize then .error .nameTooLong
  else .ok ()

end Path

end BlockStates
