import BlockStates.File.Tree
import BlockStates.Proofs.CheckRuns
import BlockStates.Proofs.OrderedMap
import BlockStates.Proofs.Paths

/-!
# Directory trees

In a directory tree everything stands in a directory.  Creating directories and
writing files keeps it so.  The directories above a place are created all or
not at all, unless a name on the way is too long.
-/

set_option autoImplicit false

namespace BlockStates.FileTree

/-! ## What stands at a place -/

@[simp] theorem entry?_root (tree : FileTree) : tree.entry? [] = some .directory := rfl

theorem isDirectoryAt_iff (tree : FileTree) (location : Location) :
    tree.isDirectoryAt location = true ↔ tree.entry? location = some .directory := by
  simp [isDirectoryAt]

theorem entry?_put_child (tree : FileTree) (directory : Location) (name : String)
    (entry : TreeEntry) (wanted : Location) :
    entry? (tree.put (directory ++ [name]) entry) wanted =
      if directory ++ [name] = wanted then some entry else tree.entry? wanted := by
  cases wanted with
  | nil => simp
  | cons first rest => simp [FileTree.entry?, put]

theorem entry?_put_self (tree : FileTree) (directory : Location) (name : String)
    (entry : TreeEntry) :
    entry? (tree.put (directory ++ [name]) entry) (directory ++ [name]) = some entry := by
  simp [entry?_put_child]

theorem entry?_put_of_ne {tree : FileTree} {directory wanted : Location} {name : String}
    (apart : directory ++ [name] ≠ wanted) (entry : TreeEntry) :
    entry? (tree.put (directory ++ [name]) entry) wanted = tree.entry? wanted := by
  simp [entry?_put_child, apart]

/-- Everything stands in a directory, and work is done in one. -/
structure WellFormed (tree : FileTree) : Prop where
  enclosed : ∀ directory name, tree.entry? (directory ++ [name]) ≠ none →
    tree.entry? directory = some .directory
  working : tree.entry? tree.workingDirectory = some .directory

theorem wellFormed_iff (tree : FileTree) :
    tree.WellFormed ↔
      (∀ location ∈ tree.entries.keys, tree.entry? location.dropLast = some .directory) ∧
        tree.entry? tree.workingDirectory = some .directory := by
  constructor
  · rintro ⟨enclosed, working⟩
    refine ⟨?_, working⟩
    intro location isKey
    cases location using List.reverseRecOn with
    | nil => rfl
    | append_singleton directory name =>
      obtain ⟨entry, found⟩ := (OrderedMap.mem_keys_iff _ _).mp isKey
      rw [List.dropLast_concat]
      exact enclosed directory name (by simp [FileTree.entry?, found])
  · rintro ⟨keys, working⟩
    refine ⟨?_, working⟩
    intro directory name stands
    have isKey : directory ++ [name] ∈ tree.entries.keys := by
      rw [OrderedMap.mem_keys_iff, ← Option.ne_none_iff_exists']
      simpa [FileTree.entry?] using stands
    simpa using keys _ isKey

instance (tree : FileTree) : Decidable tree.WellFormed :=
  decidable_of_iff _ (wellFormed_iff tree).symm

namespace WellFormed

variable {tree : FileTree}

theorem directory_above (wellFormed : tree.WellFormed) {location : Location} {name : String}
    (below : Location) (stands : tree.entry? (location ++ name :: below) ≠ none) :
    tree.entry? location = some .directory := by
  induction below using List.reverseRecOn with
  | nil => exact wellFormed.enclosed location name stands
  | append_singleton below last restAbove =>
    have whole : location ++ name :: (below ++ [last]) = (location ++ name :: below) ++ [last] := by
      simp
    rw [whole] at stands
    exact restAbove (by simp [wellFormed.enclosed _ _ stands])

theorem directory_of_isPrefix (wellFormed : tree.WellFormed) {location lower : Location}
    (isPrefix : location <+: lower) (isDirectory : tree.entry? lower = some .directory) :
    tree.entry? location = some .directory := by
  obtain ⟨below, rfl⟩ := isPrefix
  cases below with
  | nil => simpa using isDirectory
  | cons name below =>
    have stands : tree.entry? (location ++ name :: below) ≠ none := by simp [isDirectory]
    exact wellFormed.directory_above below stands

/-- A new entry in a directory, not in place of a directory, leaves a directory
tree. -/
theorem put (wellFormed : tree.WellFormed) {directory : Location} {name : String}
    (isDirectory : tree.entry? directory = some .directory)
    (noDirectory : tree.entry? (directory ++ [name]) ≠ some .directory) (entry : TreeEntry) :
    (tree.put (directory ++ [name]) entry).WellFormed := by
  have kept : ∀ location, tree.entry? location = some .directory →
      entry? (tree.put (directory ++ [name]) entry) location = some .directory := by
    intro location found
    rw [entry?_put_of_ne (fun same => noDirectory (same ▸ found)), found]
  refine ⟨?_, kept _ wellFormed.working⟩
  intro outer inner stands
  rw [entry?_put_child] at stands
  by_cases same : directory ++ [name] = outer ++ [inner]
  · obtain ⟨rfl, -⟩ := List.append_inj' same rfl
    exact kept _ isDirectory
  · rw [if_neg same] at stands
    exact kept _ (wellFormed.enclosed outer inner stands)

end WellFormed

structure IsEmptyDirectory (tree : FileTree) (location : Location) : Prop where
  directory : tree.entry? location = some .directory
  empty : ∀ name below, tree.entry? (location ++ name :: below) = none

theorem IsEmptyDirectory.put {tree : FileTree} {location : Location} (name : String)
    (nothing : ∀ below, tree.entry? (location ++ name :: below) = none) :
    (tree.put (location ++ [name]) .directory).IsEmptyDirectory (location ++ [name]) where
  directory := entry?_put_self tree location name .directory
  empty := by
    intro next below
    rw [entry?_put_of_ne (by simp)]
    simpa using nothing (next :: below)

theorem WellFormed.emptyDirectory_put {tree : FileTree} (wellFormed : tree.WellFormed)
    {location : Location} {name : String} (missing : tree.entry? (location ++ [name]) = none) :
    (tree.put (location ++ [name]) .directory).IsEmptyDirectory (location ++ [name]) := by
  refine .put name ?_
  intro below
  cases below with
  | nil => exact missing
  | cons next below =>
    by_contra stands
    have whole : location ++ name :: next :: below = (location ++ [name]) ++ next :: below := by
      simp
    rw [whole] at stands
    simp [wellFormed.directory_above below stands] at missing

/-! ## Following names -/

def Short (names : List String) : Prop :=
  ∀ name ∈ names, name.utf8ByteSize ≤ Path.greatestNameSize

def Proper (names : List String) : Prop :=
  ∀ name ∈ names, isDots name = false

instance (names : List String) : Decidable (Proper names) :=
  inferInstanceAs (Decidable (∀ name ∈ names, isDots name = false))

theorem Short.dropLast {names : List String} (short : Short names) : Short names.dropLast :=
  fun name isName => short name ((List.dropLast_prefix _).subset isName)

theorem Proper.dropLast {names : List String} (proper : Proper names) : Proper names.dropLast :=
  fun name isName => proper name ((List.dropLast_prefix _).subset isName)

theorem lookUp_eq_ok_iff (tree : FileTree) (directory : Location) (name : String)
    (found : Option TreeEntry) :
    tree.lookUp directory name = .ok found ↔
      name.utf8ByteSize ≤ Path.greatestNameSize ∧ tree.entry? (directory ++ [name]) = found := by
  unfold lookUp
  split <;> simp <;> omega

theorem step_eq_ok_iff {name : String} (tree : FileTree) (location next : Location)
    (proper : isDots name = false) :
    tree.step location name = .ok next ↔
      tree.entry? location = some .directory ∧ name.utf8ByteSize ≤ Path.greatestNameSize ∧
        tree.entry? (location ++ [name]) ≠ none ∧ next = location ++ [name] := by
  obtain ⟨notDot, notDots⟩ : name ≠ "." ∧ name ≠ ".." := by simpa [isDots] using proper
  unfold step lookUp
  cases tree.entry? location with
  | none => simp
  | some entry =>
    cases entry with
    | file content => simp
    | directory =>
      by_cases short : name.utf8ByteSize ≤ Path.greatestNameSize
      · have notLong : ¬ Path.greatestNameSize < name.utf8ByteSize := Nat.not_lt.mpr short
        cases tree.entry? (location ++ [name]) with
        | none => simp [notDot, notDots, notLong]
        | some entry => simp [notDot, notDots, notLong, short, eq_comm]
      · simp [notDot, notDots, short, Nat.not_le.mp short]

theorem follow_cons (tree : FileTree) (location : Location) (name : String)
    (rest : List String) :
    tree.follow location (name :: rest) =
      tree.step location name >>= fun next => tree.follow next rest :=
  List.foldlM_cons

theorem eq_append_of_follow {tree : FileTree} {location found : Location} {names : List String}
    (proper : Proper names) (followed : tree.follow location names = .ok found) :
    found = location ++ names := by
  induction names generalizing location with
  | nil =>
    obtain rfl : location = found := (pure_eq_ok_iff _ _).mp followed
    simp
  | cons name rest restFound =>
    obtain ⟨isProper, restProper⟩ := List.forall_mem_cons.mp proper
    rw [follow_cons, bind_eq_ok_iff] at followed
    obtain ⟨next, stepped, later⟩ := followed
    obtain ⟨-, -, -, rfl⟩ := (step_eq_ok_iff tree location next isProper).mp stepped
    rw [restFound restProper later, List.append_assoc, List.singleton_append]

theorem WellFormed.follow_of_directory {tree : FileTree} (wellFormed : tree.WellFormed)
    {location : Location} {names : List String} (proper : Proper names) (short : Short names)
    (isDirectory : tree.entry? (location ++ names) = some .directory) :
    tree.follow location names = .ok (location ++ names) := by
  induction names generalizing location with
  | nil =>
    rw [List.append_nil]
    rfl
  | cons name rest restFollowed =>
    obtain ⟨isProper, restProper⟩ := List.forall_mem_cons.mp proper
    obtain ⟨isShort, restShort⟩ := List.forall_mem_cons.mp short
    have whole : location ++ name :: rest = (location ++ [name]) ++ rest := by simp
    have above : tree.entry? location = some .directory :=
      wellFormed.directory_of_isPrefix (List.prefix_append _ _) isDirectory
    rw [whole] at isDirectory ⊢
    have next : tree.entry? (location ++ [name]) = some .directory :=
      wellFormed.directory_of_isPrefix (List.prefix_append _ _) isDirectory
    have stepped : tree.step location name = .ok (location ++ [name]) :=
      (step_eq_ok_iff tree location _ isProper).mpr ⟨above, isShort, by simp [next], rfl⟩
    rw [follow_cons, stepped]
    exact restFollowed restProper restShort isDirectory

theorem directoryOf_eq_ok_iff (tree : FileTree) (path : Path) (directory : Location) :
    tree.directoryOf path = .ok directory ↔
      tree.follow (tree.start path) path.names.dropLast = .ok directory ∧
        tree.entry? directory = some .directory := by
  unfold directoryOf
  rw [bind_eq_ok_iff]
  constructor
  · rintro ⟨location, followed, checked⟩
    split at checked
    · next isDirectory =>
      obtain rfl := (pure_eq_ok_iff _ _).mp checked
      exact ⟨followed, (isDirectoryAt_iff tree location).mp isDirectory⟩
    · cases checked
  · rintro ⟨followed, isDirectory⟩
    refine ⟨directory, followed, ?_⟩
    rw [if_pos ((isDirectoryAt_iff tree directory).mpr isDirectory)]
    rfl

/-! ## Single accesses -/

theorem makeDirectory_eq_ok {tree after : FileTree} {path : Path}
    (made : tree.makeDirectory path = .ok after) :
    ∃ directory name, tree.directoryOf path = .ok directory ∧
      path.names.getLast? = some name ∧ tree.entry? (directory ++ [name]) = none ∧
      after = tree.put (directory ++ [name]) .directory := by
  unfold makeDirectory at made
  simp only [bind_eq_ok_iff] at made
  obtain ⟨_, -, directory, found, made⟩ := made
  split at made
  · cases made
  · next name last =>
    split at made
    · cases made
    · simp only [bind_eq_ok_iff, lookUp_eq_ok_iff] at made
      obtain ⟨entry, ⟨-, rfl⟩, made⟩ := made
      split at made
      · cases made
      · next missing =>
        obtain rfl := (pure_eq_ok_iff _ _).mp made
        exact ⟨directory, name, found, last, missing, rfl⟩

structure RoomFor (tree : FileTree) (path : Path) (directory : Location) (name : String) :
    Prop where
  checked : path.check = .ok ()
  found : tree.directoryOf path = .ok directory
  last : path.names.getLast? = some name
  noSlash : path.asksDirectory = false
  proper : isDots name = false
  short : name.utf8ByteSize ≤ Path.greatestNameSize
  noDirectory : tree.entry? (directory ++ [name]) ≠ some .directory

theorem withText_eq_ok_iff (tree after : FileTree) (text content : String) :
    tree.withText text content = .ok after ↔
      ∃ directory name, tree.RoomFor (Path.ofText text) directory name ∧
        after = tree.put (directory ++ [name]) (.file content.toUTF8) := by
  unfold withText
  simp only [bind_eq_ok_iff]
  constructor
  · rintro ⟨_, checked, written⟩
    split at written
    · split at written <;> cases written
    · next name last =>
      simp only [bind_eq_ok_iff] at written
      obtain ⟨directory, found, written⟩ := written
      split at written
      · cases written
      · next isFile =>
        simp only [bind_eq_ok_iff, lookUp_eq_ok_iff] at written
        obtain ⟨entry, ⟨short, rfl⟩, written⟩ := written
        split at written
        · cases written
        · next noDirectory =>
          obtain rfl := (pure_eq_ok_iff _ _).mp written
          obtain ⟨noSlash, proper⟩ := not_or.mp isFile
          exact ⟨directory, name, ⟨checked, found, last, by simpa using noSlash,
            by simpa using proper, short, noDirectory⟩, rfl⟩
  · rintro ⟨directory, name, room, rfl⟩
    refine ⟨(), room.checked, ?_⟩
    have isFile : ¬ ((Path.ofText text).asksDirectory = true ∨ isDots name = true) := by
      simp [room.noSlash, room.proper]
    simp only [room.last, bind_eq_ok_iff]
    refine ⟨directory, room.found, ?_⟩
    rw [if_neg isFile, bind_eq_ok_iff]
    refine ⟨_, (lookUp_eq_ok_iff _ _ _ _).mpr ⟨room.short, rfl⟩, ?_⟩
    split
    · next isDirectory => exact absurd isDirectory room.noDirectory
    · rfl

/-! ## Reading what was written -/

theorem step_put {tree : FileTree} {location next outer : Location} {name inner : String}
    (stepped : tree.step location name = .ok next)
    (noDirectory : tree.entry? (outer ++ [inner]) ≠ some .directory) (entry : TreeEntry) :
    (tree.put (outer ++ [inner]) entry).step location name = .ok next := by
  unfold step at stepped ⊢
  split at stepped
  · cases stepped
  · cases stepped
  · next isDirectory =>
    have apart : outer ++ [inner] ≠ location := fun same => noDirectory (same ▸ isDirectory)
    rw [entry?_put_of_ne apart, isDirectory]
    by_cases dots : name = "." ∨ name = ".."
    · rcases dots with rfl | rfl <;> simpa using stepped
    · rw [not_or] at dots
      simp only [dots.1, dots.2, if_false] at stepped ⊢
      split at stepped
      · cases stepped
      · cases stepped
      · next found =>
        obtain ⟨short, stands⟩ := (lookUp_eq_ok_iff _ _ _ _).mp found
        have still : ∃ standing, entry? (tree.put (outer ++ [inner]) entry)
            (location ++ [name]) = some standing := by
          rw [entry?_put_child]
          split
          · exact ⟨entry, rfl⟩
          · exact ⟨_, stands⟩
        obtain ⟨standing, stillStands⟩ := still
        rw [(lookUp_eq_ok_iff _ _ _ _).mpr ⟨short, stillStands⟩]
        exact stepped

/-- An entry that is no directory stands in nobody's way. -/
theorem follow_put {tree : FileTree} {location found outer : Location} {names : List String}
    {inner : String} (followed : tree.follow location names = .ok found)
    (noDirectory : tree.entry? (outer ++ [inner]) ≠ some .directory) (entry : TreeEntry) :
    (tree.put (outer ++ [inner]) entry).follow location names = .ok found := by
  induction names generalizing location with
  | nil => exact followed
  | cons name rest restFollowed =>
    rw [follow_cons, bind_eq_ok_iff] at followed ⊢
    obtain ⟨next, stepped, later⟩ := followed
    exact ⟨next, step_put stepped noDirectory entry, restFollowed later⟩

theorem locate_of_names {tree : FileTree} {text : String}
    (checked : (Path.ofText text).check = .ok ()) (named : (Path.ofText text).names ≠ [])
    (noSlash : (Path.ofText text).asksDirectory = false) :
    tree.locate text = tree.follow (tree.start (Path.ofText text)) (Path.ofText text).names := by
  have nonempty : text.isEmpty = false := by
    by_contra isEmpty
    obtain rfl : text = "" := by simpa using isEmpty
    exact named rfl
  simp only [locate, checked, nonempty, noSlash]
  rfl

theorem RoomFor.readText_put {tree : FileTree} {text name : String} {directory : Location}
    (room : tree.RoomFor (Path.ofText text) directory name) (content : String) :
    (tree.put (directory ++ [name]) (.file content.toUTF8)).readText text = .ok content := by
  obtain ⟨followed, isDirectory⟩ := (directoryOf_eq_ok_iff _ _ _).mp room.found
  have names : (Path.ofText text).names = (Path.ofText text).names.dropLast ++ [name] :=
    (List.dropLast_append_getLast? name room.last).symm
  have located : (tree.put (directory ++ [name]) (.file content.toUTF8)).locate text =
      .ok (directory ++ [name]) := by
    have apart : directory ++ [name] ≠ directory := by simp
    rw [locate_of_names room.checked (by rw [names]; simp) room.noSlash, names, follow,
      List.foldlM_append, bind_eq_ok_iff]
    refine ⟨directory, follow_put followed room.noDirectory _, ?_⟩
    rw [List.foldlM_cons, bind_eq_ok_iff]
    refine ⟨directory ++ [name], ?_, rfl⟩
    rw [step_eq_ok_iff _ _ _ room.proper, entry?_put_of_ne apart, entry?_put_self]
    exact ⟨isDirectory, room.short, by simp, rfl⟩
  have decoded : String.fromUTF8? content.toUTF8 = some content := by
    rw [String.fromUTF8?, String.toUTF8_eq_toByteArray, dif_pos content.isValidUTF8]
    rfl
  simp only [readText, located, entry?_put_self, decoded]

/-! ## Directories above a place -/

/-- A tree that comes out of another one by making directories, one in the other,
on the way to a place. -/
inductive DirectoriesMade (place : Location) : FileTree → FileTree → Prop
  | none (tree : FileTree) : DirectoriesMade place tree tree
  | next {tree after : FileTree} {directory : Location} {name : String}
      (isDirectory : tree.entry? directory = some .directory)
      (missing : tree.entry? (directory ++ [name]) = none)
      (onTheWay : directory ++ [name] <+: place)
      (later : DirectoriesMade place (tree.put (directory ++ [name]) .directory) after) :
      DirectoriesMade place tree after

namespace DirectoriesMade

variable {place : Location} {tree after : FileTree}

theorem one {directory : Location} {name : String}
    (isDirectory : tree.entry? directory = some .directory)
    (missing : tree.entry? (directory ++ [name]) = Option.none)
    (onTheWay : directory ++ [name] <+: place) :
    DirectoriesMade place tree (tree.put (directory ++ [name]) .directory) :=
  .next isDirectory missing onTheWay (.none _)

theorem wellFormed (made : DirectoriesMade place tree after) (wellFormed : tree.WellFormed) :
    after.WellFormed := by
  induction made with
  | none tree => exact wellFormed
  | next isDirectory missing onTheWay later laterWellFormed =>
    exact laterWellFormed (wellFormed.put isDirectory (by simp [missing]) .directory)

theorem workingDirectory_eq (made : DirectoriesMade place tree after) :
    after.workingDirectory = tree.workingDirectory := by
  induction made with
  | none tree => rfl
  | next isDirectory missing onTheWay later laterSame => exact laterSame

/-- Nothing changes but that missing directories on the way are there. -/
theorem entry?_cases (made : DirectoriesMade place tree after) (location : Location) :
    after.entry? location = tree.entry? location ∨
      (location <+: place ∧ tree.entry? location = Option.none ∧
        after.entry? location = some .directory) := by
  induction made with
  | none tree => exact Or.inl rfl
  | @next tree after directory name isDirectory missing onTheWay later laterCases =>
    by_cases same : directory ++ [name] = location
    · subst same
      rw [entry?_put_self] at laterCases
      rcases laterCases with kept | ⟨-, absent, -⟩
      · exact Or.inr ⟨onTheWay, missing, kept⟩
      · cases absent
    · rwa [entry?_put_of_ne same] at laterCases

end DirectoriesMade

theorem extend_cons {name : String} (proper : isDots name = false) (tree : FileTree)
    (location : Location) (later : List String) :
    tree.extend location (name :: later) =
      match tree.lookUp location name with
      | .error error => (tree, .error error)
      | .ok (some (.file _)) => (tree, .error .alreadyExists)
      | .ok (some .directory) => tree.extend (location ++ [name]) later
      | .ok none => (tree.put (location ++ [name]) .directory).extend (location ++ [name]) later := by
  obtain ⟨notDot, notDots⟩ : name ≠ "." ∧ name ≠ ".." := by simpa [isDots] using proper
  rw [extend, if_neg notDot]
  exact if_neg notDots

theorem extend_made {tree : FileTree} {location place : Location} {names : List String}
    (proper : Proper names) (isDirectory : tree.entry? location = some .directory)
    (onTheWay : location ++ names <+: place) :
    DirectoriesMade place tree (tree.extend location names).1 := by
  induction names generalizing tree location with
  | nil => exact .none tree
  | cons name later laterMade =>
    obtain ⟨isProper, laterProper⟩ := List.forall_mem_cons.mp proper
    have laterOn : (location ++ [name]) ++ later <+: place := by simpa using onTheWay
    rw [extend_cons isProper]
    split
    · exact .none tree
    · exact .none tree
    · next found =>
      have next := ((lookUp_eq_ok_iff _ _ _ _).mp found).2
      exact laterMade laterProper next laterOn
    · next found =>
      have missing := ((lookUp_eq_ok_iff _ _ _ _).mp found).2
      exact .next isDirectory missing ((List.prefix_append _ _).trans laterOn)
        (laterMade laterProper (entry?_put_self tree location name .directory) laterOn)

theorem extend_of_empty {tree : FileTree} {location : Location} {names : List String}
    (proper : Proper names) (short : Short names) (isEmpty : tree.IsEmptyDirectory location) :
    (tree.extend location names).2 = .ok () ∧
      (tree.extend location names).1.IsEmptyDirectory (location ++ names) := by
  induction names generalizing tree location with
  | nil => exact ⟨rfl, by simpa [extend] using isEmpty⟩
  | cons name later laterMade =>
    obtain ⟨isProper, laterProper⟩ := List.forall_mem_cons.mp proper
    obtain ⟨isShort, laterShort⟩ := List.forall_mem_cons.mp short
    have missing : tree.lookUp location name = .ok none :=
      (lookUp_eq_ok_iff _ _ _ _).mpr ⟨isShort, isEmpty.empty name []⟩
    have whole : location ++ name :: later = (location ++ [name]) ++ later := by simp
    rw [extend_cons isProper, missing, whole]
    exact laterMade laterProper laterShort (.put name (isEmpty.empty name))

/-- Making the directories on a way changes nothing, or it makes the last of them,
which is empty then. -/
theorem WellFormed.extend_all_or_nothing {tree : FileTree} (wellFormed : tree.WellFormed)
    {location : Location} {names : List String} (proper : Proper names) (short : Short names) :
    (tree.extend location names).1 = tree ∨
      ((tree.extend location names).2 = .ok () ∧
        (tree.extend location names).1.IsEmptyDirectory (location ++ names)) := by
  induction names generalizing location with
  | nil => exact Or.inl rfl
  | cons name later laterMade =>
    obtain ⟨isProper, laterProper⟩ := List.forall_mem_cons.mp proper
    obtain ⟨-, laterShort⟩ := List.forall_mem_cons.mp short
    have whole : location ++ name :: later = (location ++ [name]) ++ later := by simp
    rw [extend_cons isProper, whole]
    split
    · exact Or.inl rfl
    · exact Or.inl rfl
    · exact laterMade laterProper laterShort
    · next found =>
      -- Below a directory that was missing nothing can be in the way.
      have missing := ((lookUp_eq_ok_iff _ _ _ _).mp found).2
      exact Or.inr (extend_of_empty laterProper laterShort (wellFormed.emptyDirectory_put missing))

section Path

variable {tree : FileTree} {path : Path}

theorem WellFormed.entry?_start (wellFormed : tree.WellFormed) (path : Path) :
    tree.entry? (tree.start path) = some .directory := by
  unfold start
  split
  · rfl
  · exact wellFormed.working

/-- The place that a path names, without regard to what stands there. -/
def placeOf (tree : FileTree) (path : Path) : Location :=
  tree.start path ++ path.names

theorem placeOf_of_directoryOf (proper : Proper path.names) {directory : Location} {name : String}
    (found : tree.directoryOf path = .ok directory) (last : path.names.getLast? = some name) :
    directory ++ [name] = tree.placeOf path := by
  obtain ⟨followed, -⟩ := (directoryOf_eq_ok_iff _ _ _).mp found
  rw [eq_append_of_follow proper.dropLast followed, List.append_assoc,
    List.dropLast_append_getLast? name last, placeOf]

theorem ensureDirectory_cases {after : FileTree} (ensured : tree.ensureDirectory path = .ok after) :
    after = tree ∨ tree.makeDirectory path = .ok after := by
  unfold ensureDirectory at ensured
  split at ensured
  · split at ensured
    · exact Or.inl (Except.ok.inj ensured).symm
    · cases ensured
  · exact Or.inr ensured

theorem ensureDirectory_all_or_nothing {after : FileTree} (wellFormed : tree.WellFormed)
    (proper : Proper path.names) (ensured : tree.ensureDirectory path = .ok after) :
    DirectoriesMade (tree.placeOf path) tree after ∧
      (after = tree ∨ after.IsEmptyDirectory (tree.placeOf path)) := by
  rcases ensureDirectory_cases ensured with rfl | made
  · exact ⟨.none _, Or.inl rfl⟩
  · obtain ⟨directory, name, found, last, missing, rfl⟩ := makeDirectory_eq_ok made
    have isDirectory := ((directoryOf_eq_ok_iff _ _ _).mp found).2
    rw [← placeOf_of_directoryOf proper found last]
    exact ⟨.one isDirectory missing (List.prefix_refl _),
      Or.inr (wellFormed.emptyDirectory_put missing)⟩

variable {text : String}

theorem createDirectories_made (wellFormed : tree.WellFormed)
    (proper : Proper (Path.ofText text).names) :
    DirectoriesMade (tree.placeOf (Path.ofText text)) tree (tree.createDirectories text).1 := by
  unfold createDirectories
  dsimp only
  split
  · next after ensured => exact (ensureDirectory_all_or_nothing wellFormed proper ensured).1
  · exact extend_made proper (wellFormed.entry?_start _) (List.prefix_refl _)
  · exact .none tree

/-- The directories of a path without long names are made all or not at all. -/
theorem createDirectories_all_or_nothing (wellFormed : tree.WellFormed)
    (proper : Proper (Path.ofText text).names) (short : Short (Path.ofText text).names) :
    (tree.createDirectories text).1 = tree ∨
      ((tree.createDirectories text).2 = .ok () ∧
        (tree.createDirectories text).1.IsEmptyDirectory (tree.placeOf (Path.ofText text))) := by
  unfold createDirectories
  dsimp only
  split
  · next after ensured =>
    rcases (ensureDirectory_all_or_nothing wellFormed proper ensured).2 with same | isEmpty
    · exact Or.inl same
    · exact Or.inr ⟨rfl, isEmpty⟩
  · exact wellFormed.extend_all_or_nothing proper short
  · exact Or.inl rfl

end Path

end BlockStates.FileTree
