import Mathlib.Data.List.Nodup

/-!
# Runs of checks

A check that runs over a list stops at its first refusal.  The lemmas here say
when such a run succeeds and where it stops.  The main one, `Admits.foldlM_ok_iff`,
is about checks that give names to items: a run succeeds exactly when every item is
fit and no name is given twice.
-/

set_option autoImplicit false

namespace BlockStates

variable {Refusal Room Item Name Value Other : Type}

theorem bind_eq_ok_iff (check : Except Refusal Value) (next : Value → Except Refusal Other)
    (result : Other) :
    (check >>= next) = .ok result ↔ ∃ value, check = .ok value ∧ next value = .ok result := by
  cases check with
  | error refusal => simp [bind, Except.bind]
  | ok value => simp [bind, Except.bind]

theorem map_eq_ok_iff (check : Except Refusal Value) (change : Value → Other) (result : Other) :
    check.map change = .ok result ↔ ∃ value, check = .ok value ∧ change value = result := by
  cases check with
  | error refusal => simp [Except.map]
  | ok value => simp [Except.map]

theorem pure_eq_ok_iff (value result : Value) :
    (pure value : Except Refusal Value) = .ok result ↔ value = result := by
  simp [pure, Except.pure]

theorem forM_eq_ok_iff (check : Item → Except Refusal Unit) (items : List Item) (result : Unit) :
    items.forM check = .ok result ↔ ∀ item ∈ items, check item = .ok () := by
  induction items with
  | nil => simp [pure, Except.pure]
  | cons item rest restRuns =>
    rw [List.forM_eq_forM] at restRuns ⊢
    rw [List.forM_cons, bind_eq_ok_iff, restRuns, List.forall_mem_cons]
    exact ⟨fun ⟨_, first, later⟩ => ⟨first, later⟩, fun ⟨first, later⟩ => ⟨(), first, later⟩⟩

/-! ## Where a run stops -/

theorem bind_eq_error_iff (check : Except Refusal Value) (next : Value → Except Refusal Other)
    (refusal : Refusal) :
    (check >>= next) = .error refusal ↔
      check = .error refusal ∨ ∃ value, check = .ok value ∧ next value = .error refusal := by
  cases check with
  | error earlier => simp [bind, Except.bind]
  | ok value => simp [bind, Except.bind]

theorem map_eq_error_iff (check : Except Refusal Value) (change : Value → Other)
    (refusal : Refusal) : check.map change = .error refusal ↔ check = .error refusal := by
  cases check with
  | error earlier => simp [Except.map]
  | ok value => simp [Except.map]

/-- A run is refused by an item behind items that it has passed. -/
theorem foldlM_eq_error_iff (step : Room → Item → Except Refusal Room) (items : List Item)
    (room : Room) (refusal : Refusal) :
    items.foldlM step room = .error refusal ↔
      ∃ before item after reached, items = before ++ item :: after ∧
        before.foldlM step room = .ok reached ∧ step reached item = .error refusal := by
  induction items generalizing room with
  | nil => simp [pure, Except.pure]
  | cons head rest restRefused =>
    rw [List.foldlM_cons, bind_eq_error_iff]
    constructor
    · rintro (refused | ⟨next, passed, refused⟩)
      · exact ⟨[], head, rest, room, rfl, rfl, refused⟩
      · obtain ⟨before, item, after, reached, rfl, run, stopped⟩ := (restRefused next).mp refused
        refine ⟨head :: before, item, after, reached, rfl, ?_, stopped⟩
        rw [List.foldlM_cons, bind_eq_ok_iff]
        exact ⟨next, passed, run⟩
    · rintro ⟨before, item, after, reached, split, run, stopped⟩
      cases before with
      | nil =>
        obtain ⟨rfl, rfl⟩ := List.cons.inj split
        obtain rfl : room = reached := (pure_eq_ok_iff room reached).mp run
        exact Or.inl stopped
      | cons first before =>
        obtain ⟨rfl, rfl⟩ := List.cons.inj split
        rw [List.foldlM_cons, bind_eq_ok_iff] at run
        obtain ⟨next, passed, run⟩ := run
        exact Or.inr
          ⟨next, passed, (restRefused next).mpr ⟨before, item, after, reached, rfl, run, stopped⟩⟩

theorem forM_eq_error_iff (check : Item → Except Refusal Unit) (items : List Item)
    (refusal : Refusal) :
    items.forM check = .error refusal ↔
      ∃ before item after, items = before ++ item :: after ∧
        (∀ earlier ∈ before, check earlier = .ok ()) ∧ check item = .error refusal := by
  have asFold (some : List Item) : some.forM check = some.foldlM (fun _ => check) () := by
    induction some with
    | nil => rfl
    | cons first rest restFold => exact congrArg (check first >>= ·) (funext fun _ => restFold)
  rw [asFold, foldlM_eq_error_iff]
  simp only [← asFold, forM_eq_ok_iff, exists_const]

theorem find?_eq_some_iff_first {items : List Item} {wanted : Item → Bool} {item : Item} :
    items.find? wanted = some item ↔
      ∃ before after, items = before ++ item :: after ∧
        (∀ earlier ∈ before, wanted earlier = false) ∧ wanted item = true := by
  simp only [List.find?_eq_some_iff_append, Bool.not_eq_true']
  constructor
  · rintro ⟨isWanted, before, after, split, others⟩
    exact ⟨before, after, split, others, isWanted⟩
  · rintro ⟨before, after, split, others, isWanted⟩
    exact ⟨isWanted, before, after, split, others⟩

/-- What every step keeps, as a statement on the items so far and on what they have
come to, holds of all items in the end. -/
theorem reached_foldlM {Reached : List Item → Room → Prop}
    {step : Room → Item → Except Refusal Room}
    (reaches : ∀ before room item next, Reached before room → step room item = .ok next →
      Reached (before ++ [item]) next)
    (items before : List Item) (room last : Room) (start : Reached before room)
    (run : items.foldlM step room = .ok last) : Reached (before ++ items) last := by
  induction items generalizing before room with
  | nil =>
    obtain rfl : room = last := (pure_eq_ok_iff room last).mp run
    rwa [List.append_nil]
  | cons item rest restReached =>
    rw [List.foldlM_cons, bind_eq_ok_iff] at run
    obtain ⟨next, stepRun, restRun⟩ := run
    have restLast := restReached (before ++ [item]) next
      (reaches before room item next start stepRun) restRun
    rwa [List.append_assoc] at restLast

/-! ## Runs that give names -/

/-- A step that lets an item in exactly when the item is fit and its name, if
it has one, is not taken; the name is taken from then on. -/
structure Admits (taken : Room → List Name) (name : Item → Option Name) (fit : Item → Prop)
    (step : Room → Item → Except Refusal Room) : Prop where
  sound : ∀ {room next : Room} {item : Item}, step room item = .ok next →
    fit item ∧ (∀ given ∈ name item, given ∉ taken room) ∧
      taken next = taken room ++ (name item).toList
  complete : ∀ {room : Room} {item : Item}, fit item →
    (∀ given ∈ name item, given ∉ taken room) → ∃ next, step room item = .ok next

namespace Admits

variable {taken : Room → List Name} {name : Item → Option Name} {fit : Item → Prop}
  {step : Room → Item → Except Refusal Room}

/-- After a run the names of all items are taken, in order. -/
theorem taken_foldlM (admits : Admits taken name fit step) (items : List Item)
    (room last : Room) (run : items.foldlM step room = .ok last) :
    taken last = taken room ++ items.filterMap name := by
  have reaches (before : List Item) (reached : Room) (item : Item) (next : Room)
      (soFar : taken reached = taken room ++ before.filterMap name)
      (stepRun : step reached item = .ok next) :
      taken next = taken room ++ (before ++ [item]).filterMap name := by
    rw [(admits.sound stepRun).2.2, soFar, List.filterMap_append, List.append_assoc]
    cases given : name item <;> simp [given]
  exact reached_foldlM reaches items [] room last (by simp) run

theorem nodup_append_toList (names : List Name) (given : Option Name)
    (distinct : names.Nodup) (free : ∀ wanted ∈ given, wanted ∉ names) :
    (names ++ given.toList).Nodup := by
  cases given with
  | none => simpa using distinct
  | some wanted =>
    have fresh : wanted ∉ names := free wanted rfl
    rw [Option.toList_some, List.nodup_append]
    refine ⟨distinct, List.nodup_singleton wanted, ?_⟩
    intro known isKnown other isOther
    obtain rfl : other = wanted := List.mem_singleton.mp isOther
    exact fun same => fresh (same ▸ isKnown)

/-- A run succeeds exactly when all items are fit and no name is given twice,
counting the names that were taken before. -/
theorem foldlM_ok_iff (admits : Admits taken name fit step) (items : List Item) (room : Room)
    (distinct : (taken room).Nodup) :
    (∃ last, items.foldlM step room = .ok last) ↔
      (∀ item ∈ items, fit item) ∧ (taken room ++ items.filterMap name).Nodup := by
  -- The names that are taken grow with every step, so that distinctness passes
  -- from the whole list to what is taken and what is left.
  induction items generalizing room with
  | nil => simpa [pure, Except.pure] using distinct
  | cons item rest restRuns =>
    have names : (item :: rest).filterMap name = (name item).toList ++ rest.filterMap name := by
      cases given : name item <;> simp [given]
    rw [names, ← List.append_assoc]
    constructor
    · rintro ⟨last, run⟩
      rw [List.foldlM_cons, bind_eq_ok_iff] at run
      obtain ⟨next, stepRun, restRun⟩ := run
      obtain ⟨itemFit, free, taking⟩ := admits.sound stepRun
      have nextDistinct : (taken next).Nodup := by
        rw [taking]
        exact nodup_append_toList (taken room) (name item) distinct free
      obtain ⟨restFit, restDistinct⟩ := (restRuns next nextDistinct).mp ⟨last, restRun⟩
      rw [taking] at restDistinct
      exact ⟨List.forall_mem_cons.mpr ⟨itemFit, restFit⟩, restDistinct⟩
    · rintro ⟨allFit, allDistinct⟩
      obtain ⟨itemFit, restFit⟩ := List.forall_mem_cons.mp allFit
      have itemDistinct : (taken room ++ (name item).toList).Nodup :=
        (List.nodup_append.mp allDistinct).1
      have free : ∀ given ∈ name item, given ∉ taken room := by
        intro given isGiven isTaken
        have isListed : given ∈ (name item).toList := by simpa using isGiven
        exact (List.nodup_append.mp itemDistinct).2.2 given isTaken given isListed rfl
      obtain ⟨next, stepRun⟩ := admits.complete itemFit free
      obtain ⟨-, -, taking⟩ := admits.sound stepRun
      rw [← taking] at allDistinct itemDistinct
      obtain ⟨last, restRun⟩ := (restRuns next itemDistinct).mpr ⟨restFit, allDistinct⟩
      refine ⟨last, ?_⟩
      rw [List.foldlM_cons, bind_eq_ok_iff]
      exact ⟨next, stepRun, restRun⟩

end Admits

end BlockStates
