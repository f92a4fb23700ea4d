import Mathlib.Data.List.Find
import Mathlib.Data.List.Induction
import BlockStates.OrderedMap

/-!
# Membership in ordered maps

Keys are distinct, so a map holds for each key what its look-up answers.  The
lemmas here translate between entries, keys and look-ups; later proofs do not
open the lists of entries.
-/

set_option autoImplicit false

namespace BlockStates.OrderedMap

variable {Key Value : Type}

@[simp] theorem entries_empty : (∅ : OrderedMap Key Value).entries = [] := rfl

@[simp] theorem keys_empty : (∅ : OrderedMap Key Value).keys = [] := rfl

theorem eq_of_entries_eq {first second : OrderedMap Key Value}
    (same : first.entries = second.entries) : first = second := by
  cases first
  cases second
  cases same
  rfl

theorem nodup_keys (map : OrderedMap Key Value) : map.keys.Nodup :=
  map.keysDistinct

theorem mem_keys_of_mem_entries (map : OrderedMap Key Value) {key : Key} {value : Value}
    (entry : (key, value) ∈ map.entries) : key ∈ map.keys :=
  List.mem_map.mpr ⟨(key, value), entry, rfl⟩

theorem mem_values_iff (map : OrderedMap Key Value) (value : Value) :
    value ∈ map.values ↔ ∃ key, (key, value) ∈ map.entries := by
  simp [values]

theorem isEmpty_iff_keys_eq_nil (map : OrderedMap Key Value) :
    map.isEmpty = true ↔ map.keys = [] := by
  simp [isEmpty, keys]

@[simp] theorem entries_mapValues {Other : Type} (map : OrderedMap Key Value)
    (change : Key → Value → Other) :
    (map.mapValues change).entries =
      map.entries.map fun entry => (entry.1, change entry.1 entry.2) := rfl

@[simp] theorem keys_mapValues {Other : Type} (map : OrderedMap Key Value)
    (change : Key → Value → Other) : (map.mapValues change).keys = map.keys := by
  simp [keys, Function.comp_def]

variable [DecidableEq Key]

theorem find?_eq_some_iff (key : Key) (value : Value) (entries : List (Key × Value))
    (distinct : (entries.map Prod.fst).Nodup) :
    find? key entries = some value ↔ (key, value) ∈ entries := by
  induction entries with
  | nil => simp [find?]
  | cons entry rest restFound =>
    obtain ⟨known, held⟩ := entry
    rw [List.map_cons, List.nodup_cons] at distinct
    obtain ⟨fresh, restDistinct⟩ := distinct
    by_cases same : known = key
    · subst known
      have absent : (key, value) ∉ rest := fun member =>
        fresh (List.mem_map.mpr ⟨(key, value), member, rfl⟩)
      simp [find?, absent, eq_comm]
    · simp [find?, same, restFound restDistinct, Ne.symm same]

theorem get?_eq_some_iff (map : OrderedMap Key Value) (key : Key) (value : Value) :
    map.get? key = some value ↔ (key, value) ∈ map.entries :=
  find?_eq_some_iff key value map.entries map.keysDistinct

theorem mem_keys_iff (map : OrderedMap Key Value) (key : Key) :
    key ∈ map.keys ↔ ∃ value, map.get? key = some value := by
  simp [keys, get?_eq_some_iff]

theorem get?_eq_none_iff (map : OrderedMap Key Value) (key : Key) :
    map.get? key = none ↔ key ∉ map.keys := by
  rw [Option.eq_none_iff_forall_ne_some, mem_keys_iff, not_exists]

theorem contains_iff (map : OrderedMap Key Value) (key : Key) :
    map.contains key = true ↔ key ∈ map.keys := by
  rw [contains, Option.isSome_iff_exists, mem_keys_iff]

theorem mem_values_of_get? (map : OrderedMap Key Value) {key : Key} {value : Value}
    (found : map.get? key = some value) : value ∈ map.values :=
  (mem_values_iff map value).mpr ⟨key, (get?_eq_some_iff map key value).mp found⟩

theorem get?_eq_of_perm {first second : OrderedMap Key Value}
    (reordered : first.entries.Perm second.entries) (key : Key) :
    first.get? key = second.get? key := by
  apply Option.ext
  intro value
  rw [get?_eq_some_iff, get?_eq_some_iff]
  exact reordered.mem_iff

theorem get?_mapValues {Other : Type} (map : OrderedMap Key Value)
    (change : Key → Value → Other) (key : Key) :
    (map.mapValues change).get? key = (map.get? key).map (change key) := by
  apply Option.ext
  intro other
  simp only [get?_eq_some_iff, Option.map_eq_some_iff, entries_mapValues, List.mem_map,
    Prod.mk.injEq, Prod.exists]
  constructor
  · rintro ⟨known, value, entry, rfl, changed⟩
    exact ⟨value, entry, changed⟩
  · rintro ⟨value, entry, changed⟩
    exact ⟨key, value, entry, rfl, changed⟩

/-- The entry at a place is the key at that place with what its look-up answers. -/
theorem getElem?_entries_eq_some_iff (map : OrderedMap Key Value) (position : Nat) (key : Key)
    (value : Value) :
    map.entries[position]? = some (key, value) ↔
      map.keys[position]? = some key ∧ map.get? key = some value := by
  rw [keys, List.getElem?_map, get?_eq_some_iff]
  constructor
  · intro entry
    exact ⟨by rw [entry]; rfl, List.mem_of_getElem? entry⟩
  · rintro ⟨isKey, entry⟩
    obtain ⟨⟨known, held⟩, found, rfl⟩ := Option.map_eq_some_iff.mp isKey
    have sameValue : map.get? known = some held :=
      (get?_eq_some_iff _ _ _).mpr (List.mem_of_getElem? found)
    rw [(get?_eq_some_iff _ _ _).mpr entry] at sameValue
    rw [found, Option.some.inj sameValue]

/-- What holds of all entries and of a new one holds after the insertion. -/
theorem forall_entries_insert {map : OrderedMap Key Value} {key : Key} {value : Value}
    {Holds : Key × Value → Prop} (all : ∀ entry ∈ map.entries, Holds entry)
    (new : Holds (key, value)) : ∀ entry ∈ (map.insert key value).entries, Holds entry := by
  rintro ⟨known, found⟩ entry
  have lookup := (get?_eq_some_iff _ _ _).mpr entry
  rw [get?_insert] at lookup
  by_cases same : key = known
  · rw [if_pos same, Option.some.injEq] at lookup
    exact same ▸ lookup ▸ new
  · rw [if_neg same] at lookup
    exact all _ ((get?_eq_some_iff _ _ _).mp lookup)

theorem keys_insert_of_not_mem (map : OrderedMap Key Value) (key : Key) (value : Value)
    (fresh : key ∉ map.keys) : (map.insert key value).keys = map.keys ++ [key] := by
  rw [keys_insert, if_neg fresh]

theorem place_append_of_not_mem {key : Key} {front : List (Key × Value)}
    (fresh : key ∉ front.map Prod.fst) (value : Value) (back : List (Key × Value)) :
    place key value (front ++ back) = front ++ place key value back := by
  induction front with
  | nil => rfl
  | cons entry rest restPlace =>
    obtain ⟨known, held⟩ := entry
    rw [List.map_cons, List.mem_cons, not_or] at fresh
    rw [List.cons_append, place, if_neg (Ne.symm fresh.1), restPlace fresh.2, List.cons_append]

theorem place_of_not_mem {key : Key} {entries : List (Key × Value)}
    (fresh : key ∉ entries.map Prod.fst) (value : Value) :
    place key value entries = entries ++ [(key, value)] := by
  have atEnd := place_append_of_not_mem fresh value []
  rwa [List.append_nil] at atEnd

/-- New keys are added behind the known ones, in order. -/
theorem entries_foldl_insert (entries : List (Key × Value)) (start : OrderedMap Key Value)
    (distinct : ((start.entries ++ entries).map Prod.fst).Nodup) :
    (entries.foldl (fun map entry => map.insert entry.1 entry.2) start).entries =
      start.entries ++ entries := by
  induction entries generalizing start with
  | nil => simp
  | cons entry rest restEntries =>
    have fresh : entry.1 ∉ start.entries.map Prod.fst := by
      rw [List.map_append, List.map_cons, List.nodup_append] at distinct
      exact fun known => distinct.2.2 entry.1 known entry.1 List.mem_cons_self rfl
    have inserted : (start.insert entry.1 entry.2).entries = start.entries ++ [entry] :=
      place_of_not_mem fresh entry.2
    have sameEntries : start.entries ++ entry :: rest =
        (start.insert entry.1 entry.2).entries ++ rest := by
      rw [inserted, List.append_assoc, List.singleton_append]
    rw [sameEntries] at distinct ⊢
    exact restEntries _ distinct

theorem entries_ofList {entries : List (Key × Value)}
    (distinct : (entries.map Prod.fst).Nodup) : (ofList entries).entries = entries :=
  entries_foldl_insert entries empty distinct

theorem ofList_entries (map : OrderedMap Key Value) : ofList map.entries = map :=
  eq_of_entries_eq (entries_ofList map.keysDistinct)

theorem ofList_append_singleton (entries : List (Key × Value)) (entry : Key × Value) :
    ofList (entries ++ [entry]) = (ofList entries).insert entry.1 entry.2 := by
  rw [ofList, List.foldl_append]
  rfl

/-- Of equal keys the first one gives the place. -/
theorem keys_ofList (entries : List (Key × Value)) :
    (ofList entries).keys = (entries.map Prod.fst).eraseDups := by
  induction entries using List.reverseRecOn with
  | nil => rfl
  | append_singleton entries entry earlierKeys =>
    rw [ofList_append_singleton, keys_insert, earlierKeys, List.map_append, List.eraseDups_append]
    by_cases known : entry.1 ∈ entries.map Prod.fst
    · simp [List.removeAll, known]
    · simp [List.removeAll, known, List.eraseDups_cons]

/-- Of equal keys the last one gives the value. -/
theorem get?_ofList (key : Key) (entries : List (Key × Value)) :
    (ofList entries).get? key = find? key entries.reverse := by
  induction entries using List.reverseRecOn with
  | nil => rfl
  | append_singleton entries entry earlierFound =>
    rw [ofList_append_singleton, get?_insert, earlierFound, List.reverse_append]
    rfl

theorem ext_get? {first second : OrderedMap Key Value} (sameKeys : first.keys = second.keys)
    (sameValues : ∀ key, first.get? key = second.get? key) : first = second := by
  apply eq_of_entries_eq
  apply List.ext_getElem?
  intro position
  apply Option.ext
  rintro ⟨key, value⟩
  rw [getElem?_entries_eq_some_iff, getElem?_entries_eq_some_iff, sameKeys, sameValues]

omit [DecidableEq Key] in
/-- The first entry of some kind by its key, if the key tells the kind. -/
theorem find?_keys (map : OrderedMap Key Value) {ofKey : Key → Bool} {ofEntry : Key × Value → Bool}
    (same : ∀ entry ∈ map.entries, ofKey entry.1 = ofEntry entry) :
    map.keys.find? ofKey = (map.entries.find? ofEntry).map Prod.fst := by
  rw [keys, List.find?_map]
  exact congrArg (Option.map Prod.fst) (List.find?_congr same)

end BlockStates.OrderedMap
