/-!
# Ordered maps

A finite map that remembers the order in which its keys were first inserted.
Inserting a known key replaces its value where it stands; a new key goes to
the end.  Keys are distinct by construction.
-/

set_option autoImplicit false

namespace BlockStates

/-- A finite map whose entries keep the order in which their keys first came. -/
structure OrderedMap (Key Value : Type) where
  entries : List (Key × Value)
  keysDistinct : (entries.map Prod.fst).Nodup
  deriving DecidableEq

namespace OrderedMap

variable {Key Value : Type}

def empty : OrderedMap Key Value :=
  ⟨[], List.nodup_nil⟩

instance : EmptyCollection (OrderedMap Key Value) := ⟨empty⟩

instance : Inhabited (OrderedMap Key Value) := ⟨empty⟩

def keys (map : OrderedMap Key Value) : List Key :=
  map.entries.map Prod.fst

def values (map : OrderedMap Key Value) : List Value :=
  map.entries.map Prod.snd

def size (map : OrderedMap Key Value) : Nat :=
  map.entries.length

def isEmpty (map : OrderedMap Key Value) : Bool :=
  map.entries.isEmpty

variable [DecidableEq Key]

def find? (key : Key) : List (Key × Value) → Option Value
  | [] => none
  | (known, value) :: rest => if known = key then some value else find? key rest

/-- Replaces the value of a key where it stands, or adds the key at the end. -/
def place (key : Key) (value : Value) : List (Key × Value) → List (Key × Value)
  | [] => [(key, value)]
  | (known, old) :: rest =>
    if known = key then (known, value) :: rest else (known, old) :: place key value rest

theorem keys_place (key : Key) (value : Value) (entries : List (Key × Value)) :
    (place key value entries).map Prod.fst =
      if key ∈ entries.map Prod.fst then entries.map Prod.fst
      else entries.map Prod.fst ++ [key] := by
  induction entries with
  | nil => simp [place]
  | cons entry rest restKeys =>
    obtain ⟨known, old⟩ := entry
    by_cases same : known = key
    · simp [place, same]
    · have differs : ¬ key = known := fun equal => same equal.symm
      simp only [place, same, if_false, List.map_cons, restKeys, List.mem_cons, differs, false_or]
      split <;> simp

theorem nodup_keys_place (key : Key) (value : Value) {entries : List (Key × Value)}
    (distinct : (entries.map Prod.fst).Nodup) :
    ((place key value entries).map Prod.fst).Nodup := by
  rw [keys_place]
  split
  · exact distinct
  · next fresh =>
    rw [List.nodup_append]
    refine ⟨distinct, by simp, ?_⟩
    intro known isKnown other isOther
    obtain rfl : other = key := by simpa using isOther
    exact fun equal => fresh (equal ▸ isKnown)

def get? (map : OrderedMap Key Value) (key : Key) : Option Value :=
  find? key map.entries

def contains (map : OrderedMap Key Value) (key : Key) : Bool :=
  (map.get? key).isSome

/-- Gives a key a value: in place if the key is known, at the end if it is new. -/
def insert (map : OrderedMap Key Value) (key : Key) (value : Value) : OrderedMap Key Value :=
  ⟨place key value map.entries, nodup_keys_place key value map.keysDistinct⟩

def ofList (entries : List (Key × Value)) : OrderedMap Key Value :=
  entries.foldl (fun map entry => map.insert entry.1 entry.2) empty

omit [DecidableEq Key] in
def mapValues {Other : Type} (map : OrderedMap Key Value) (change : Key → Value → Other) :
    OrderedMap Key Other :=
  ⟨map.entries.map fun entry => (entry.1, change entry.1 entry.2), by
    simpa [List.map_map, Function.comp_def] using map.keysDistinct⟩

theorem find?_place (key wanted : Key) (value : Value) (entries : List (Key × Value)) :
    find? wanted (place key value entries) =
      if key = wanted then some value else find? wanted entries := by
  induction entries with
  | nil => simp [place, find?]
  | cons entry rest restFound =>
    obtain ⟨known, old⟩ := entry
    by_cases same : known = key
    · subst same
      by_cases asked : known = wanted <;> simp [place, find?, asked]
    · by_cases asked : known = wanted
      · subst asked
        have differs : ¬ key = known := fun equal => same equal.symm
        simp [place, find?, same, differs]
      · simp [place, find?, same, asked, restFound]

/-- After an insertion the key has the new value and every other key its old one. -/
@[simp] theorem get?_insert (map : OrderedMap Key Value) (key wanted : Key) (value : Value) :
    (map.insert key value).get? wanted = if key = wanted then some value else map.get? wanted :=
  find?_place key wanted value map.entries

/-- An insertion changes no key's position; a new key comes last. -/
theorem keys_insert (map : OrderedMap Key Value) (key : Key) (value : Value) :
    (map.insert key value).keys = if key ∈ map.keys then map.keys else map.keys ++ [key] :=
  keys_place key value map.entries

end OrderedMap

end BlockStates
