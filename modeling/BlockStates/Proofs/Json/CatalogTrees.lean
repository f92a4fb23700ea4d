import BlockStates.Proofs.Json.Tree

/-!
# Trees of catalogs

What a JSON value stands for where a catalog wants a text, an identifier, a state
or a block, if it stands for anything there.  Of the members of a state and of a
block, two have a meaning, each at most once; the others only need a name.
-/

set_option autoImplicit false

namespace BlockStates.Json

/-- A member of an object: a name, unless it has no value, and a value. -/
abbrev TreeMember := Option String × Tree

/-! ## Parts of an object -/

def valuesOf (name : String) (members : List TreeMember) : List Tree :=
  (members.filter fun member => member.1 = some name).map Prod.snd

/-- A part that may be given once, if nothing else is given or it has been given
before. -/
def once? {Value : Type} (value? : Tree → Option Value) :
    Option Value → List Tree → Option (Option Value)
  | given, [] => some given
  | none, tree :: trees => (value? tree).bind fun value => once? value? (some value) trees
  | some _, _ :: _ => none

/-- The two parts of an object, of which some may have been given before. -/
def twoParts? {First Second : Type} (firstName secondName : String)
    (first? : Tree → Option First) (second? : Tree → Option Second)
    (given : Option First × Option Second) (members : List TreeMember) :
    Option (Option First × Option Second) := do
  let _names ← members.mapM Prod.fst
  let first ← once? first? given.1 (valuesOf firstName members)
  let second ← once? second? given.2 (valuesOf secondName members)
  return (first, second)

def memberEntries? {Value : Type} (value? : Tree → Option Value) (members : List TreeMember) :
    Option (List (String × Value)) :=
  members.mapM fun member => do return (← member.1, ← value? member.2)

/-! ## Values -/

namespace Tree

def text? : Tree → Option String
  | .text content => content
  | _ => none

def id? : Tree → Option UInt16
  | .number characters => numberId? characters
  | _ => none

def list? {Value : Type} (item? : Tree → Option Value) : Tree → Option (List Value)
  | .list items => items.mapM item?
  | _ => none

def map? {Value : Type} (value? : Tree → Option Value) : Tree → Option (OrderedMap String Value)
  | .object members => (memberEntries? value? members).map .ofList
  | _ => none

def optional? {Value : Type} (value? : Tree → Option Value) : Tree → Option (Option Value)
  | .null => some none
  | tree => (value? tree).map some

def assignment? : Tree → Option Assignment :=
  map? text?

def properties? : Tree → Option Properties :=
  map? (list? text?)

def state? : Tree → Option State
  | .object members => do
    let (id, assignment) ← twoParts? "id" "properties" id? assignment? (none, none) members
    return ⟨← id, assignment.getD ∅⟩
  | .list [id] => do return ⟨← id.id?, ∅⟩
  | .list [id, assignment] => do return ⟨← id.id?, ← assignment.assignment?⟩
  | _ => none

def states? : Tree → Option (Option (List State)) :=
  optional? (list? state?)

def block? : Tree → Option BlockEntry
  | .object members => do
    let (properties, states) ←
      twoParts? "properties" "states" properties? states? (none, none) members
    return ⟨properties.getD ∅, states.getD none⟩
  | .list [properties, states] => do return ⟨← properties.properties?, ← states.states?⟩
  | _ => none

end Tree

/-! ## Members one after the other -/

section TwoParts

variable {First Second : Type} {firstName secondName name : String}
  {first? : Tree → Option First} {second? : Tree → Option Second}
  {given : Option First × Option Second} {tree : Tree} {members : List TreeMember}

theorem valuesOf_cons_same : valuesOf name ((some name, tree) :: members) =
    tree :: valuesOf name members := by
  simp [valuesOf]

theorem valuesOf_cons_other {other : String} (differs : other ≠ name) :
    valuesOf name ((some other, tree) :: members) = valuesOf name members := by
  simp [valuesOf, differs]

theorem twoParts?_nameless :
    twoParts? firstName secondName first? second? given ((none, tree) :: members) = none := by
  simp [twoParts?]

/-- A member with another name is ignored. -/
theorem twoParts?_other (notFirst : name ≠ firstName) (notSecond : name ≠ secondName) :
    twoParts? firstName secondName first? second? given ((some name, tree) :: members) =
      twoParts? firstName secondName first? second? given members := by
  simp [twoParts?, valuesOf_cons_other notFirst, valuesOf_cons_other notSecond, Option.bind_assoc]

theorem twoParts?_first (distinct : firstName ≠ secondName) :
    twoParts? firstName secondName first? second? given ((some firstName, tree) :: members) =
      if given.1.isSome then none
      else (first? tree).bind fun value =>
        twoParts? firstName secondName first? second? (some value, given.2) members := by
  obtain ⟨firstGiven, secondGiven⟩ := given
  rw [twoParts?, valuesOf_cons_same, valuesOf_cons_other distinct]
  cases firstGiven with
  | some => simp [once?]
  | none =>
    cases isFirst : first? tree with
    | none => simp [once?, isFirst]
    | some value => simp [once?, isFirst, twoParts?, Option.bind_assoc]

theorem twoParts?_second (distinct : firstName ≠ secondName) :
    twoParts? firstName secondName first? second? given ((some secondName, tree) :: members) =
      if given.2.isSome then none
      else (second? tree).bind fun value =>
        twoParts? firstName secondName first? second? (given.1, some value) members := by
  obtain ⟨firstGiven, secondGiven⟩ := given
  rw [twoParts?, valuesOf_cons_same, valuesOf_cons_other distinct.symm]
  cases secondGiven with
  | some => simp [once?]
  | none =>
    cases isSecond : second? tree with
    | none => simp [once?, isSecond]
    | some value => simp [once?, isSecond, twoParts?, Option.bind_assoc]

end TwoParts

end BlockStates.Json
