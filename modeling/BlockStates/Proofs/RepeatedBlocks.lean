import BlockStates.Proofs.AcceptedLayout
import BlockStates.Proofs.Json.AcceptedTexts

/-!
# Blocks that are written more than once

Of the members of one name the first gives the place of the block and the last
its content.  A block without states is reported only if it is the last one of its
name, and then the name that comes first is.
-/

set_option autoImplicit false

namespace BlockStates

open Json (BlockEntry)

/-! ## Entries and blocks -/

def lastNamed? (name : String) (entries : List (String × BlockEntry)) : Option BlockEntry :=
  OrderedMap.find? name entries.reverse

/-- The first name of which the last entry has no states. -/
def firstWithoutStates? (entries : List (String × BlockEntry)) : Option String :=
  (entries.map Prod.fst).eraseDups.find? fun name =>
    ((lastNamed? name entries).bind BlockEntry.states).isNone

/-- A block of an entry.  Without states in the entry it may have any. -/
structure Block.Describes (entry : String × BlockEntry) (block : Block) : Prop where
  name : block.name = entry.1
  properties : block.properties = entry.2.properties
  states : ∀ states, entry.2.states = some states → block.states = states

/-- A catalog of all the names of some entries, each with what its last entry
holds. -/
structure Catalog.BuiltFrom (catalog : Catalog) (entries : List (String × BlockEntry)) : Prop where
  /-- It comes from adding a block for each entry, in order. -/
  added : ∀ blocks, List.Forall₂ Block.Describes entries blocks →
    blocks.foldl Catalog.add Catalog.empty = catalog
  names : catalog.blocks.keys = (entries.map Prod.fst).eraseDups
  last : ∀ name entry, lastNamed? name entries = some entry →
    ∃ states, entry.states = some states ∧
      catalog.get? name = some ⟨name, entry.properties, states⟩
  keyed : catalog.KeyedByName

/-! ## Adding entries -/

def blockOf (name : String) (entry : BlockEntry) : Block :=
  ⟨name, entry.properties, entry.states.getD []⟩

theorem Catalog.addEntries_eq (catalog : Catalog) (entries : List (String × BlockEntry)) :
    catalog.addEntries entries =
      match entries.find? fun entry => entry.2.states.isNone with
      | some entry => .error (.missingStates entry.1)
      | none => .ok ⟨entries.foldl
          (fun map entry => map.insert entry.1 (blockOf entry.1 entry.2)) catalog.blocks⟩ := by
  induction entries generalizing catalog with
  | nil => rfl
  | cons entry rest restAdded =>
    obtain ⟨name, entry⟩ := entry
    cases hasStates : entry.states with
    | none => simp [Catalog.addEntries, BlockEntry.toBlock?, hasStates]
    | some states =>
      have isBlock : entry.toBlock? name = .ok (blockOf name entry) := by
        simp [BlockEntry.toBlock?, blockOf, hasStates]
      rw [Catalog.addEntries, isBlock]
      simp only [restAdded, List.find?_cons, hasStates, Option.isNone_some, List.foldl_cons]
      rfl

/-- What a catalog with entries of repeated names is read as. -/
theorem Catalog.addEntries_ofList (entries : List (String × BlockEntry)) :
    Catalog.empty.addEntries (OrderedMap.ofList entries).entries =
      match firstWithoutStates? entries with
      | some name => .error (.missingStates name)
      | none => .ok ⟨(OrderedMap.ofList entries).mapValues blockOf⟩ := by
  have firstName : firstWithoutStates? entries =
      ((OrderedMap.ofList entries).entries.find? fun entry => entry.2.states.isNone).map
        Prod.fst := by
    rw [firstWithoutStates?, ← OrderedMap.keys_ofList]
    apply OrderedMap.find?_keys
    rintro ⟨name, entry⟩ isEntry
    rw [lastNamed?, ← OrderedMap.get?_ofList, (OrderedMap.get?_eq_some_iff _ _ _).mpr isEntry]
    rfl
  rw [Catalog.addEntries_eq, firstName]
  cases (OrderedMap.ofList entries).entries.find? fun entry => entry.2.states.isNone with
  | some entry => rfl
  | none =>
    have sameBlocks := OrderedMap.ofList_entries ((OrderedMap.ofList entries).mapValues blockOf)
    rw [OrderedMap.ofList, OrderedMap.entries_mapValues, List.foldl_map] at sameBlocks
    exact congrArg (fun blocks => Except.ok (Catalog.mk blocks)) sameBlocks

theorem Catalog.read_of_members {members : List Json.TreeMember} {text : String}
    {entries : List (String × BlockEntry)} (written : (Json.Tree.object members).WrittenAs text)
    (wellTyped : Json.memberEntries? Json.Tree.block? members = some entries) :
    Catalog.read text =
      match firstWithoutStates? entries with
      | some name => .error (.missingStates name)
      | none => .ok ⟨(OrderedMap.ofList entries).mapValues blockOf⟩ := by
  have isRead := Json.blockEntries_eq_ok_iff.mpr ⟨members, entries, written, wellTyped, rfl⟩
  rw [Catalog.read, isRead]
  exact Catalog.addEntries_ofList entries

/-! ## The blocks one after the other -/

theorem Catalog.foldl_add (blocks : List Block) :
    blocks.foldl Catalog.add Catalog.empty =
      ⟨OrderedMap.ofList (blocks.map fun block => (block.name, block))⟩ := by
  have folded (start : Catalog) : blocks.foldl Catalog.add start =
      ⟨(blocks.map fun block => (block.name, block)).foldl
        (fun map entry => map.insert entry.1 entry.2) start.blocks⟩ := by
    induction blocks generalizing start with
    | nil => rfl
    | cons block rest restFolded =>
      rw [List.foldl_cons, restFolded]
      rfl
  exact folded Catalog.empty

theorem find?_of_describes (name : String) {entries : List (String × BlockEntry)}
    {blocks : List Block} (described : List.Forall₂ Block.Describes entries blocks) :
    (OrderedMap.find? name entries = none ∧
        OrderedMap.find? name (blocks.map fun block => (block.name, block)) = none) ∨
      ∃ entry block, OrderedMap.find? name entries = some entry ∧
        OrderedMap.find? name (blocks.map fun block => (block.name, block)) = some block ∧
        block.Describes (name, entry) := by
  induction described with
  | nil => exact Or.inl ⟨rfl, rfl⟩
  | @cons entry block _ _ describes _ laterFound =>
    obtain ⟨known, entry⟩ := entry
    obtain rfl : block.name = known := describes.name
    by_cases same : block.name = name
    · subst same
      exact Or.inr ⟨entry, block, by simp [OrderedMap.find?], by simp [OrderedMap.find?], describes⟩
    · simpa [OrderedMap.find?, same] using laterFound

theorem keys_of_describes {entries : List (String × BlockEntry)} {blocks : List Block}
    (described : List.Forall₂ Block.Describes entries blocks) :
    (blocks.map fun block => (block.name, block)).map Prod.fst = entries.map Prod.fst := by
  induction described with
  | nil => rfl
  | cons describes _ laterSame =>
    rw [List.map_cons, List.map_cons, List.map_cons, laterSame, describes.name]

theorem lastNamed?_eq_get? (name : String) (entries : List (String × BlockEntry)) :
    lastNamed? name entries = (OrderedMap.ofList entries).get? name :=
  (OrderedMap.get?_ofList name entries).symm

theorem exists_last_of_firstWithoutStates {name : String} {entries : List (String × BlockEntry)}
    (first : firstWithoutStates? entries = some name) :
    ∃ entry, lastNamed? name entries = some entry ∧ entry.states = none := by
  have isName : name ∈ (OrderedMap.ofList entries).keys := by
    rw [OrderedMap.keys_ofList]
    exact List.mem_of_find?_eq_some first
  obtain ⟨entry, found⟩ := (OrderedMap.mem_keys_iff _ _).mp isName
  have last : lastNamed? name entries = some entry := by rw [lastNamed?_eq_get?, found]
  have noStates := List.find?_some first
  rw [last, Option.bind_some, Option.isNone_iff_eq_none] at noStates
  exact ⟨entry, last, noStates⟩

theorem exists_states_of_last {name : String} {entry : BlockEntry}
    {entries : List (String × BlockEntry)} (complete : firstWithoutStates? entries = none)
    (last : lastNamed? name entries = some entry) : ∃ states, entry.states = some states := by
  have isName : name ∈ (entries.map Prod.fst).eraseDups := by
    rw [← OrderedMap.keys_ofList, OrderedMap.mem_keys_iff, ← lastNamed?_eq_get?]
    exact ⟨entry, last⟩
  have hasStates := List.find?_eq_none.mp complete name isName
  rw [last, Option.bind_some, Option.isNone_iff_eq_none] at hasStates
  exact Option.ne_none_iff_exists'.mp hasStates

/-- If no name is without states in the end, adding a block for each entry gives
the catalog of the last ones, whatever states entries without states are given. -/
theorem Catalog.foldl_add_of_describes {entries : List (String × BlockEntry)}
    {blocks : List Block} (described : List.Forall₂ Block.Describes entries blocks)
    (complete : firstWithoutStates? entries = none) :
    blocks.foldl Catalog.add Catalog.empty =
      ⟨(OrderedMap.ofList entries).mapValues blockOf⟩ := by
  rw [Catalog.foldl_add]
  apply congrArg Catalog.mk
  apply OrderedMap.ext_get?
  · rw [OrderedMap.keys_mapValues, OrderedMap.keys_ofList, OrderedMap.keys_ofList,
      keys_of_describes described]
  · intro name
    rw [OrderedMap.get?_mapValues, OrderedMap.get?_ofList, OrderedMap.get?_ofList,
      ← List.map_reverse]
    obtain ⟨noEntry, noBlock⟩ | ⟨entry, block, isEntry, isBlock, describes⟩ :=
      find?_of_describes name (List.forall₂_reverse_iff.mpr described)
    · rw [noEntry, noBlock]
      rfl
    · rw [isEntry, isBlock, Option.map_some, Option.some.injEq]
      obtain ⟨states, hasStates⟩ := exists_states_of_last complete isEntry
      obtain ⟨blockName, properties, blockStates⟩ := block
      obtain rfl : blockName = name := describes.name
      obtain rfl : properties = entry.properties := describes.properties
      obtain rfl : blockStates = states := describes.states states hasStates
      rw [blockOf, hasStates]
      rfl

theorem Catalog.builtFrom_of_complete {entries : List (String × BlockEntry)}
    (complete : firstWithoutStates? entries = none) :
    (Catalog.mk ((OrderedMap.ofList entries).mapValues blockOf)).BuiltFrom entries where
  added _ described := Catalog.foldl_add_of_describes described complete
  names := by rw [OrderedMap.keys_mapValues, OrderedMap.keys_ofList]
  last name entry last := by
    obtain ⟨states, hasStates⟩ := exists_states_of_last complete last
    refine ⟨states, hasStates, ?_⟩
    rw [Catalog.get?, OrderedMap.get?_mapValues, ← lastNamed?_eq_get?, last, Option.map_some,
      blockOf, hasStates]
    rfl
  keyed := by
    rintro ⟨name, block⟩ isEntry
    obtain ⟨entry, -, same⟩ := List.mem_map.mp isEntry
    cases same
    rfl

/-! ## Texts with repeated names -/

/-- A text of blocks of which some are written more than once or without states:
either the first name is reported of which the last block has no states, or the
text is read as the catalog that comes from adding the blocks one after the other.
No other block without states is an error. -/
theorem repeated_blocks_read {members : List Json.TreeMember} {text : String}
    {entries : List (String × BlockEntry)} (written : (Json.Tree.object members).WrittenAs text)
    (wellTyped : Json.memberEntries? Json.Tree.block? members = some entries) :
    (∀ name, firstWithoutStates? entries = some name →
        Catalog.read text = .error (.missingStates name)) ∧
      (firstWithoutStates? entries = none →
        ∃ catalog, Catalog.read text = .ok catalog ∧ catalog.BuiltFrom entries) ∧
      ∀ error, Catalog.read text = .error error →
        ∃ name entry, error = .missingStates name ∧ lastNamed? name entries = some entry ∧
          entry.states = none := by
  have isRead := Catalog.read_of_members written wellTyped
  refine ⟨?_, ?_, ?_⟩
  · intro name first
    rw [isRead, first]
  · intro complete
    rw [isRead, complete]
    exact ⟨_, rfl, Catalog.builtFrom_of_complete complete⟩
  · intro error failed
    rw [isRead] at failed
    cases first : firstWithoutStates? entries with
    | none =>
      rw [first] at failed
      cases failed
    | some name =>
      rw [first] at failed
      obtain ⟨entry, last, noStates⟩ := exists_last_of_firstWithoutStates first
      cases failed
      exact ⟨name, entry, rfl, last, noStates⟩

/-! A stone without states is written again behind a lamp. -/

def stoneMembers (lamp : Json.Tree) : List Json.TreeMember :=
  [(some "stone", .object []), (some "lamp", .object [(some "states", lamp)]),
    (some "stone", .object [(some "states", .list [])])]

def stoneCharacters (lamp : List Char) : List Char :=
  '\x7b' :: '"' :: ("stone".toList ++ '"' :: ':' :: '\x7b' :: '\x7d' :: ',' ::
    '"' :: ("lamp".toList ++ '"' :: ':' :: '\x7b' ::
      '"' :: ("states".toList ++ '"' :: ':' :: (lamp ++ '\x7d' :: ',' ::
        '"' :: ("stone".toList ++ '"' :: ':' :: '\x7b' ::
          '"' :: ("states".toList ++ '"' :: ':' :: '[' :: ']' :: '\x7d' :: '\x7d' :: []))))))

theorem stoneMembers_written {lamp : Json.Tree} (characters : List Char) {text : String}
    (isLamp : ∀ rest, Json.Written (.value lamp) (characters ++ '\x7d' :: rest) ('\x7d' :: rest))
    (isText : text.toList = stoneCharacters characters) :
    (Json.Tree.object (stoneMembers lamp)).WrittenAs text := by
  refine ⟨[], ?_, rfl⟩
  rw [isText]
  refine .object rfl (Json.written_rawMember "stone" (by decide) (.object rfl (.noMember rfl)) ?_)
  refine .nextMember rfl (Json.written_rawMember "lamp" (by decide)
    (.object rfl (Json.written_rawMember "states" (by decide) (isLamp _) (.lastMember rfl))) ?_)
  exact .nextMember rfl (Json.written_rawMember "stone" (by decide)
    (.object rfl (Json.written_rawMember "states" (by decide) (.list rfl (.noItem rfl))
      (.lastMember rfl))) (.lastMember rfl))

def stoneText (lamp : String) : String :=
  "\x7b\"stone\":\x7b\x7d,\"lamp\":\x7b\"states\":" ++ lamp ++
    "\x7d,\"stone\":\x7b\"states\":[]\x7d\x7d"

theorem repeated_blocks_read_of_stone :
    Catalog.read (stoneText "null") = .error (.missingStates "lamp") ∧
      ∃ catalog, Catalog.read (stoneText "[]") = .ok catalog ∧
        catalog.blocks.keys = ["stone", "lamp"] ∧ catalog.get? "stone" = some ⟨"stone", ∅, []⟩ := by
  have isNull : (Json.Tree.object (stoneMembers .null)).WrittenAs (stoneText "null") :=
    stoneMembers_written ['n', 'u', 'l', 'l'] (fun rest => .null rfl) (by decide)
  have isEmpty : (Json.Tree.object (stoneMembers (.list []))).WrittenAs (stoneText "[]") :=
    stoneMembers_written ['[', ']'] (fun rest => .list rfl (.noItem rfl)) (by decide)
  refine ⟨(repeated_blocks_read isNull rfl).1 "lamp" (by decide), ?_⟩
  obtain ⟨catalog, isRead, built⟩ := (repeated_blocks_read isEmpty rfl).2.1 (by decide)
  obtain ⟨states, isStates, found⟩ := built.last "stone" _ rfl
  cases isStates
  exact ⟨catalog, isRead, built.names, found⟩

end BlockStates
