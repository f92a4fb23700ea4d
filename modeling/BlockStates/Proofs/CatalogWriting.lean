import Mathlib.Data.List.Forall2
import BlockStates.Catalog.Basic
import BlockStates.Proofs.Json.TokenReading

/-!
# Ways to write a catalog

Blanks and escapes are free, the parts of blocks and states may stand in any
order, and empty properties may be left out.  A draft is what is written; it may
hold any whole numbers for identifiers, which a catalog may not.
-/

set_option autoImplicit false

namespace BlockStates

namespace Json

/-! ## Drafts -/

/-- A state as it is written: its identifier may be any whole number. -/
structure StateDraft where
  id : Int
  assignment : Assignment

structure BlockDraft where
  properties : Properties
  states : List StateDraft

structure CatalogDraft where
  blocks : List (String × BlockDraft)

def assignmentTokens (assignment : Assignment) : List Token :=
  objectTokens (assignment.entries.map fun entry => (entry.1, [.text entry.2]))

def propertiesTokens (properties : Properties) : List Token :=
  objectTokens (properties.entries.map fun entry =>
    (entry.1, listTokens (entry.2.map fun value => [.text value])))

/-- The members of an object that needs one part and may have properties, in any
order.  Properties that are empty may be left out. -/
inductive Arranged (needed properties : Member) (empty : Prop) : List Member → Prop where
  | propertiesFirst : Arranged needed properties empty [properties, needed]
  | propertiesLast : Arranged needed properties empty [needed, properties]
  | leftOut (isEmpty : empty) : Arranged needed properties empty [needed]

def StateDraft.WrittenAs (draft : StateDraft) (tokens : List Token) : Prop :=
  ∃ members, Arranged ("id", [integerToken draft.id])
      ("properties", assignmentTokens draft.assignment) (draft.assignment = ∅) members ∧
    tokens = objectTokens members

def BlockDraft.WrittenAs (draft : BlockDraft) (tokens : List Token) : Prop :=
  ∃ states members, List.Forall₂ StateDraft.WrittenAs draft.states states ∧
    Arranged ("states", listTokens states) ("properties", propertiesTokens draft.properties)
      (draft.properties = ∅) members ∧
    tokens = objectTokens members

def CatalogDraft.WrittenAs (draft : CatalogDraft) (text : String) : Prop :=
  ∃ members, List.Forall₂ (fun (entry : String × BlockDraft) (member : Member) =>
      member.1 = entry.1 ∧ entry.2.WrittenAs member.2) draft.blocks members ∧
    Spelled (objectTokens members) text.toList

def CatalogDraft.withId (draft : CatalogDraft) (block state : Nat) (id : Int) : CatalogDraft :=
  ⟨draft.blocks.modify block fun entry =>
    (entry.1, { entry.2 with
      states := entry.2.states.modify state fun draft => { draft with id := id } })⟩

/-! ## Every draft can be written -/

theorem writable_entries {Value : Type} {tokensOf : Value → List Token}
    (each : ∀ value, Writable (tokensOf value)) (entries : List (String × Value)) :
    Writable (objectTokens (entries.map fun entry => (entry.1, tokensOf entry.2))) :=
  writable_objectTokens (List.forall_mem_map.mpr fun entry _ => each entry.2)

theorem writable_assignmentTokens (assignment : Assignment) :
    Writable (assignmentTokens assignment) :=
  writable_entries writable_text assignment.entries

theorem writable_propertiesTokens (properties : Properties) :
    Writable (propertiesTokens properties) := by
  have values (texts : List String) : Writable (listTokens (texts.map fun text => [.text text])) :=
    writable_listTokens (List.forall_mem_map.mpr fun text _ => writable_text text)
  exact writable_entries values properties.entries

theorem StateDraft.exists_tokens (draft : StateDraft) :
    ∃ tokens, draft.WrittenAs tokens ∧ Writable tokens := by
  refine ⟨_, ⟨_, .propertiesLast, rfl⟩, writable_objectTokens ?_⟩
  have id := (integerToken_spelled draft.id).writable
  simp only [List.forall_mem_cons]
  exact ⟨id, writable_assignmentTokens draft.assignment, by simp⟩

theorem BlockDraft.exists_tokens (draft : BlockDraft) :
    ∃ tokens, draft.WrittenAs tokens ∧ Writable tokens := by
  choose tokensOf written writable using StateDraft.exists_tokens
  refine ⟨_, ⟨draft.states.map tokensOf, _, ?_, .propertiesLast, rfl⟩, writable_objectTokens ?_⟩
  · rw [List.forall₂_map_right_iff, List.forall₂_same]
    exact fun state _ => written state
  · have states : ∀ tokens ∈ draft.states.map tokensOf, Writable tokens :=
      List.forall_mem_map.mpr fun state _ => writable state
    simp only [List.forall_mem_cons]
    exact ⟨writable_listTokens states, writable_propertiesTokens draft.properties, by simp⟩

/-- Every draft has a text. -/
theorem CatalogDraft.exists_text (draft : CatalogDraft) : ∃ text, draft.WrittenAs text := by
  choose tokensOf written writable using BlockDraft.exists_tokens
  let memberOf (entry : String × BlockDraft) : Member := (entry.1, tokensOf entry.2)
  have members : ∀ member ∈ draft.blocks.map memberOf, Writable member.2 :=
    List.forall_mem_map.mpr fun entry _ => writable entry.2
  obtain ⟨characters, spelled⟩ := (writable_objectTokens members).exists_text
  refine ⟨String.ofList characters, draft.blocks.map memberOf, ?_, ?_⟩
  · rw [List.forall₂_map_right_iff, List.forall₂_same]
    exact fun entry _ => ⟨rfl, written entry.2⟩
  · rwa [String.toList_ofList]

/-! ## A block with a name beyond 16 bits -/

def smile (id : Int) : CatalogDraft :=
  ⟨[("😀", ⟨∅, [⟨id, ∅⟩]⟩)]⟩

def smilePieces (id : Int) : List (String × Token × List Char) :=
  [("", .opening .object, ['\x7b']),
    (" ", .text "😀", "\"\\ud83d\\uDE00\"".toList),
    (" ", .colon, [':']),
    (" ", .opening .object, ['\x7b']),
    ("", .text "states", "\"states\"".toList),
    ("", .colon, [':']),
    ("\n", .opening .list, ['[']),
    ("", .opening .object, ['\x7b']),
    ("", .text "properties", "\"properties\"".toList),
    ("", .colon, [':']),
    ("", .opening .object, ['\x7b']),
    ("", .closing .object, ['\x7d']),
    ("", .comma, [',']),
    (" ", .text "id", "\"id\"".toList),
    ("", .colon, [':']),
    ("", integerToken id, (toString id).toList),
    ("", .closing .object, ['\x7d']),
    ("", .closing .list, [']']),
    ("", .closing .object, ['\x7d']),
    ("", .closing .object, ['\x7d'])]

theorem smile_spelled :
    Token.Spelled (.text "😀") "\"\\ud83d\\uDE00\"".toList := by
  have isHigh : SpellsUnit 0xD83D ['d', '8', '3', 'd'] :=
    @SpellsUnit.digits 0xD 0x8 0x3 0xD _ _ _ _ (by decide) (by decide) (by decide) (by decide)
  have isLow : SpellsUnit 0xDE00 ['D', 'E', '0', '0'] :=
    @SpellsUnit.digits 0xD 0xE 0x0 0x0 _ _ _ _ (by decide) (by decide) (by decide) (by decide)
  have piece : SpellsCharacter '😀' _ := .pair (by decide) isHigh isLow
  have text : SpellsText "😀".toList _ := .cons piece .nil
  exact .text text

theorem smilePieces_spelled (id : Int) :
    ∀ piece ∈ smilePieces id, Blank piece.1.toList ∧ piece.2.1.Spelled piece.2.2 := by
  have isName (name : String) (raw : name.toList.all isRaw = true) :
      Token.Spelled (.text name) ('"' :: (name.toList ++ ['"'])) :=
    .text (spellsText_of_isRaw raw)
  have space : Blank " ".toList := by decide
  have newline : Blank "\n".toList := by decide
  have noBlank : Blank "".toList := by decide
  simp only [smilePieces, List.forall_mem_cons]
  exact ⟨⟨noBlank, .mark rfl⟩, ⟨space, smile_spelled⟩, ⟨space, .mark rfl⟩, ⟨space, .mark rfl⟩,
    ⟨noBlank, isName "states" (by decide)⟩, ⟨noBlank, .mark rfl⟩, ⟨newline, .mark rfl⟩,
    ⟨noBlank, .mark rfl⟩, ⟨noBlank, isName "properties" (by decide)⟩, ⟨noBlank, .mark rfl⟩,
    ⟨noBlank, .mark rfl⟩, ⟨noBlank, .mark rfl⟩, ⟨noBlank, .mark rfl⟩,
    ⟨space, isName "id" (by decide)⟩, ⟨noBlank, .mark rfl⟩,
    ⟨noBlank, integerToken_spelled id⟩, ⟨noBlank, .mark rfl⟩, ⟨noBlank, .mark rfl⟩,
    ⟨noBlank, .mark rfl⟩, ⟨noBlank, .mark rfl⟩, by simp⟩

theorem smile_written (id : Int) {text : String}
    (isText : text.toList = (smilePieces id).flatMap fun piece => piece.1.toList ++ piece.2.2) :
    (smile id).WrittenAs text := by
  refine ⟨[("😀", objectTokens [("states", _)])], .cons ⟨rfl, _, _,
    .cons ⟨_, .propertiesFirst, rfl⟩ .nil, .leftOut rfl, rfl⟩ .nil, ?_⟩
  rw [isText]
  exact spelled_of_pieces (smilePieces_spelled id)

def smileText (digits : String) : String :=
  "\x7b \"\\ud83d\\uDE00\" : \x7b\"states\":\n[\x7b\"properties\":\x7b\x7d, \"id\":" ++ digits ++
    "\x7d]\x7d\x7d"

end Json

/-! ## Drafts of catalogs -/

def State.draft (state : State) : Json.StateDraft :=
  ⟨state.id.toNat, state.assignment⟩

def Block.draft (block : Block) : Json.BlockDraft :=
  ⟨block.properties, block.states.map State.draft⟩

def Catalog.draft (catalog : Catalog) : Json.CatalogDraft :=
  ⟨catalog.blocks.entries.map fun entry => (entry.1, entry.2.draft)⟩

end BlockStates
