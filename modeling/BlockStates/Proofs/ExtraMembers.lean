import BlockStates.Generation
import BlockStates.Proofs.Json.AcceptedTexts

/-!
# Members that mean nothing

A block and a state may have members besides the two that each of them knows, with
any values.  Wherever such members are put, the text is read as the same catalog,
so that the same unit is generated.
-/

set_option autoImplicit false

namespace BlockStates

namespace Json

/-! ## More members -/

/-- Members among which others are put, none of them with a known name. -/
inductive Supplemented (known : List String) (Alike : TreeMember → TreeMember → Prop) :
    List TreeMember → List TreeMember → Prop where
  | done : Supplemented known Alike [] []
  | kept {member other : TreeMember} {members others : List TreeMember}
      (alike : Alike member other) (later : Supplemented known Alike members others) :
      Supplemented known Alike (member :: members) (other :: others)
  | extra {name : String} {value : Tree} {members others : List TreeMember} (unknown : name ∉ known)
      (later : Supplemented known Alike members others) :
      Supplemented known Alike members ((some name, value) :: others)

inductive Tree.StateSupplemented : Tree → Tree → Prop where
  | same (tree : Tree) : StateSupplemented tree tree
  | object {members others : List TreeMember}
      (supplemented : Supplemented ["id", "properties"] Eq members others) :
      StateSupplemented (.object members) (.object others)

inductive Tree.StatesSupplemented : Tree → Tree → Prop where
  | same (tree : Tree) : StatesSupplemented tree tree
  | list {items others : List Tree} (all : List.Forall₂ Tree.StateSupplemented items others) :
      StatesSupplemented (.list items) (.list others)

/-- A member of a block that is kept, with more members in the states if it holds
them. -/
inductive BlockMemberAlike : TreeMember → TreeMember → Prop where
  | same (member : TreeMember) : BlockMemberAlike member member
  | states {tree other : Tree} (supplemented : tree.StatesSupplemented other) :
      BlockMemberAlike (some "states", tree) (some "states", other)

inductive Tree.BlockSupplemented : Tree → Tree → Prop where
  | same (tree : Tree) : BlockSupplemented tree tree
  | object {members others : List TreeMember}
      (supplemented : Supplemented ["properties", "states"] BlockMemberAlike members others) :
      BlockSupplemented (.object members) (.object others)

inductive Tree.CatalogSupplemented : Tree → Tree → Prop where
  | object {members others : List TreeMember}
      (all : List.Forall₂ (fun member other : TreeMember =>
        member.1 = other.1 ∧ member.2.BlockSupplemented other.2) members others) :
      CatalogSupplemented (.object members) (.object others)

/-! ## The meaning stays -/

/-- If the members that are kept stand for the same, so do all. -/
theorem Supplemented.twoParts?_eq {First Second : Type} {firstName secondName : String}
    (distinct : firstName ≠ secondName) {first? : Tree → Option First}
    {second? : Tree → Option Second} {Alike : TreeMember → TreeMember → Prop}
    (sameMeaning : ∀ member other, Alike member other → member.1 = other.1 ∧
      (member.1 = some firstName → first? member.2 = first? other.2) ∧
      (member.1 = some secondName → second? member.2 = second? other.2))
    {members others : List TreeMember}
    (supplemented : Supplemented [firstName, secondName] Alike members others)
    (given : Option First × Option Second) :
    twoParts? firstName secondName first? second? given others =
      twoParts? firstName secondName first? second? given members := by
  induction supplemented generalizing given with
  | done => rfl
  | @extra name value _ _ unknown _ laterSame =>
    have notFirst : name ≠ firstName := fun isFirst => unknown (isFirst ▸ List.mem_cons_self)
    have notSecond : name ≠ secondName := fun isSecond => unknown (by simp [isSecond])
    rw [twoParts?_other notFirst notSecond, laterSame]
  | @kept member other _ _ alike _ laterSame =>
    obtain ⟨name, tree⟩ := member
    obtain ⟨otherName, otherTree⟩ := other
    obtain ⟨sameName, sameFirst, sameSecond⟩ := sameMeaning _ _ alike
    obtain rfl : name = otherName := sameName
    cases name with
    | none => rw [twoParts?_nameless, twoParts?_nameless]
    | some name =>
      by_cases isFirst : name = firstName
      · subst isFirst
        have sameValue : first? tree = first? otherTree := sameFirst rfl
        simp only [twoParts?_first distinct, sameValue, laterSame]
      · by_cases isSecond : name = secondName
        · subst isSecond
          have sameValue : second? tree = second? otherTree := sameSecond rfl
          simp only [twoParts?_second distinct, sameValue, laterSame]
        · rw [twoParts?_other isFirst isSecond, twoParts?_other isFirst isSecond, laterSame]

theorem Tree.StateSupplemented.state?_eq {tree other : Tree}
    (supplemented : tree.StateSupplemented other) : other.state? = tree.state? := by
  cases supplemented with
  | same => rfl
  | object supplemented =>
    have sameMeaning (member other : TreeMember) (same : member = other) :
        member.1 = other.1 ∧ (member.1 = some "id" → member.2.id? = other.2.id?) ∧
          (member.1 = some "properties" → member.2.assignment? = other.2.assignment?) := by
      subst same
      exact ⟨rfl, fun _ => rfl, fun _ => rfl⟩
    have sameParts := supplemented.twoParts?_eq (by decide) sameMeaning (none, none)
    rw [Tree.state?, Tree.state?, sameParts]

theorem mapM_eq_of_forall₂ {Item Value : Type} {meaning : Item → Option Value}
    {items others : List Item}
    (all : List.Forall₂ (fun item other => meaning other = meaning item) items others) :
    others.mapM meaning = items.mapM meaning := by
  induction all with
  | nil => rfl
  | cons same _ laterSame => rw [List.mapM_cons, List.mapM_cons, same, laterSame]

theorem Tree.StatesSupplemented.states?_eq {tree other : Tree}
    (supplemented : tree.StatesSupplemented other) : other.states? = tree.states? := by
  cases supplemented with
  | same => rfl
  | list all =>
    have sameStates := mapM_eq_of_forall₂ (all.imp fun _ _ supplemented => supplemented.state?_eq)
    simp only [Tree.states?, Tree.optional?, Tree.list?, sameStates]

theorem Tree.BlockSupplemented.block?_eq {tree other : Tree}
    (supplemented : tree.BlockSupplemented other) : other.block? = tree.block? := by
  cases supplemented with
  | same => rfl
  | object supplemented =>
    have sameMeaning (member other : TreeMember) (alike : BlockMemberAlike member other) :
        member.1 = other.1 ∧
          (member.1 = some "properties" → member.2.properties? = other.2.properties?) ∧
          (member.1 = some "states" → member.2.states? = other.2.states?) := by
      cases alike with
      | same => exact ⟨rfl, fun _ => rfl, fun _ => rfl⟩
      | states supplemented =>
        exact ⟨rfl, by simp, fun _ => supplemented.states?_eq.symm⟩
    have sameParts := supplemented.twoParts?_eq (by decide) sameMeaning (none, none)
    rw [Tree.block?, Tree.block?, sameParts]

theorem memberEntries?_eq {Value : Type} {value? : Tree → Option Value}
    {members others : List TreeMember}
    (all : List.Forall₂ (fun member other : TreeMember =>
      member.1 = other.1 ∧ value? other.2 = value? member.2) members others) :
    memberEntries? value? others = memberEntries? value? members := by
  apply mapM_eq_of_forall₂
  apply all.imp
  rintro member other ⟨sameName, sameValue⟩
  rw [sameName, sameValue]

theorem Tree.CatalogSupplemented.blocks_eq {tree other : Tree}
    (supplemented : tree.CatalogSupplemented other) :
    other.map? Tree.block? = tree.map? Tree.block? := by
  cases supplemented with
  | object all =>
    have sameEntries := memberEntries?_eq
      (all.imp fun _ _ alike => And.intro alike.1 alike.2.block?_eq)
    rw [Tree.map?, Tree.map?, sameEntries]

end Json

/-! ## The text is read as the same -/

theorem Catalog.exists_entries_of_read {text : String} {catalog : Catalog}
    (isRead : Catalog.read text = .ok catalog) :
    ∃ entries, Json.blockEntries text = .ok entries ∧
      Catalog.empty.addEntries entries.entries = .ok catalog := by
  unfold Catalog.read at isRead
  split at isRead
  · cases isRead
  · next entries entriesRead => exact ⟨entries, entriesRead, isRead⟩

theorem Catalog.read_of_supplemented {text other : String} {document supplemented : Json.Tree}
    {catalog : Catalog} (isRead : Catalog.read text = .ok catalog)
    (written : document.WrittenAs text) (isSupplemented : document.CatalogSupplemented supplemented)
    (otherWritten : supplemented.WrittenAs other) : Catalog.read other = .ok catalog := by
  obtain ⟨entries, entriesRead, added⟩ := Catalog.exists_entries_of_read isRead
  rw [written.blockEntries_eq_ok_iff, ← isSupplemented.blocks_eq,
    ← otherWritten.blockEntries_eq_ok_iff] at entriesRead
  rw [Catalog.read, entriesRead]
  exact added

/-- A text that is read is a JSON text.  However it is written, and whatever
members with other names are put into its blocks and states, with values of any
depth and size: the new text is read as the same catalog and gives the same unit. -/
theorem extra_members_ignored {text : String} {catalog : Catalog}
    (isRead : Catalog.read text = .ok catalog) :
    (∃ document : Json.Tree, document.WrittenAs text) ∧
      ∀ document supplemented : Json.Tree, document.WrittenAs text →
        document.CatalogSupplemented supplemented → ∀ other, supplemented.WrittenAs other →
          Catalog.read other = .ok catalog ∧
            ∀ options, generate other options = generate text options := by
  constructor
  · obtain ⟨entries, entriesRead, -⟩ := Catalog.exists_entries_of_read isRead
    obtain ⟨members, -, written, -⟩ := Json.blockEntries_eq_ok_iff.mp entriesRead
    exact ⟨_, written⟩
  · intro document supplemented written isSupplemented other otherWritten
    have otherRead := Catalog.read_of_supplemented isRead written isSupplemented otherWritten
    refine ⟨otherRead, fun options => ?_⟩
    rw [generate, generate, otherRead, isRead]

/-! A lamp and its state get a number beyond any bound and half of a surrogate pair. -/

namespace Json

def lampStates (notes : List TreeMember) : TreeMember :=
  (some "states", .list [.object (notes ++ [(some "id", .number ['7'])])])

def lampTree (notes : List TreeMember) : Tree :=
  .object [(some "lamp", .object (notes ++ [lampStates notes]))]

def lampCharacters (notes : List Char) : List Char :=
  '\x7b' :: '"' :: ("lamp".toList ++ '"' :: ':' :: '\x7b' :: (notes ++
    '"' :: ("states".toList ++ '"' :: ':' :: '[' :: '\x7b' :: (notes ++
      '"' :: ("id".toList ++ '"' :: ':' :: '7' :: '\x7d' :: ']' :: '\x7d' :: '\x7d' :: [])))))

def lampNote : TreeMember :=
  (some "note", .list [.number ['1', 'e', '9', '9', '9'], .text none])

def lampNoteCharacters : List Char :=
  '"' :: ("note".toList ++ '"' :: ':' :: '[' :: '1' :: 'e' :: '9' :: '9' :: '9' :: ',' ::
    '"' :: '\\' :: 'u' :: 'd' :: '8' :: '0' :: '0' :: '"' :: ']' :: ',' :: [])

theorem seven_isNumber : IsNumber ['7'] := by
  have isWhole : IsWhole ['7'] := .digits rfl (by decide) (by decide)
  exact .positive (.parts isWhole .absent .absent)

theorem large_isNumber : IsNumber ['1', 'e', '9', '9', '9'] := by
  have isWhole : IsWhole ['1'] := .digits rfl (by decide) (by decide)
  have isExponent : IsExponent ('e' :: ([] ++ ['9', '9', '9'])) :=
    .digits rfl .absent rfl (by decide)
  exact .positive (.parts isWhole .absent isExponent)

theorem loneSurrogate_spells : SpellsContent none ['\\', 'u', 'd', '8', '0', '0'] := by
  have isUnit : SpellsUnit 0xD800 ['d', '8', '0', '0'] :=
    @SpellsUnit.digits 0xD 0x8 0x0 0x0 _ _ _ _ (by decide) (by decide) (by decide) (by decide)
  refine .noValue (StringPiece.unit isUnit).isString fun value spells => ?_
  have isRead := spells.readString_eq []
  rw [List.cons_append, readString] at isRead
  simp only [Char.reduceEq, if_false, if_true] at isRead
  split at isRead
  · cases isRead
  · next escapeRead => cases escapeRead

theorem lampNote_written {member : TreeMember} {members : List TreeMember}
    {behind rest : List Char} (later : Written (.members (member :: members)) behind rest) :
    Written (.members (lampNote :: member :: members)) (lampNoteCharacters ++ behind) rest := by
  have surrogate (rest : List Char) :
      Written (.value (.text none)) ('"' :: (['\\', 'u', 'd', '8', '0', '0'] ++ '"' :: rest))
        rest :=
    .text rfl loneSurrogate_spells
  have number (rest : List Char) :
      Written (.value (.number ['1', 'e', '9', '9', '9']))
        (['1', 'e', '9', '9', '9'] ++ ',' :: rest) (',' :: rest) :=
    .number rfl large_isNumber (ended_of_mark rfl (by decide))
  exact written_rawMember "note" (by decide)
    (.list rfl (.firstItem (number _) (.nextItem rfl (.firstItem (surrogate _) (.lastItem rfl)))))
    (.nextMember rfl later)

theorem lampTree_written (notes : List TreeMember) (characters : List Char) {text : String}
    (areNotes : ∀ {member members behind rest}, Written (.members (member :: members)) behind rest →
      Written (.members (notes ++ member :: members)) (characters ++ behind) rest)
    (isText : text.toList = lampCharacters characters) : (lampTree notes).WrittenAs text := by
  have seven (rest : List Char) :
      Written (.value (.number ['7'])) (['7'] ++ '\x7d' :: rest) ('\x7d' :: rest) :=
    .number rfl seven_isNumber (ended_of_mark rfl (by decide))
  refine ⟨[], ?_, rfl⟩
  rw [isText]
  exact .object rfl (written_rawMember "lamp" (by decide)
    (.object rfl (areNotes (written_rawMember "states" (by decide)
      (.list rfl (.firstItem
        (.object rfl (areNotes (written_rawMember "id" (by decide) (seven _) (.lastMember rfl))))
        (.lastItem rfl)))
      (.lastMember rfl))))
    (.lastMember rfl))

def lampText (notes : String) : String :=
  "\x7b\"lamp\":\x7b" ++ notes ++ "\"states\":[\x7b" ++ notes ++ "\"id\":7\x7d]\x7d\x7d"

theorem lampTree_supplemented : (lampTree []).CatalogSupplemented (lampTree [lampNote]) := by
  have state : Supplemented ["id", "properties"] Eq [(some "id", .number ['7'])]
      [lampNote, (some "id", .number ['7'])] := .extra (by decide) (.kept rfl .done)
  have states : BlockMemberAlike (lampStates []) (lampStates [lampNote]) :=
    .states (.list (.cons (.object state) .nil))
  have block : Supplemented ["properties", "states"] BlockMemberAlike [lampStates []]
      [lampNote, lampStates [lampNote]] := .extra (by decide) (.kept states .done)
  exact .object (.cons ⟨rfl, .object block⟩ .nil)

end Json

theorem extra_members_ignored_of_lamp :
    Catalog.read (Json.lampText "") = .ok ⟨.ofList [("lamp", ⟨"lamp", ∅, [⟨7, ∅⟩]⟩)]⟩ ∧
      Catalog.read (Json.lampText "\"note\":[1e999,\"\\ud800\"],") =
        .ok ⟨.ofList [("lamp", ⟨"lamp", ∅, [⟨7, ∅⟩]⟩)]⟩ := by
  have written : (Json.lampTree []).WrittenAs (Json.lampText "") :=
    Json.lampTree_written [] [] id (by decide)
  have noted : (Json.lampTree [Json.lampNote]).WrittenAs
      (Json.lampText "\"note\":[1e999,\"\\ud800\"],") :=
    Json.lampTree_written [Json.lampNote] Json.lampNoteCharacters Json.lampNote_written (by decide)
  have isRead : Catalog.read (Json.lampText "") =
      .ok ⟨.ofList [("lamp", ⟨"lamp", ∅, [⟨7, ∅⟩]⟩)]⟩ := by
    rw [Catalog.read, Json.blockEntries_eq_ok_iff.mpr ⟨_, _, written, rfl, rfl⟩]
    rfl
  have ignored := (extra_members_ignored isRead).2
  exact ⟨isRead, (ignored _ _ written Json.lampTree_supplemented _ noted).1⟩

end BlockStates
