import BlockStates.Proofs.RawNames

/-!
# The algebra of raw names

What stands on the two sides of a separator is written apart, wherever the separator is
and whatever stands beside it.  What has been written holds no separator and opens with
a character that is its own upper-case form, and such a text is written as it stands.
`writing_composes_and_settles` puts this together with the rule for a text in one
segment, to which composing brings down every raw name.
-/

set_option autoImplicit false

namespace BlockStates.Identifier

theorem unparted_iff {text : String} :
    (∀ separator ∈ ['_', ':', '-'], separator ∉ text.toList) ↔
      ∀ character ∈ text.toList, isSeparator character = false := by
  constructor
  · intro noMark character member
    rw [← Bool.not_eq_true, isSeparator_iff]
    exact fun isMark => noMark character isMark member
  · intro unparted separator isMark member
    exact Bool.false_ne_true ((unparted separator member).symm.trans (isSeparator_iff.mpr isMark))

/-- A text as it is after writing: in one segment, and opened by a character that is its
own upper-case form. -/
structure IsWritten (text : String) : Prop where
  unparted : ∀ character ∈ text.toList, isSeparator character = false
  opening : ∀ first rest, text.toList = first :: rest → Text.upperCase first = [first]

theorem isWritten_ofRaw (raw : String) : IsWritten (ofRaw raw) where
  unparted _ member := not_separator_of_mem_ofRaw member
  opening _ _ isText := by
    obtain ⟨_, _, _, _, -, isForm⟩ := exists_form_of_ofRaw isText
    exact Text.upperCase_of_upperCase_eq_cons isForm

theorem IsWritten.ofRaw_eq {text : String} (written : IsWritten text) : ofRaw text = text := by
  apply String.toList_inj.mp
  rw [toList_ofRaw_of_unparted written.unparted]
  cases isText : text.toList with
  | nil => rfl
  | cons first rest =>
    rw [capitalize, written.opening first rest isText]
    rfl

/-- Writing leaves exactly those texts alone that look as if written. -/
theorem ofRaw_eq_self_iff {text : String} : ofRaw text = text ↔ IsWritten text :=
  ⟨fun same => same ▸ isWritten_ofRaw text, IsWritten.ofRaw_eq⟩

/-- What a separator parts is written apart and put together, no separator is left, and
writing again changes nothing.  Of a text without separators only the first character
is changed, to its upper-case form. -/
theorem writing_composes_and_settles (first second raw : String) :
    (∀ separator ∈ ['_', ':', '-'],
      ofRaw (first ++ String.singleton separator ++ second) = ofRaw first ++ ofRaw second) ∧
    (∀ separator ∈ ['_', ':', '-'], separator ∉ (ofRaw raw).toList) ∧
    ofRaw (ofRaw raw) = ofRaw raw ∧
    ((∀ separator ∈ ['_', ':', '-'], separator ∉ raw.toList) →
      (ofRaw raw).toList = capitalize raw.toList) := by
  have written : IsWritten (ofRaw raw) := isWritten_ofRaw raw
  refine ⟨?composes, unparted_iff.mpr written.unparted, ofRaw_eq_self_iff.mpr written, ?segment⟩
  case composes =>
    intro separator isMark
    exact ofRaw_append_separator (isSeparator_iff.mpr isMark) first second
  case segment =>
    intro noMark
    exact toList_ofRaw_of_unparted (unparted_iff.mp noMark)

/-- A colon beside another separator, and a letter whose upper-case form opens with a mark
that has no case. -/
theorem writing_composes_and_settles_of_firLog :
    (':' ∈ ['_', ':', '-'] ∧
      ofRaw ("\uFB01r" ++ String.singleton ':' ++ "_log-") = ofRaw "\uFB01r" ++ ofRaw "_log-" ∧
      ofRaw "\uFB01r" ++ ofRaw "_log-" = "FIrLog") ∧
    (':' ∉ (ofRaw "\u0149ord").toList ∧ ofRaw (ofRaw "\u0149ord") = ofRaw "\u0149ord") ∧
    (∀ separator ∈ ['_', ':', '-'], separator ∉ "\u0149ord".toList) ∧
      (ofRaw "\u0149ord").toList = capitalize "\u0149ord".toList ∧
      ofRaw "\u0149ord" = "\u02BCNord" := by
  obtain ⟨composes, noneLeft, settles, segment⟩ :=
    writing_composes_and_settles "\uFB01r" "_log-" "\u0149ord"
  have isMark : ':' ∈ ['_', ':', '-'] := by decide
  have unparted : ∀ separator ∈ ['_', ':', '-'], separator ∉ "\u0149ord".toList := by
    rw [List.forall_mem_cons, List.forall_mem_cons, List.forall_mem_singleton]
    decide
  exact ⟨⟨isMark, composes ':' isMark, by decide +kernel⟩, ⟨noneLeft ':' isMark, settles⟩,
    unparted, segment unparted, by decide +kernel⟩

end BlockStates.Identifier
