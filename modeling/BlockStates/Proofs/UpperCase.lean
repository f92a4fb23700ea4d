import BlockStates.Text.UpperCase

/-!
# Upper-case forms

What the characters of an upper-case form can be.  Within ASCII they are capitals,
unless the character stands for itself, and the first one is always its own upper-case
form.  For the table this is read off its runs: their images fall on no character that
the table moves.
-/

set_option autoImplicit false

namespace BlockStates.Text

/-! ## The characters of a form -/

/-- The code point of a capital or of a character beyond ASCII. -/
def IsCapitalOrBeyond (code : Nat) : Prop :=
  (0x41 ≤ code ∧ code ≤ 0x5A) ∨ (0x80 ≤ code ∧ code.isValidChar)

instance (code : Nat) : Decidable (IsCapitalOrBeyond code) :=
  inferInstanceAs (Decidable (_ ∨ _))

theorem capitalOrBeyond_expansions :
    ∀ entry ∈ upperCaseExpansions, ∀ code ∈ entry.2, IsCapitalOrBeyond code := by
  decide +kernel

/-- The images of a run lie between those of its two ends. -/
theorem capitalOrBeyond_ends :
    ∀ run ∈ upperCaseRuns,
      (0x41 ≤ run.image ∧ run.image + (run.last - run.first) ≤ 0x5A) ∨
      (0x80 ≤ run.image ∧ run.image + (run.last - run.first) < 0xD800) ∨
      (0xE000 ≤ run.image ∧ run.image + (run.last - run.first) < 0x110000) := by
  decide +kernel

theorem toNat_ofNat {code : Nat} (valid : code.isValidChar) : (Char.ofNat code).toNat = code := by
  rw [Char.ofNat, dif_pos valid]
  rfl

theorem IsCapitalOrBeyond.toNat_eq {code : Nat} (isCode : IsCapitalOrBeyond code) :
    (Char.ofNat code).toNat = code := by
  apply toNat_ofNat
  rcases isCode with capital | ⟨-, valid⟩
  · exact Or.inl (by omega)
  · exact valid

theorem IsCapitalOrBeyond.toNat_ofNat {code : Nat} (isCode : IsCapitalOrBeyond code) :
    IsCapitalOrBeyond (Char.ofNat code).toNat := by
  rwa [isCode.toNat_eq]

/-- Where a run moves one of its characters to. -/
theorem CaseRun.capitalOrBeyond_image {run : CaseRun} (listed : run ∈ upperCaseRuns) {code : Nat}
    (covers : run.covers code = true) :
    IsCapitalOrBeyond (run.image + (code - run.first)) := by
  simp only [CaseRun.covers, Bool.and_eq_true, decide_eq_true_eq] at covers
  rcases capitalOrBeyond_ends run listed with capital | low | high
  · exact Or.inl (by omega)
  · exact Or.inr ⟨by omega, Or.inl (by omega)⟩
  · exact Or.inr ⟨by omega, Or.inr (by omega)⟩

theorem capitalOrBeyond_upperCaseByTable {character image : Char} (beyond : 0x80 ≤ character.toNat)
    (isImage : image ∈ upperCaseByTable character) : IsCapitalOrBeyond image.toNat := by
  unfold upperCaseByTable at isImage
  split at isImage
  · next codes found =>
    obtain ⟨code, isCode, rfl⟩ := List.mem_map.mp isImage
    exact (capitalOrBeyond_expansions _ (List.mem_of_find?_eq_some found) code isCode).toNat_ofNat
  · split at isImage
    · next run found =>
      obtain rfl := List.mem_singleton.mp isImage
      have covers := List.find?_some found
      exact (CaseRun.capitalOrBeyond_image (List.mem_of_find?_eq_some found) covers).toNat_ofNat
    · obtain rfl := List.mem_singleton.mp isImage
      exact Or.inr ⟨beyond, image.valid⟩

theorem isUpper_iff (character : Char) :
    character.isUpper = true ↔ 0x41 ≤ character.toNat ∧ character.toNat ≤ 0x5A := by
  change decide ('A'.val ≤ character.val ∧ character.val ≤ 'Z'.val) = true ↔ _
  simp [UInt32.le_iff_toNat_le, ← Char.toNat_val]

theorem isLower_iff (character : Char) :
    character.isLower = true ↔ 0x61 ≤ character.toNat ∧ character.toNat ≤ 0x7A := by
  change (decide ('a'.val ≤ character.val) && decide (character.val ≤ 'z'.val)) = true ↔ _
  simp [UInt32.le_iff_toNat_le, ← Char.toNat_val]

/-- An upper-case form has no small ASCII letters. -/
theorem isUpper_of_mem_upperCase {character image : Char} (isImage : image ∈ upperCase character)
    (isAlpha : image.isAlpha = true) : image.isUpper = true := by
  unfold upperCase at isImage
  split at isImage
  · next ascii =>
    have all : ∀ code < 0x80, (Char.ofNat code).toUpper.isAlpha = true →
        (Char.ofNat code).toUpper.isUpper = true := by
      decide +kernel
    have own := all character.toNat ascii
    rw [Char.ofNat_toNat] at own
    obtain rfl := List.mem_singleton.mp isImage
    exact own isAlpha
  · next notAscii =>
    have isCode := capitalOrBeyond_upperCaseByTable (by omega) isImage
    change (image.isUpper || image.isLower) = true at isAlpha
    rw [Bool.or_eq_true, isUpper_iff, isLower_iff] at isAlpha
    rw [isUpper_iff]
    rcases isCode with capital | ⟨beyond, -⟩ <;> omega

/-- An ASCII character that is no capital is only in its own upper-case form. -/
theorem eq_of_mem_upperCase {character image : Char} (isImage : image ∈ upperCase character)
    (ascii : image.toNat < 0x80) (noCapital : image.isUpper = false) : image = character := by
  unfold upperCase at isImage
  split at isImage
  · next fromAscii =>
    have all : ∀ code < 0x80, (Char.ofNat code).toUpper.isUpper = false →
        (Char.ofNat code).toUpper = Char.ofNat code := by
      decide +kernel
    have own := all character.toNat fromAscii
    rw [Char.ofNat_toNat] at own
    obtain rfl := List.mem_singleton.mp isImage
    exact own noCapital
  · next notAscii =>
    have isCode := capitalOrBeyond_upperCaseByTable (by omega) isImage
    rw [← Bool.not_eq_true, isUpper_iff] at noCapital
    rcases isCode with capital | ⟨beyond, -⟩ <;> omega

theorem upperCase_ne_nil (character : Char) : upperCase character ≠ [] := by
  have expanded : ∀ entry ∈ upperCaseExpansions, entry.2 ≠ [] := by decide +kernel
  unfold upperCase upperCaseByTable
  split
  · simp
  · split
    · next found =>
      simpa using expanded _ (List.mem_of_find?_eq_some found)
    · split <;> simp

/-! ## The first character of a form -/

/-- Whether the images of a run fall on no character of another one: they end in front of
them, start behind them, or both go by twos and never meet. -/
def CaseRun.misses (run other : CaseRun) : Bool :=
  (run.image + (run.last - run.first)).blt other.first || other.last.blt run.image ||
    (other.step == 2 && (run.last == run.first || run.step == 2) &&
      run.image % 2 != other.first % 2)

theorem CaseRun.not_covers_of_misses {run other : CaseRun} {code : Nat}
    (misses : run.misses other = true) (covers : run.covers code = true) :
    other.covers (run.image + (code - run.first)) = false := by
  simp only [CaseRun.misses, CaseRun.covers, Bool.and_eq_true, Bool.or_eq_true, Nat.blt_eq,
    decide_eq_true_eq, beq_iff_eq, bne_iff_ne] at misses covers
  simp only [CaseRun.covers, Bool.and_eq_false_iff, decide_eq_false_iff_not, beq_eq_false_iff_ne]
  obtain ⟨⟨starts, ends⟩, stepwise⟩ := covers
  rcases misses with (before | behind) | ⟨⟨byTwos, alike⟩, parity⟩
  · exact Or.inl (Or.inl (by omega))
  · exact Or.inl (Or.inr (by omega))
  · have even : (code - run.first) % 2 = 0 := by
      rcases alike with single | runByTwos
      · omega
      · rwa [runByTwos] at stepwise
    rw [byTwos]
    omega

theorem runs_miss_runs :
    (upperCaseRuns.all fun run => upperCaseRuns.all fun other => run.misses other) = true := by
  decide +kernel

theorem runs_miss_expansions :
    (upperCaseRuns.all fun run => upperCaseExpansions.all fun entry =>
      (run.image + (run.last - run.first)).blt entry.1 || entry.1.blt run.image) = true := by
  decide +kernel

theorem upperCase_of_unlisted {character : Char} (beyond : 0x80 ≤ character.toNat)
    (notExpanded : ∀ entry ∈ upperCaseExpansions, entry.1 ≠ character.toNat)
    (notMoved : ∀ run ∈ upperCaseRuns, run.covers character.toNat = false) :
    upperCase character = [character] := by
  have noExpansion : upperCaseExpansions.find? (·.1 == character.toNat) = none :=
    List.find?_eq_none.mpr fun entry listed => by simpa using notExpanded entry listed
  have noRun : upperCaseRuns.find? (·.covers character.toNat) = none :=
    List.find?_eq_none.mpr fun run listed => by simpa using notMoved run listed
  rw [upperCase, if_neg (Nat.not_lt.mpr beyond), upperCaseByTable, noExpansion]
  simp only [noRun]

theorem upperCase_capital {code : Nat} (capital : 0x41 ≤ code ∧ code ≤ 0x5A) :
    upperCase (Char.ofNat code) = [Char.ofNat code] := by
  have all : ∀ code ≤ 0x5A, 0x41 ≤ code →
      upperCase (Char.ofNat code) = [Char.ofNat code] := by
    decide +kernel
  exact all code capital.2 capital.1

/-- A character that a run moves is not moved on. -/
theorem CaseRun.upperCase_image {run : CaseRun} (listed : run ∈ upperCaseRuns) {code : Nat}
    (covers : run.covers code = true) :
    upperCase (Char.ofNat (run.image + (code - run.first))) =
      [Char.ofNat (run.image + (code - run.first))] := by
  have isCode := capitalOrBeyond_image listed covers
  have sameCode := isCode.toNat_eq
  rcases isCode with capital | ⟨beyond, -⟩
  · exact upperCase_capital capital
  · apply upperCase_of_unlisted (sameCode.symm ▸ beyond)
    · intro entry isEntry
      have missed := List.all_eq_true.mp (List.all_eq_true.mp runs_miss_expansions run listed)
        entry isEntry
      simp only [Bool.or_eq_true, Nat.blt_eq] at missed
      simp only [CaseRun.covers, Bool.and_eq_true, decide_eq_true_eq] at covers
      rw [sameCode]
      omega
    · intro other isOther
      have misses := List.all_eq_true.mp (List.all_eq_true.mp runs_miss_runs run listed)
        other isOther
      rw [sameCode]
      exact not_covers_of_misses misses covers

/-- The first character of an upper-case form is its own. -/
theorem upperCase_of_upperCase_eq_cons {character first : Char} {rest : List Char}
    (isForm : upperCase character = first :: rest) : upperCase first = [first] := by
  have form := isForm
  unfold upperCase at isForm
  split at isForm
  · next ascii =>
    have all : ∀ code < 0x80,
        upperCase (Char.ofNat code).toUpper = [(Char.ofNat code).toUpper] := by
      decide +kernel
    have own := all character.toNat ascii
    rw [Char.ofNat_toNat] at own
    obtain ⟨rfl, -⟩ := List.cons.inj isForm
    exact own
  · unfold upperCaseByTable at isForm
    split at isForm
    · next codes found =>
      have all : ∀ entry ∈ upperCaseExpansions, ∀ code ∈ entry.2.head?,
          upperCase (Char.ofNat code) = [Char.ofNat code] := by
        decide +kernel
      obtain ⟨code, others, rfl, rfl, -⟩ := List.map_eq_cons_iff.mp isForm
      exact all _ (List.mem_of_find?_eq_some found) code rfl
    · split at isForm
      · next run found =>
        obtain ⟨rfl, -⟩ := List.cons.inj isForm
        have covers := List.find?_some found
        exact CaseRun.upperCase_image (List.mem_of_find?_eq_some found) covers
      · obtain ⟨rfl, rfl⟩ := List.cons.inj isForm
        exact form

end BlockStates.Text
