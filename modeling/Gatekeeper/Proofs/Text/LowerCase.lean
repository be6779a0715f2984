import Gatekeeper.Text.LowerCase

namespace Gatekeeper.Text

theorem forall_ascii {P : Char → Prop} (h : ∀ n < 0x80, P (Char.ofNat n)) {c : Char}
    (hc : c.toNat < 0x80) : P c := by
  rw [← Char.ofNat_toNat c]
  exact h c.toNat hc

theorem lowerChar_of_ascii {c : Char} (h : c.toNat < 0x80) : lowerChar c = [c.toLower] :=
  if_pos h

theorem ne_sigma_of_ascii {c : Char} (h : c.toNat < 0x80) : c ≠ 'Σ' := by
  rintro rfl
  exact absurd h (by decide)

theorem lowerAfter_of_ascii (before : Text) {t : Text} (h : ∀ c ∈ t, c.toNat < 0x80) :
    lowerAfter before t = asciiLower t := by
  induction t generalizing before with
  | nil => rfl
  | cons c rest ih =>
      obtain ⟨hc, hrest⟩ := List.forall_mem_cons.mp h
      rw [lowerAfter, if_neg (ne_sigma_of_ascii hc), lowerChar_of_ascii hc, ih (c :: before) hrest]
      rfl

theorem lower_of_ascii {t : Text} (h : ∀ c ∈ t, c.toNat < 0x80) : lower t = asciiLower t :=
  lowerAfter_of_ascii [] h

theorem toLower_of_not_ascii {c : Char} (h : 0x80 ≤ c.toNat) : c.toLower = c := by
  refine dif_neg ?_
  rintro ⟨-, hcapital⟩
  exact absurd (Nat.le_trans h (UInt32.le_iff_toNat_le.mp hcapital)) (by decide)

theorem lt_image_of_mem_capitalRuns {run : CapitalRun} (h : run ∈ capitalRuns) :
    0x60 < run.image := by
  have hall : capitalRuns.all (fun run => decide (0x60 < run.image)) = true := by
    decide
  exact of_decide_eq_true (List.all_eq_true.mp hall run h)

theorem toNat_ofNat_cases (n : Nat) : (Char.ofNat n).toNat = 0 ∨ (Char.ofNat n).toNat = n := by
  by_cases h : n.isValidChar
  · rw [Char.ofNat, dif_pos h]
    exact Or.inr rfl
  · rw [Char.ofNat, dif_neg h]
    exact Or.inl rfl

theorem mem_lowerChar_of_not_ascii {c d : Char} (h : 0x80 ≤ c.toNat) (hd : d ∈ lowerChar c) :
    d.toNat = 0 ∨ 0x60 < d.toNat := by
  rw [lowerChar, if_neg (Nat.not_lt_of_le h)] at hd
  split at hd
  · have hall : ['i', Char.ofNat 0x307].all (fun d => decide (0x60 < d.toNat)) = true := by
      decide
    exact Or.inr (of_decide_eq_true (List.all_eq_true.mp hall d hd))
  · split at hd
    · rename_i run hrun
      have himage := lt_image_of_mem_capitalRuns (List.mem_of_find?_eq_some hrun)
      rw [List.mem_singleton.mp hd]
      rcases toNat_ofNat_cases (run.image + (c.toNat - run.first)) with hzero | hsame
      · exact Or.inl hzero
      · rw [hsame]
        exact Or.inr (Nat.lt_add_right _ himage)
    · rw [List.mem_singleton.mp hd]
      exact Or.inr (Nat.lt_of_lt_of_le (by decide) h)

theorem lowerChar_ne_nil (c : Char) : lowerChar c ≠ [] := by
  rw [lowerChar]
  split
  · simp
  · split
    · simp
    · split <;> simp

/-- A character of ASCII before the small letters, but not a capital letter. -/
def IsCaseless (c : Char) : Prop :=
  0 < c.toNat ∧ c.toNat ≤ 0x60 ∧ c.isUpper = false

instance (c : Char) : Decidable (IsCaseless c) :=
  inferInstanceAs (Decidable (_ ∧ _ ∧ _))

variable {c : Char} {t : Text}

theorem toLower_eq_iff_of_ascii (hc : IsCaseless c) {d : Char} (hd : d.toNat < 0x80) :
    c = d.toLower ↔ c = d := by
  have hcases : d.toLower = d ∨ d.isUpper = true ∧ 0x60 < d.toLower.toNat :=
    forall_ascii (P := fun d => d.toLower = d ∨ d.isUpper = true ∧ 0x60 < d.toLower.toNat)
      (by decide) hd
  rcases hcases with hsame | ⟨hupper, hlower⟩
  · rw [hsame]
  · constructor
    · rintro rfl
      exact absurd hc.2.1 (Nat.not_le_of_lt hlower)
    · rintro rfl
      rw [hc.2.2] at hupper
      cases hupper

theorem mem_lowerChar_iff (hc : IsCaseless c) {d : Char} : c ∈ lowerChar d ↔ c = d := by
  by_cases hd : d.toNat < 0x80
  · rw [lowerChar_of_ascii hd, List.mem_singleton, toLower_eq_iff_of_ascii hc hd]
  · constructor
    · intro hmem
      have hbound := mem_lowerChar_of_not_ascii (Nat.le_of_not_lt hd) hmem
      have hrange := hc
      rw [IsCaseless] at hrange
      omega
    · rintro rfl
      exact absurd (Nat.lt_of_le_of_lt hc.2.1 (by decide)) hd

theorem mem_lowerAfter_iff (hc : IsCaseless c) (before : Text) :
    c ∈ lowerAfter before t ↔ c ∈ t := by
  induction t generalizing before with
  | nil => rfl
  | cons d rest ih =>
      rw [lowerAfter, List.mem_append, List.mem_cons, ih]
      refine or_congr_left ?_
      split
      · rename_i hsigma
        have hne : c ≠ 'ς' ∧ c ≠ 'σ' ∧ c ≠ 'Σ' := by
          refine ⟨?_, ?_, ?_⟩ <;> rintro rfl <;> exact absurd hc (by decide)
        rw [hsigma]
        split <;> simp [hne]
      · exact mem_lowerChar_iff hc

theorem mem_lower_iff (hc : IsCaseless c) : c ∈ lower t ↔ c ∈ t :=
  mem_lowerAfter_iff hc []

theorem length_le_lowerAfter (before t : Text) : t.length ≤ (lowerAfter before t).length := by
  induction t generalizing before with
  | nil => exact Nat.zero_le _
  | cons d rest ih =>
      have himage := List.length_pos_iff.mpr (lowerChar_ne_nil d)
      have hrest := ih (d :: before)
      rw [lowerAfter, List.length_append, List.length_cons]
      split
      · split <;> rw [List.length_singleton] <;> omega
      · omega

theorem lower_eq_singleton_iff (hc : IsCaseless c) : lower t = [c] ↔ t = [c] := by
  constructor
  · intro h
    have hmem : c ∈ t := (mem_lower_iff hc).mp (h ▸ List.mem_singleton_self c)
    have hlength := length_le_lowerAfter [] t
    rw [← lower, h] at hlength
    obtain ⟨d, rfl⟩ := List.length_eq_one_iff.mp
      (Nat.le_antisymm hlength (List.length_pos_of_mem hmem))
    rw [List.mem_singleton.mp hmem]
  · rintro rfl
    have hascii : c.toNat < 0x80 := Nat.lt_of_le_of_lt hc.2.1 (by decide)
    rw [lower, lowerAfter, if_neg (ne_sigma_of_ascii hascii), lowerChar_of_ascii hascii,
      ← (toLower_eq_iff_of_ascii hc hascii).mpr rfl]
    rfl

end Gatekeeper.Text
