import Gatekeeper.Text.Blank

namespace Gatekeeper.Text

/-- The characters of ASCII that print and are no blank. -/
def isVisible (c : Char) : Bool :=
  33 ≤ c.toNat && c.toNat < 127

theorem isBlankChar_eq_false_of_isVisible {c : Char} (h : isVisible c = true) :
    isBlankChar c = false := by
  rw [isVisible, Bool.and_eq_true, decide_eq_true_eq, decide_eq_true_eq] at h
  simp only [isBlankChar, Bool.or_eq_false_iff, Bool.and_eq_false_iff, decide_eq_false_iff_not,
    beq_eq_false_iff_ne]
  omega

theorem isVisible_of_isAlphanum {c : Char} (h : c.isAlphanum = true) : isVisible c = true := by
  have hupper : c.isUpper = true → 65 ≤ c.toNat ∧ c.toNat ≤ 90 := fun hc => of_decide_eq_true hc
  have hlower : c.isLower = true → 97 ≤ c.toNat ∧ c.toNat ≤ 122 := by
    intro hc
    obtain ⟨hlow, hhigh⟩ := Bool.and_eq_true_iff.mp hc
    exact ⟨of_decide_eq_true hlow, of_decide_eq_true hhigh⟩
  have hdigit : c.isDigit = true → 48 ≤ c.toNat ∧ c.toNat ≤ 57 := Char.isDigit_iff_toNat.mp
  rw [isVisible, Bool.and_eq_true, decide_eq_true_eq, decide_eq_true_eq]
  rcases Bool.or_eq_true_iff.mp h with halpha | hc
  · rcases Bool.or_eq_true_iff.mp halpha with hc | hc
    · have hrange := hupper hc
      omega
    · have hrange := hlower hc
      omega
  · have hrange := hdigit hc
    omega

theorem isVisible_eq_false_of_isBlankChar {c : Char} (h : isBlankChar c = true) :
    isVisible c = false := by
  rw [← Bool.not_eq_true]
  intro hvisible
  rw [isBlankChar_eq_false_of_isVisible hvisible] at h
  cases h

theorem ne_of_isBlankChar {c d : Char} (hc : isBlankChar c = true)
    (hd : isVisible d = true) : c ≠ d := by
  rintro rfl
  rw [isVisible_eq_false_of_isBlankChar hc] at hd
  cases hd

theorem isVisible_digitChar (n : Nat) : isVisible n.digitChar = true := by
  by_cases h : n < 16
  · have hall : (List.range 16).all (fun n => isVisible n.digitChar) = true := by
      decide
    exact List.all_eq_true.mp hall n (List.mem_range.mpr h)
  · have hasterisk : n.digitChar = '*' := by
      simp (disch := omega) only [Nat.digitChar, if_neg]
    rw [hasterisk]
    rfl

theorem isVisible_of_mem_toDigits {base : Nat} (hbase : 1 < base) (n : Nat) :
    ∀ c ∈ Nat.toDigits base n, isVisible c = true := by
  induction n using Nat.strongRecOn with
  | ind n ih =>
      rw [Nat.toDigits_eq_if hbase]
      intro c hc
      split at hc
      · rw [List.mem_singleton.mp hc]
        exact isVisible_digitChar n
      · rename_i hge
        rcases List.mem_append.mp hc with hfront | hlast
        · exact ih (n / base) (Nat.div_lt_self (by omega) hbase) c hfront
        · rw [List.mem_singleton.mp hlast]
          exact isVisible_digitChar _

end Gatekeeper.Text
