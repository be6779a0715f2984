import Gatekeeper.Text.Blank

namespace Gatekeeper.Text

theorem dropEndWhile_eq_nil_iff {p : Char → Bool} {t : Text} :
    dropEndWhile p t = [] ↔ ∀ c ∈ t, p c = true := by
  rw [dropEndWhile, List.reverse_eq_nil_iff, ← List.all_eq_true, ← List.all_reverse]
  constructor
  · intro hnil
    have hany : (t.reverse.dropWhile p).any (fun c => !p c) = !t.reverse.all p :=
      List.any_dropWhile
    rw [hnil, List.any_nil] at hany
    simpa using hany.symm
  · intro hall
    have happend : (t.reverse ++ []).dropWhile p = [].dropWhile p :=
      List.dropWhile_append_of_pos (List.all_eq_true.mp hall)
    rw [List.append_nil] at happend
    exact happend

theorem isBlank_iff {t : Text} : isBlank t = true ↔ ∀ c ∈ t, isBlankChar c = true := by
  rw [isBlank, List.all_eq_true]

theorem trim_eq_nil_iff {t : Text} : trim t = [] ↔ isBlank t = true := by
  rw [trim, trimStart, dropEndWhile_eq_nil_iff]
  constructor
  · intro hrest
    rw [isBlank, ← List.takeWhile_append_dropWhile (p := isBlankChar) (l := t), List.all_append,
      List.all_takeWhile, Bool.true_and]
    exact List.all_eq_true.mpr hrest
  · intro hblank c hc
    exact isBlank_iff.mp hblank c (List.dropWhile_subset isBlankChar hc)

theorem dropEndWhile_append_of_forall {p : Char → Bool} {back : Text}
    (h : ∀ c ∈ back, p c = true) (t : Text) : dropEndWhile p (t ++ back) = dropEndWhile p t := by
  have hback : ∀ c ∈ back.reverse, p c = true := by
    simpa using h
  rw [dropEndWhile, List.reverse_append, List.dropWhile_append_of_pos hback, dropEndWhile]

theorem trim_append_of_isBlank {front back : Text} (hfront : isBlank front = true)
    (hback : isBlank back = true) (t : Text) : trim (front ++ t ++ back) = trim t := by
  rw [isBlank_iff] at hfront hback
  rw [trim, trimStart, List.append_assoc, List.dropWhile_append_of_pos hfront,
    List.dropWhile_append, trim, trimStart]
  split
  · rename_i hempty
    rw [List.isEmpty_iff.mp hempty, dropEndWhile_eq_nil_iff.mpr]
    · rfl
    · exact fun c hc => hback c (List.dropWhile_subset isBlankChar hc)
  · exact dropEndWhile_append_of_forall hback _

theorem exists_append_trim (t : Text) :
    ∃ front back, isBlank front = true ∧ isBlank back = true ∧ t = front ++ trim t ++ back := by
  refine ⟨t.takeWhile isBlankChar, ((trimStart t).reverse.takeWhile isBlankChar).reverse,
    List.all_takeWhile, ?_, ?_⟩
  · rw [isBlank, List.all_reverse]
    exact List.all_takeWhile
  · rw [trim, dropEndWhile, List.append_assoc, ← List.reverse_append,
      List.takeWhile_append_dropWhile, List.reverse_reverse, trimStart,
      List.takeWhile_append_dropWhile]

@[simp] theorem trim_trim (t : Text) : trim (trim t) = trim t := by
  obtain ⟨front, back, hfront, hback, ht⟩ := exists_append_trim t
  calc trim (trim t) = trim (front ++ trim t ++ back) :=
        (trim_append_of_isBlank hfront hback (trim t)).symm
    _ = trim t := by rw [← ht]

theorem not_mem_of_isBlank {t : Text} {c : Char} (ht : isBlank t = true)
    (hc : isBlankChar c = false) : c ∉ t := by
  intro hmem
  rw [isBlank_iff.mp ht c hmem] at hc
  cases hc

theorem trim_of_forall {t : Text} (h : ∀ c ∈ t, isBlankChar c = false) : trim t = t := by
  have hnil : ∀ piece ⊆ t, isBlank piece = true → piece = [] := by
    intro piece hsub hblank
    refine List.eq_nil_iff_forall_not_mem.mpr fun c hc => ?_
    exact not_mem_of_isBlank hblank (h c (hsub hc)) hc
  obtain ⟨front, back, hfront, hback, ht⟩ := exists_append_trim t
  have hfrontSub : front ⊆ t := by
    rw [ht]
    simp
  have hbackSub : back ⊆ t := by
    rw [ht]
    simp
  rw [hnil front hfrontSub hfront, hnil back hbackSub hback] at ht
  simpa using ht.symm

end Gatekeeper.Text
