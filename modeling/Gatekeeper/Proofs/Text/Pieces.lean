import Gatekeeper.Text.Basic

namespace Gatekeeper.Text

variable {separator : Char}

theorem pieces_of_not_mem {t : Text} (h : separator ∉ t) : pieces separator t = [t] := by
  induction t with
  | nil => rfl
  | cons c rest ih =>
      obtain ⟨hc, hrest⟩ := not_or.mp (mt List.mem_cons.mpr h)
      rw [pieces, if_neg (Ne.symm hc), ih hrest]

theorem pieces_append_cons {front : Text} (h : separator ∉ front) (back : Text) :
    pieces separator (front ++ separator :: back) = front :: pieces separator back := by
  induction front with
  | nil => rw [List.nil_append, pieces, if_pos rfl]
  | cons c rest ih =>
      obtain ⟨hc, hrest⟩ := not_or.mp (mt List.mem_cons.mpr h)
      rw [List.cons_append, pieces, if_neg (Ne.symm hc), ih hrest]

theorem join_cons_cons (between first second : Text) (rest : List Text) :
    join between (first :: second :: rest) = first ++ between ++ join between (second :: rest) :=
  rfl

theorem pieces_join {first : Text} {others : List Text}
    (h : ∀ piece ∈ first :: others, separator ∉ piece) :
    pieces separator (join [separator] (first :: others)) = first :: others := by
  induction others generalizing first with
  | nil => exact pieces_of_not_mem (h first List.mem_cons_self)
  | cons second rest ih =>
      rw [join_cons_cons, List.append_assoc, List.singleton_append,
        pieces_append_cons (h first List.mem_cons_self),
        ih fun piece hpiece => h piece (List.mem_cons_of_mem first hpiece)]

theorem mem_join {between : Text} {pieces : List Text} {c : Char} (h : c ∈ join between pieces) :
    c ∈ between ∨ ∃ piece ∈ pieces, c ∈ piece := by
  induction pieces with
  | nil => cases h
  | cons first others ih =>
      cases others with
      | nil => exact Or.inr ⟨first, List.mem_singleton_self first, h⟩
      | cons second rest =>
          rw [join_cons_cons, List.mem_append, List.mem_append] at h
          rcases h with (hfirst | hbetween) | hothers
          · exact Or.inr ⟨first, List.mem_cons_self, hfirst⟩
          · exact Or.inl hbetween
          · rcases ih hothers with hbetween | ⟨piece, hpiece, hc⟩
            · exact Or.inl hbetween
            · exact Or.inr ⟨piece, List.mem_cons_of_mem first hpiece, hc⟩

section

variable {p : Char → Bool} {front back : Text} (hfront : ∀ c ∈ front, p c = true)
  (hback : ∀ c, back.head? = some c → p c = false)

include hfront hback

theorem takeWhile_append_of_head? : (front ++ back).takeWhile p = front := by
  rw [List.takeWhile_append_of_pos hfront]
  cases back with
  | nil => exact List.append_nil front
  | cons c rest => rw [List.takeWhile_cons, hback c rfl, if_neg Bool.false_ne_true, List.append_nil]

theorem dropWhile_append_of_head? : (front ++ back).dropWhile p = back := by
  rw [List.dropWhile_append_of_pos hfront]
  cases back with
  | nil => rfl
  | cons c rest => rw [List.dropWhile_cons, hback c rfl, if_neg Bool.false_ne_true]

end

theorem takeWhile_append_cons {p : Char → Bool} {c : Char} (hc : p c = false) (front back : Text) :
    (front ++ c :: back).takeWhile p = front.takeWhile p := by
  induction front with
  | nil => simp [hc]
  | cons d front ih =>
      simp only [List.cons_append, List.takeWhile_cons, ih]

theorem dropWhile_append_cons {p : Char → Bool} {c : Char} (hc : p c = false) (front back : Text) :
    (front ++ c :: back).dropWhile p = front.dropWhile p ++ c :: back := by
  induction front with
  | nil => simp [hc]
  | cons d front ih =>
      simp only [List.cons_append, List.dropWhile_cons, ih]
      split
      · rfl
      · rfl

theorem cut_append_cons {front : Text} (h : separator ∉ front) (back : Text) :
    cut separator (front ++ separator :: back) = (front, some back) := by
  have hfront : ∀ c ∈ front, (c != separator) = true := by
    intro c hc
    rw [bne_iff_ne]
    rintro rfl
    exact h hc
  have hback : ∀ c, (separator :: back).head? = some c → (c != separator) = false := by
    rintro c ⟨⟩
    exact bne_self_eq_false separator
  rw [cut, dropWhile_append_of_head? hfront hback, takeWhile_append_of_head? hfront hback]

theorem dropLeading?_eq_some_iff {lead t rest : Text} :
    dropLeading? lead t = some rest ↔ t = lead ++ rest := by
  induction lead generalizing t with
  | nil => simp [dropLeading?]
  | cons a lead ih =>
      cases t with
      | nil => simp [dropLeading?]
      | cons c t =>
          rw [dropLeading?]
          split
          · rename_i h
            simp [ih, h]
          · rename_i h
            simp [Ne.symm h]

theorem getD_dropLeading?_eq_iff {lead t rest : Text} :
    (dropLeading? lead t).getD t = rest ↔
      t = lead ++ rest ∨ t = rest ∧ dropLeading? lead t = none := by
  cases hdrop : dropLeading? lead t with
  | none =>
      have hlead : t ≠ lead ++ rest := fun h => by
        rw [dropLeading?_eq_some_iff.mpr h] at hdrop
        cases hdrop
      simp [hlead]
  | some after => simp [dropLeading?_eq_some_iff.mp hdrop]

end Gatekeeper.Text
