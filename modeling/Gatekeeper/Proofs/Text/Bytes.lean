import Gatekeeper.Text.Slice

namespace Gatekeeper.Text

@[simp] theorem byteLength_nil : byteLength [] = 0 :=
  rfl

@[simp] theorem byteLength_cons (c : Char) (t : Text) :
    byteLength (c :: t) = c.utf8Size + byteLength t :=
  rfl

@[simp] theorem byteLength_append (front back : Text) :
    byteLength (front ++ back) = byteLength front + byteLength back := by
  induction front with
  | nil => simp
  | cons c front ih => simp [ih, Nat.add_assoc]

theorem length_le_byteLength (t : Text) : t.length ≤ byteLength t := by
  induction t with
  | nil => exact Nat.le_refl 0
  | cons c t ih =>
      have hc : 0 < c.utf8Size := c.utf8Size_pos
      simp only [List.length_cons, byteLength_cons]
      omega

section

variable {mark : Char} {front : Text}

theorem dropBytes?_append (front back : Text) :
    dropBytes? (byteLength front) (front ++ back) = some back := by
  induction front with
  | nil => cases back <;> simp [dropBytes?]
  | cons c front ih =>
      have hc : c.utf8Size ≠ 0 := Nat.ne_of_gt c.utf8Size_pos
      simp [dropBytes?, hc, ih]

theorem takeBytes?_append (front back : Text) :
    takeBytes? (byteLength front) (front ++ back) = some front := by
  induction front with
  | nil => cases back <;> simp [takeBytes?]
  | cons c front ih =>
      have hc : c.utf8Size ≠ 0 := Nat.ne_of_gt c.utf8Size_pos
      simp [takeBytes?, hc, ih]

theorem byteIndex?_append_cons (h : mark ∉ front) (back : Text) :
    byteIndex? mark (front ++ mark :: back) = some (byteLength front) := by
  induction front with
  | nil => simp [byteIndex?]
  | cons c front ih =>
      obtain ⟨hc, hfront⟩ := not_or.mp (mt List.mem_cons.mpr h)
      simp [byteIndex?, Ne.symm hc, ih hfront]

theorem byteIndex?_eq_none (h : mark ∉ front) : byteIndex? mark front = none := by
  induction front with
  | nil => rfl
  | cons c front ih =>
      obtain ⟨hc, hfront⟩ := not_or.mp (mt List.mem_cons.mpr h)
      simp [byteIndex?, Ne.symm hc, ih hfront]

end

end Gatekeeper.Text
