import Gatekeeper.Text.Utf8

namespace Gatekeeper.Text

theorem forall_byte {P : UInt8 → Prop} (h : ∀ n < 256, P (UInt8.ofNat n)) (b : UInt8) : P b := by
  rw [← UInt8.ofNat_toNat (x := b)]
  exact h b.toNat b.toNat_lt

theorem toNat_ofNat_of_lt {n : Nat} (h : n < 256) : (UInt8.ofNat n).toNat = n :=
  UInt8.toNat_ofNat_of_lt' h

theorem leadByte_of_one {n : Nat} (h : n < 0x80) :
    leadByte (UInt8.ofNat n) = ([Char.ofNat n], none) := by
  rw [leadByte, toNat_ofNat_of_lt (by omega)]
  exact if_pos h

theorem leadByte_of_two {n : Nat} (hlow : 2 ≤ n) (hhigh : n < 32) :
    leadByte (UInt8.ofNat (0xC0 + n)) = ([], some ⟨n, 1, 0x80, 0xBF⟩) := by
  rw [leadByte, toNat_ofNat_of_lt (by omega), if_neg (by omega), if_pos (by omega),
    Nat.add_sub_cancel_left]

theorem leadByte_of_three {n : Nat} (h : n < 16) :
    leadByte (UInt8.ofNat (0xE0 + n)) =
      ([], some ⟨n, 2, if n = 0 then 0xA0 else 0x80, if n = 13 then 0x9F else 0xBF⟩) := by
  by_cases hfirst : n = 0
  · subst hfirst
    rfl
  · by_cases hsurrogates : n = 13
    · subst hsurrogates
      rfl
    · rw [leadByte, toNat_ofNat_of_lt (by omega), if_neg (by omega), if_neg (by omega),
        if_neg (by omega), if_neg (by omega), if_pos (by omega), if_neg hfirst,
        if_neg hsurrogates, Nat.add_sub_cancel_left]

theorem leadByte_of_four {n : Nat} (h : n < 5) :
    leadByte (UInt8.ofNat (0xF0 + n)) =
      ([], some ⟨n, 3, if n = 0 then 0x90 else 0x80, if n = 4 then 0x8F else 0xBF⟩) := by
  by_cases hfirst : n = 0
  · subst hfirst
    rfl
  · by_cases hlast : n = 4
    · subst hlast
      rfl
    · rw [leadByte, toNat_ofNat_of_lt (by omega), if_neg (by omega), if_neg (by omega),
        if_neg (by omega), if_neg (by omega), if_neg (by omega), if_neg (by omega),
        if_pos (by omega), if_neg hfirst, if_neg hlast, Nat.add_sub_cancel_left]

theorem decodeAfter_of_leadByte {b : UInt8} {p : PartialChar} (h : leadByte b = ([], some p))
    (rest : List UInt8) : decodeAfter none (b :: rest) = decodeAfter (some p) rest := by
  rw [decodeAfter, nextByte, h]
  rfl

section

variable {bits least greatest n : Nat} (hn : n < 64) (hleast : least ≤ 0x80 + n)
  (hgreatest : 0x80 + n ≤ greatest)

include hn hleast hgreatest

theorem decodeAfter_last (rest : List UInt8) :
    decodeAfter (some ⟨bits, 1, least, greatest⟩) (UInt8.ofNat (0x80 + n) :: rest) =
      Char.ofNat (bits * 64 + n) :: decodeAfter none rest := by
  rw [decodeAfter, nextByte, toNat_ofNat_of_lt (by omega), if_pos ⟨hleast, hgreatest⟩, if_pos rfl,
    Nat.add_sub_cancel_left]
  rfl

theorem decodeAfter_inner (missing : Nat) (rest : List UInt8) :
    decodeAfter (some ⟨bits, missing + 2, least, greatest⟩) (UInt8.ofNat (0x80 + n) :: rest) =
      decodeAfter (some ⟨bits * 64 + n, missing + 1, 0x80, 0xBF⟩) rest := by
  rw [decodeAfter, nextByte, toNat_ofNat_of_lt (by omega), if_pos ⟨hleast, hgreatest⟩,
    if_neg (by simp), Nat.add_sub_cancel_left]
  rfl

end

theorem decodeAfter_encodeChar (c : Char) (rest : List UInt8) :
    decodeAfter none (encodeChar c ++ rest) = c :: decodeAfter none rest := by
  have hvalid : c.toNat < 0xD800 ∨ 0xDFFF < c.toNat ∧ c.toNat < 0x110000 := c.valid
  have hc : Char.ofNat c.toNat = c := Char.ofNat_toNat c
  rw [encodeChar]
  generalize c.toNat = n at hvalid hc
  split
  · rename_i hone
    rw [List.singleton_append, decodeAfter, nextByte, leadByte_of_one hone, hc]
    rfl
  · split
    · rename_i htwo
      have hbits : n / 64 * 64 + n % 64 = n := by
        omega
      rw [List.cons_append, List.cons_append, List.nil_append,
        decodeAfter_of_leadByte (leadByte_of_two (by omega) (by omega)),
        decodeAfter_last (by omega) (by omega) (by omega), hbits, hc]
    · split
      · have hbits : (n / 4096 * 64 + n / 64 % 64) * 64 + n % 64 = n := by
          omega
        rw [List.cons_append, List.cons_append, List.cons_append, List.nil_append,
          decodeAfter_of_leadByte (leadByte_of_three (by omega)),
          decodeAfter_inner (by omega) (by split <;> omega) (by split <;> omega),
          decodeAfter_last (by omega) (by omega) (by omega), hbits, hc]
      · have hbits : ((n / 262144 * 64 + n / 4096 % 64) * 64 + n / 64 % 64) * 64 + n % 64 = n := by
          omega
        rw [List.cons_append, List.cons_append, List.cons_append, List.cons_append, List.nil_append,
          decodeAfter_of_leadByte (leadByte_of_four (by omega)),
          decodeAfter_inner (by omega) (by split <;> omega) (by split <;> omega),
          decodeAfter_inner (by omega) (by omega) (by omega),
          decodeAfter_last (by omega) (by omega) (by omega), hbits, hc]

theorem decodeAfter_encode (t : Text) (rest : List UInt8) :
    decodeAfter none (encode t ++ rest) = t ++ decodeAfter none rest := by
  induction t with
  | nil => rfl
  | cons c t ih =>
      rw [encode, List.flatMap_cons, List.append_assoc, decodeAfter_encodeChar, ← encode, ih,
        List.cons_append]

@[simp] theorem decode_encode (t : Text) : decode (encode t) = t := by
  rw [decode, ← List.append_nil (encode t), decodeAfter_encode]
  exact List.append_nil t

end Gatekeeper.Text
