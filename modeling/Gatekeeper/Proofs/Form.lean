import Gatekeeper.Form
import Gatekeeper.Proofs.Text.Pieces
import Gatekeeper.Proofs.Text.Utf8
import Gatekeeper.Proofs.Uri.Target

namespace Gatekeeper.Form

section

variable {p : Char → Bool} (hbyte : ∀ b, (encodeByte b).all p = true)

include hbyte

theorem forall_mem_encodeText {t : Text} : ∀ c ∈ encodeText t, p c = true := by
  intro c hc
  obtain ⟨b, -, hb⟩ := List.mem_flatMap.mp hc
  exact List.all_eq_true.mp (hbyte b) c hb

theorem forall_mem_encode (hequals : p '=' = true) (hampersand : p '&' = true)
    {pairs : List (Text × Text)} : ∀ c ∈ encode pairs, p c = true := by
  intro c hc
  rcases Text.mem_join hc with hseparator | ⟨piece, hpiece, hc⟩
  · cases List.mem_singleton.mp hseparator
    exact hampersand
  · obtain ⟨pair, -, rfl⟩ := List.mem_map.mp hpiece
    rcases List.mem_append.mp hc with hname | hvalue
    · exact forall_mem_encodeText hbyte c hname
    · rcases List.mem_cons.mp hvalue with rfl | hvalue
      · exact hequals
      · exact forall_mem_encodeText hbyte c hvalue

end

/-- The character can stand in a query and does not end it. -/
def isQuerySafe (c : Char) : Bool :=
  Uri.isQueryChar c && c != '#'

theorem isQuerySafe_of_mem_encode {pairs : List (Text × Text)} :
    ∀ c ∈ encode pairs, isQuerySafe c = true := by
  refine forall_mem_encode ?_ rfl rfl
  exact Text.forall_byte (by decide +kernel)

@[simp] theorem fitsQuery_encode (pairs : List (Text × Text)) :
    Uri.fitsQuery (encode pairs) = true := by
  refine Uri.fitsQuery_of_forall fun c hc => ?_
  exact (Bool.and_eq_true_iff.mp (isQuerySafe_of_mem_encode c hc)).1

theorem fragment_not_mem_encode (pairs : List (Text × Text)) : '#' ∉ encode pairs := by
  intro hmem
  have hsafe := isQuerySafe_of_mem_encode '#' hmem
  revert hsafe
  decide

/-- The character is an ASCII letter, a digit or one of nine marks. -/
def isFormChar (c : Char) : Bool :=
  c.isAlphanum || "*-._+%&=".toList.contains c

theorem isFormChar_of_mem_encode {pairs : List (Text × Text)} :
    ∀ c ∈ encode pairs, isFormChar c = true := by
  refine forall_mem_encode ?_ rfl rfl
  exact Text.forall_byte (by decide +kernel)

theorem not_mem_encodeText {mark : Char} (h : mark = '&' ∨ mark = '=') (t : Text) :
    mark ∉ encodeText t := by
  have hmarks : ∀ b, (encodeByte b).all (fun c => c != '&' && c != '=') = true :=
    Text.forall_byte (by decide +kernel)
  intro hmem
  have hne := forall_mem_encodeText hmarks mark hmem
  rw [Bool.and_eq_true, bne_iff_ne, bne_iff_ne] at hne
  exact h.elim hne.1 hne.2

theorem digitValue?_hexDigit {n : Nat} (h : n < 16) :
    Text.digitValue? 16 (hexDigit n) = some n := by
  revert n
  decide

theorem char_of_isPlainByte {b : UInt8} (h : isPlainByte b = true) :
    Char.ofNat b.toNat ≠ '+' ∧ Char.ofNat b.toNat ≠ '%' ∧
      Text.encodeChar (Char.ofNat b.toNat) = [b] := by
  revert h
  exact Text.forall_byte (P := fun b => isPlainByte b = true → Char.ofNat b.toNat ≠ '+' ∧
    Char.ofNat b.toNat ≠ '%' ∧ Text.encodeChar (Char.ofNat b.toNat) = [b]) (by decide +kernel) b

theorem octets_plus (rest : Text) : octets ('+' :: rest) = 32 :: octets rest := by
  rw [octets.eq_def]
  exact if_pos rfl

theorem octets_percent {a b : Char} {high low : Nat} (ha : Text.digitValue? 16 a = some high)
    (hb : Text.digitValue? 16 b = some low) (rest : Text) :
    octets ('%' :: a :: b :: rest) = UInt8.ofNat (high * 16 + low) :: octets rest := by
  rw [octets.eq_def]
  simp only [ha, hb]
  rfl

theorem octets_cons_of_ne {c : Char} (hplus : c ≠ '+') (hpercent : c ≠ '%') (rest : Text) :
    octets (c :: rest) = Text.encodeChar c ++ octets rest := by
  rw [octets.eq_def]
  simp only [if_neg hplus, if_neg hpercent]

@[simp] theorem octets_encodeByte (b : UInt8) (rest : Text) :
    octets (encodeByte b ++ rest) = b :: octets rest := by
  rw [encodeByte]
  split
  · rename_i hplain
    obtain ⟨hplus, hpercent, hencode⟩ := char_of_isPlainByte hplain
    rw [List.singleton_append, octets_cons_of_ne hplus hpercent, hencode, List.singleton_append]
  · split
    · rename_i hspace
      subst hspace
      exact octets_plus rest
    · have hbyte : b.toNat < 256 := b.toNat_lt
      have hdigits : b.toNat / 16 * 16 + b.toNat % 16 = b.toNat := by
        omega
      have hread := octets_percent (digitValue?_hexDigit (n := b.toNat / 16) (by omega))
        (digitValue?_hexDigit (n := b.toNat % 16) (by omega)) rest
      rw [hdigits, UInt8.ofNat_toNat] at hread
      exact hread

@[simp] theorem octets_flatMap_encodeByte (bytes : List UInt8) :
    octets (bytes.flatMap encodeByte) = bytes := by
  induction bytes with
  | nil => rfl
  | cons b rest ih => simp [ih]

@[simp] theorem decodeText_encodeText (t : Text) : decodeText (encodeText t) = t := by
  simp [decodeText, encodeText]

@[simp] theorem decodePair_encodePair (pair : Text × Text) :
    decodePair (encodePair pair) = pair := by
  have hcut := Text.cut_append_cons (not_mem_encodeText (.inr rfl) pair.1) (encodeText pair.2)
  simp [decodePair, encodePair, hcut]

theorem not_mem_encodePair (pair : Text × Text) : '&' ∉ encodePair pair := by
  rw [encodePair, List.mem_append, List.mem_cons]
  rintro (hname | hequals | hvalue)
  · exact not_mem_encodeText (.inl rfl) pair.1 hname
  · cases hequals
  · exact not_mem_encodeText (.inl rfl) pair.2 hvalue

theorem encodePair_ne_nil (pair : Text × Text) : encodePair pair ≠ [] :=
  List.append_ne_nil_of_right_ne_nil _ (List.cons_ne_nil _ _)

theorem pieces_encode {first : Text × Text} {others : List (Text × Text)} :
    Text.pieces '&' (encode (first :: others)) = (first :: others).map encodePair := by
  have hmarks : ∀ piece ∈ (first :: others).map encodePair, '&' ∉ piece :=
    List.forall_mem_map.mpr fun pair _ => not_mem_encodePair pair
  exact Text.pieces_join hmarks

/-- A form encoding is read as the pairs that it was made of. -/
@[simp] theorem decode_encode (pairs : List (Text × Text)) : decode (encode pairs) = pairs := by
  cases pairs with
  | nil => rfl
  | cons first others =>
      have hkept : ((first :: others).map encodePair).filter (!·.isEmpty) =
          (first :: others).map encodePair := by
        rw [List.filter_eq_self, List.forall_mem_map]
        intro pair _
        simpa using encodePair_ne_nil pair
      have hread : decodePair ∘ encodePair = id := funext decodePair_encodePair
      rw [decode, pieces_encode, hkept, List.map_map, hread, List.map_id]

end Gatekeeper.Form
