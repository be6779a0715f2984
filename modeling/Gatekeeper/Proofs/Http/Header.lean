import Gatekeeper.Http.Header
import Gatekeeper.Proofs.Text.Utf8
import Gatekeeper.Proofs.Text.Visible

namespace Gatekeeper

namespace HeaderValue

theorem encodeChar_of_ascii {c : Char} (h : c.toNat < 0x80) :
    Text.encodeChar c = [UInt8.ofNat c.toNat] :=
  if_pos h

theorem all_isValueByte_encodeChar {c : Char} (h : Text.isVisible c = true) :
    (Text.encodeChar c).all isValueByte = true := by
  rw [Text.isVisible, Bool.and_eq_true, decide_eq_true_eq, decide_eq_true_eq] at h
  have hbyte : ∀ n < 127, 33 ≤ n → isValueByte (UInt8.ofNat n) = true := by
    decide
  rw [encodeChar_of_ascii (by omega), List.all_cons, hbyte c.toNat h.2 h.1]
  rfl

theorem ofText?_of_forall {t : Text} (h : ∀ c ∈ t, Text.isVisible c = true) :
    ofText? t = some (ofText t) := by
  have hall : (Text.encode t).all isValueByte = true := by
    rw [Text.encode, List.all_flatMap, List.all_eq_true]
    exact fun c hc => all_isValueByte_encodeChar (h c hc)
  rw [ofText?, if_pos hall, ofText]

theorem eq_ofText_of_ofText? {t : Text} {value : HeaderValue} (h : ofText? t = some value) :
    value = ofText t := by
  rw [ofText?] at h
  split at h
  · exact (Option.some.inj h).symm
  · cases h

/-- The character can be read in a value: a tab, or a character of ASCII that is no other control
character. -/
def isReadableChar (c : Char) : Bool :=
  c.toNat == 9 || (32 ≤ c.toNat && c.toNat < 127)

theorem isReadableChar_of_isVisible {c : Char} (h : Text.isVisible c = true) :
    isReadableChar c = true := by
  rw [Text.isVisible, Bool.and_eq_true, decide_eq_true_eq, decide_eq_true_eq] at h
  simp only [isReadableChar, Bool.or_eq_true, Bool.and_eq_true, decide_eq_true_eq]
  omega

@[simp] theorem all_isVisibleByte_encodeChar (c : Char) :
    (Text.encodeChar c).all isVisibleByte = isReadableChar c := by
  by_cases hascii : c.toNat < 0x80
  · have hbyte : ∀ n < 0x80, isVisibleByte (UInt8.ofNat n) = (n == 9 || (32 ≤ n && n < 127)) := by
      decide
    rw [encodeChar_of_ascii hascii, List.all_cons, List.all_nil, Bool.and_true,
      hbyte c.toNat hascii, isReadableChar]
  · have hlead : ∀ n < 256, 0xC0 ≤ n → isVisibleByte (UInt8.ofNat n) = false := by
      decide +kernel
    have hvalid : c.toNat < 0xD800 ∨ 0xDFFF < c.toNat ∧ c.toNat < 0x110000 := c.valid
    have hunreadable : isReadableChar c = false := by
      simp only [isReadableChar, Bool.or_eq_false_iff, Bool.and_eq_false_iff,
        beq_eq_false_iff_ne, decide_eq_false_iff_not]
      omega
    -- However long the encoding is, its first byte cannot be read.
    rw [hunreadable, Text.encodeChar, if_neg hascii]
    split
    · rw [List.all_cons, hlead _ (by omega) (by omega), Bool.false_and]
    · split
      · rw [List.all_cons, hlead _ (by omega) (by omega), Bool.false_and]
      · rw [List.all_cons, hlead _ (by omega) (by omega), Bool.false_and]

@[simp] theorem all_isVisibleByte_encode (t : Text) :
    (Text.encode t).all isVisibleByte = t.all isReadableChar := by
  rw [Text.encode, List.all_flatMap]
  simp only [all_isVisibleByte_encodeChar]

theorem map_encode_of_forall {t : Text} (h : ∀ c ∈ t, isReadableChar c = true) :
    (Text.encode t).map (fun b => Char.ofNat b.toNat) = t := by
  induction t with
  | nil => rfl
  | cons c rest ih =>
      have hc := h c List.mem_cons_self
      simp only [isReadableChar, Bool.or_eq_true, beq_iff_eq, Bool.and_eq_true,
        decide_eq_true_eq] at hc
      rw [Text.encode, List.flatMap_cons, ← Text.encode, encodeChar_of_ascii (by omega),
        List.map_append, ih fun c hc => h c (List.mem_cons_of_mem _ hc), List.map_singleton,
        UInt8.toNat_ofNat_of_lt' (by show c.toNat < 256; omega), Char.ofNat_toNat,
        List.singleton_append]

@[simp] theorem text?_ofText (t : Text) :
    (ofText t).text? = if t.all isReadableChar then some t else none := by
  rw [text?, ofText, all_isVisibleByte_encode]
  split
  · rename_i hall
    rw [map_encode_of_forall (List.all_eq_true.mp hall)]
  · rfl

theorem encodeChar_of_isVisibleByte :
    ∀ b : UInt8, isVisibleByte b = true → Text.encodeChar (Char.ofNat b.toNat) = [b] :=
  Text.forall_byte (by decide +kernel)

theorem ofText_of_text? {value : HeaderValue} {t : Text} (h : value.text? = some t) :
    ofText t = value := by
  rw [text?] at h
  split at h
  · rename_i hall
    cases h
    have hbytes : ∀ b ∈ value.bytes, Text.encodeChar (Char.ofNat b.toNat) = [b] :=
      fun b hb => encodeChar_of_isVisibleByte b (List.all_eq_true.mp hall b hb)
    rw [ofText, Text.encode, List.flatMap_map, List.flatMap_def, List.map_congr_left hbytes,
      ← List.flatMap_def, List.flatMap_singleton']
  · cases h

theorem isValueByte_of_isVisibleByte : ∀ b, isVisibleByte b = true → isValueByte b = true :=
  Text.forall_byte (by decide +kernel)

theorem ofText?_of_text? {value : HeaderValue} {t : Text} (h : value.text? = some t) :
    ofText? t = some value := by
  have hbytes : Text.encode t = value.bytes := congrArg bytes (ofText_of_text? h)
  rw [text?] at h
  split at h
  · rename_i hall
    have hvalue : value.bytes.all isValueByte = true := List.all_eq_true.mpr fun b hb =>
      isValueByte_of_isVisibleByte b (List.all_eq_true.mp hall b hb)
    rw [ofText?, hbytes]
    exact if_pos hvalue
  · cases h

end HeaderValue

end Gatekeeper
