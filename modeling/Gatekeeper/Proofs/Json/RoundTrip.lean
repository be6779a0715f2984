import Mathlib.Data.List.Basic
import Gatekeeper.Http.Message
import Gatekeeper.Json.Reader
import Gatekeeper.Proofs.Text.Pieces
import Gatekeeper.Proofs.Text.Utf8

/-!
# Reading JSON that was written

Each part of a value is read back whatever stands behind it, with one exception: behind a number
there may be nothing that goes on with it.
-/

namespace Gatekeeper.Json

theorem skipSpace_cons {c : Char} (h : isSpace c = false) (rest : Text) :
    skipSpace (c :: rest) = c :: rest := by
  rw [skipSpace, List.dropWhile_cons, h]
  rfl

/-- The glyph stands for the character, whatever is behind it. -/
def Glyph.Writes (g : Glyph) (c : Char) : Prop :=
  ∀ glyphs, Glyph.text? (g :: glyphs) = (Glyph.text? glyphs).map (c :: ·)

namespace Glyph

theorem writes_plain (c : Char) : (plain c).Writes c :=
  fun _ => rfl

theorem writes_unit {n : Nat} (h : n < 0xD800) : (unit n).Writes (Char.ofNat n) := by
  have hhigh : isHighHalf n = false := by
    simp [isHighHalf]
    omega
  have hlow : isLowHalf n = false := by
    simp [isLowHalf]
    omega
  intro glyphs
  cases glyphs with
  | nil => simp [text?, hhigh, hlow]
  | cons g glyphs =>
      cases g with
      | plain c => simp [text?, hhigh, hlow]
      | unit low => simp [text?, hhigh, hlow]

end Glyph

section

variable (rest : Text)

theorem readGlyphs_escaped {letter c : Char} (h : escaped? letter = some c) :
    readGlyphs ('\\' :: letter :: rest) =
      (readGlyphs rest).map fun (glyphs, rest) => (.plain c :: glyphs, rest) := by
  have hletter : letter ≠ 'u' := by
    rintro rfl
    cases h
  rw [readGlyphs, h]
  · cases readGlyphs rest <;> rfl
  · intro _ _ _ _ _ h
    exact absurd h hletter

theorem readGlyphs_number {digits : Text} {n : Nat} (hlength : digits.length = 4)
    (hnumber : hexNumber? digits = some n) :
    readGlyphs ('\\' :: 'u' :: (digits ++ rest)) =
      (readGlyphs rest).map fun (glyphs, rest) => (.unit n :: glyphs, rest) := by
  obtain ⟨a, b, c, d, rfl⟩ := List.length_eq_four.mp hlength
  change readGlyphs ('\\' :: 'u' :: a :: b :: c :: d :: rest) = _
  rw [readGlyphs, hnumber]
  cases readGlyphs rest <;> rfl

theorem readGlyphs_plain {c : Char} (hquote : c ≠ '"') (hslash : c ≠ '\\')
    (hcontrol : 32 ≤ c.toNat) :
    readGlyphs (c :: rest) =
      (readGlyphs rest).map fun (glyphs, rest) => (.plain c :: glyphs, rest) := by
  rw [readGlyphs, if_neg (by omega)]
  · cases readGlyphs rest <;> rfl
  · exact hquote
  · rintro _ _ _ _ _ rfl
    contradiction
  · rintro _ _ rfl
    contradiction

end

theorem hexNumber?_of_control :
    ∀ n < 32, (Text.padStart 4 '0' (Text.ofNatHex n)).length = 4 ∧
      hexNumber? (Text.padStart 4 '0' (Text.ofNatHex n)) = some n := by
  decide

theorem escapeChar_cases (c : Char) :
    (∃ letter, escapeChar c = ['\\', letter] ∧ escaped? letter = some c) ∨
      (c.toNat < 32 ∧
        escapeChar c = '\\' :: 'u' :: Text.padStart 4 '0' (Text.ofNatHex c.toNat)) ∨
      (c ≠ '"' ∧ c ≠ '\\' ∧ 32 ≤ c.toNat ∧ escapeChar c = [c]) := by
  have hletter {letter d : Char} (hread : escaped? letter = some d) (hc : c = d) :
      ∃ l, ['\\', letter] = ['\\', l] ∧ escaped? l = some c :=
    ⟨letter, rfl, hc ▸ hread⟩
  rw [escapeChar]
  split_ifs with hquote hslash hbackspace hfeed hline hreturn htab hcontrol
  · exact .inl (hletter rfl hquote)
  · exact .inl (hletter rfl hslash)
  · exact .inl (hletter rfl (Char.toNat_inj.mp hbackspace))
  · exact .inl (hletter rfl (Char.toNat_inj.mp hfeed))
  · exact .inl (hletter rfl hline)
  · exact .inl (hletter rfl hreturn)
  · exact .inl (hletter rfl htab)
  · exact .inr (.inl ⟨hcontrol, rfl⟩)
  · exact .inr (.inr ⟨hquote, hslash, by omega, rfl⟩)

theorem exists_readGlyphs_escapeChar (c : Char) :
    ∃ g : Glyph, g.Writes c ∧ ∀ rest, readGlyphs (escapeChar c ++ rest) =
      (readGlyphs rest).map fun (glyphs, rest) => (g :: glyphs, rest) := by
  obtain ⟨letter, hwritten, hread⟩ | ⟨hcontrol, hwritten⟩ | ⟨hquote, hslash, hcontrol, hwritten⟩ :=
    escapeChar_cases c
  · refine ⟨.plain c, Glyph.writes_plain c, fun rest => ?_⟩
    rw [hwritten]
    exact readGlyphs_escaped rest hread
  · obtain ⟨hlength, hnumber⟩ := hexNumber?_of_control c.toNat hcontrol
    refine ⟨.unit c.toNat, ?_, fun rest => ?_⟩
    · have hwrites := Glyph.writes_unit (show c.toNat < 0xD800 by omega)
      rwa [Char.ofNat_toNat] at hwrites
    · rw [hwritten]
      exact readGlyphs_number rest hlength hnumber
  · refine ⟨.plain c, Glyph.writes_plain c, fun rest => ?_⟩
    rw [hwritten]
    exact readGlyphs_plain rest hquote hslash hcontrol

theorem readString_flatMap (t rest : Text) :
    readString (t.flatMap escapeChar ++ '"' :: rest) = some (t, rest) := by
  have hglyphs : ∃ glyphs, readGlyphs (t.flatMap escapeChar ++ '"' :: rest) = some (glyphs, rest) ∧
      Glyph.text? glyphs = some t := by
    induction t with
    | nil => exact ⟨[], rfl, rfl⟩
    | cons c t ih =>
        obtain ⟨glyphs, hread, htext⟩ := ih
        obtain ⟨g, hwrites, hescaped⟩ := exists_readGlyphs_escapeChar c
        refine ⟨g :: glyphs, ?_, ?_⟩
        · rw [List.flatMap_cons, List.append_assoc, hescaped, hread]
          rfl
        · rw [hwrites, htext]
          rfl
  obtain ⟨glyphs, hread, htext⟩ := hglyphs
  rw [readString, hread]
  change ((Glyph.text? glyphs).bind fun text => some (text, rest)) = _
  rw [htext]
  rfl

/-- Other writers may escape what is not escaped here, and then a character may be two numbers. -/
example : readString "\\ud83d\\ude00\" ]".toList = some ([Char.ofNat 0x1F600], " ]".toList) := by
  decide

/-! ### Numbers -/

theorem isDigit_of_mem_ofNat {n : Nat} {c : Char} (h : c ∈ Text.ofNat n) :
    Text.isDigit c = true :=
  Nat.isDigit_of_mem_toDigits (by decide) (by decide) h

theorem ne_of_isDigit {c d : Char} (hc : Text.isDigit c = true) (hd : Text.isDigit d = false) :
    c ≠ d := by
  rintro rfl
  rw [hc] at hd
  contradiction

theorem isSpace_of_isDigit {c : Char} (h : Text.isDigit c = true) : isSpace c = false := by
  simp [isSpace, ne_of_isDigit h (d := ' ') rfl, ne_of_isDigit h (d := '\t') rfl,
    ne_of_isDigit h (d := '\n') rfl, ne_of_isDigit h (d := '\r') rfl]

theorem exists_ofNat_eq_cons (n : Nat) :
    ∃ c t, Text.ofNat n = c :: t ∧ Text.isDigit c = true := by
  obtain ⟨c, t, htext⟩ := List.exists_cons_of_ne_nil (Nat.toDigits_ne_nil (n := n) (b := 10))
  exact ⟨c, t, htext, isDigit_of_mem_ofNat (htext ▸ List.mem_cons_self)⟩

theorem head?_ofNat_ne_zero {n : Nat} (h : 0 < n) : (Text.ofNat n).head? ≠ some '0' := by
  rw [Text.ofNat]
  induction n using Nat.base_induction 10 (by decide) with
  | single m hm => exact (by decide : ∀ m < 10, 0 < m → (Nat.toDigits 10 m).head? ≠ some '0') m hm h
  | digit m k hk hm ih =>
      rw [← Nat.toDigits_append_toDigits (by decide) hm hk,
        List.head?_append_of_ne_nil _ Nat.toDigits_ne_nil]
      exact ih hm

theorem readNumber_ofNat (n : Nat) {rest : Text}
    (hrest : ∀ c, rest.head? = some c → isNumberChar c = false) :
    readNumber (Text.ofNat n ++ rest) = some (n, rest) := by
  have hdigit (c : Char) (hc : c ∈ Text.ofNat n) : isNumberChar c = true := by
    rw [isNumberChar, isDigit_of_mem_ofNat hc]
    rfl
  have hempty : (Text.ofNat n).isEmpty = false := by
    simp [Text.ofNat, Nat.toDigits_ne_nil]
  have hall : (Text.ofNat n).all Text.isDigit = true :=
    List.all_eq_true.mpr fun c hc => isDigit_of_mem_ofNat hc
  have hzero : ((Text.ofNat n).head? == some '0' && Text.ofNat n != ['0']) = false := by
    rcases Nat.eq_zero_or_pos n with rfl | hpos
    · rfl
    · rw [beq_false_of_ne (head?_ofNat_ne_zero hpos), Bool.false_and]
  rw [readNumber, Text.takeWhile_append_of_head? hdigit hrest,
    Text.dropWhile_append_of_head? hdigit hrest, hempty, hall, hzero]
  exact congrArg (fun m => some (m, rest)) Nat.ofDigitChars_ten_toDigits

/-! ### Values -/

theorem exists_text_eq_cons (v : Json) :
    ∃ c t, v.text = c :: t ∧ isSpace c = false ∧ c ≠ ']' := by
  cases v with
  | null => exact ⟨'n', _, rfl, rfl, by decide⟩
  | number n =>
      obtain ⟨c, t, htext, hdigit⟩ := exists_ofNat_eq_cons n
      exact ⟨c, t, htext, isSpace_of_isDigit hdigit, ne_of_isDigit hdigit rfl⟩
  | string t => exact ⟨'"', _, rfl, rfl, by decide⟩
  | array items => exact ⟨'[', _, rfl, rfl, by decide⟩
  | object fields => exact ⟨'\x7b', _, rfl, rfl, by decide⟩

section

variable {fuel : Nat} {t after rest name : Text} {item value : Json} {items others : List Json}
  {fields : List (Text × Json)}

theorem readValue_number {n : Nat} (hrest : ∀ c, rest.head? = some c → isNumberChar c = false) :
    readValue (fuel + 1) (Text.ofNat n ++ rest) = some (.number n, rest) := by
  obtain ⟨c, t, htext, hdigit⟩ := exists_ofNat_eq_cons n
  have hread := readNumber_ofNat n hrest
  rw [htext, List.cons_append] at hread ⊢
  rw [readValue, skipSpace_cons (isSpace_of_isDigit hdigit)]
  split
  -- No other value begins with a digit.
  case h_5 =>
    rw [hread]
    rfl
  all_goals
    rename_i heq
    exact absurd (List.cons.inj heq).1 (ne_of_isDigit hdigit rfl)

theorem readValue_array {c : Char} (hspace : isSpace c = false) (hend : c ≠ ']')
    (hitems : readItems fuel (c :: t) = some (items, rest)) :
    readValue (fuel + 1) ('[' :: c :: t) = some (.array items, rest) := by
  rw [readValue, skipSpace_cons rfl]
  split
  -- Only an array begins with this bracket.
  case h_2 heq =>
    cases heq
    rw [skipSpace_cons hspace]
    split
    · rename_i heq
      exact absurd (List.cons.inj heq).1 hend
    · rw [hitems]
      rfl
  case h_5 hno _ _ => exact absurd rfl (hno (c :: t))
  all_goals
    rename_i heq
    cases heq

theorem readValue_object (hfields : readFields fuel ('"' :: t) = some (fields, rest)) :
    readValue (fuel + 1) ('\x7b' :: '"' :: t) = some (.object fields, rest) := by
  change (readFields fuel ('"' :: t)).map _ = _
  rw [hfields]
  rfl

theorem readItems_last (hitem : readValue fuel t = some (item, ']' :: rest)) :
    readItems (fuel + 1) t = some ([item], rest) := by
  rw [readItems, hitem]
  rfl

theorem readItems_cons (hitem : readValue fuel t = some (item, ',' :: after))
    (hothers : readItems fuel after = some (others, rest)) :
    readItems (fuel + 1) t = some (item :: others, rest) := by
  rw [readItems, hitem]
  change (readItems fuel after).bind _ = _
  rw [hothers]
  rfl

section

variable (hname : readString t = some (name, ':' :: after))

include hname

theorem readFields_last (hvalue : readValue fuel after = some (value, '\x7d' :: rest)) :
    readFields (fuel + 1) ('"' :: t) = some ([(name, value)], rest) := by
  change (readString t).bind _ = _
  rw [hname]
  change (readValue fuel after).bind _ = _
  rw [hvalue]
  rfl

theorem readFields_cons {middle : Text}
    (hvalue : readValue fuel after = some (value, ',' :: middle))
    (hothers : readFields fuel middle = some (fields, rest)) :
    readFields (fuel + 1) ('"' :: t) = some ((name, value) :: fields, rest) := by
  change (readString t).bind _ = _
  rw [hname]
  change (readValue fuel after).bind _ = _
  rw [hvalue]
  change (readFields fuel middle).bind _ = _
  rw [hothers]
  rfl

end

end

theorem itemsText_cons_cons (item second : Json) (others : List Json) :
    itemsText (item :: second :: others) = item.text ++ ',' :: itemsText (second :: others) := by
  rw [itemsText]
  simp

theorem fieldsText_cons_cons (field second : Text × Json) (others : List (Text × Json)) :
    fieldsText (field :: second :: others) =
      stringText field.1 ++ ':' :: field.2.text ++ ',' :: fieldsText (second :: others) := by
  rw [fieldsText]
  simp

theorem exists_itemsText_eq_cons (item : Json) (others : List Json) :
    ∃ c t, itemsText (item :: others) = c :: t ∧ isSpace c = false ∧ c ≠ ']' := by
  obtain ⟨c, t, htext, hc⟩ := exists_text_eq_cons item
  cases others with
  | nil => exact ⟨c, t, htext, hc⟩
  | cons second others =>
      refine ⟨c, t ++ ',' :: itemsText (second :: others), ?_, hc⟩
      rw [itemsText_cons_cons, htext, List.cons_append]

theorem exists_fieldsText_eq_cons (field : Text × Json) (others : List (Text × Json)) :
    ∃ t, fieldsText (field :: others) = '"' :: t := by
  cases others with
  | nil => exact ⟨_, rfl⟩
  | cons second others =>
      rw [fieldsText_cons_cons]
      exact ⟨_, rfl⟩

theorem readString_stringText (name rest : Text) :
    ∃ t, stringText name ++ rest = '"' :: t ∧ readString t = some (name, rest) := by
  refine ⟨name.flatMap escapeChar ++ '"' :: rest, ?_, readString_flatMap name rest⟩
  rw [stringText, List.append_assoc, List.cons_append, List.singleton_append]

theorem head?_of_isNumberChar {c : Char} (h : isNumberChar c = false) (rest : Text) :
    ∀ d, (c :: rest).head? = some d → isNumberChar d = false := by
  rintro _ ⟨⟩
  exact h

mutual

theorem readValue_text (v : Json) (fuel : Nat) (hfuel : v.text.length ≤ fuel) (rest : Text)
    (hrest : ∀ c, rest.head? = some c → isNumberChar c = false) :
    readValue fuel (v.text ++ rest) = some (v, rest) := by
  -- A value has at least one character, and each value in it has fewer than it has itself.
  obtain ⟨c, t, htext, -⟩ := exists_text_eq_cons v
  obtain ⟨fuel, rfl⟩ := Nat.exists_eq_succ_of_ne_zero (n := fuel) (by
    rw [htext, List.length_cons] at hfuel
    omega)
  match v with
  | .null => rfl
  | .number n => exact readValue_number hrest
  | .string name =>
    obtain ⟨t, hname, hread⟩ := readString_stringText name rest
    rw [text, hname]
    change (readString t).map _ = _
    rw [hread]
    rfl
  | .array [] => rfl
  | .array (item :: others) =>
    rw [text, List.length_append, List.length_cons, List.length_singleton] at hfuel
    have hitems := readItems_itemsText (item :: others) (List.cons_ne_nil _ _) fuel (by omega) rest
    obtain ⟨c, t, hwritten, hspace, hend⟩ := exists_itemsText_eq_cons item others
    rw [text, List.append_assoc, List.singleton_append, List.cons_append]
    rw [hwritten] at hitems ⊢
    exact readValue_array hspace hend hitems
  | .object [] => rfl
  | .object (field :: others) =>
    rw [text, List.length_append, List.length_cons, List.length_singleton] at hfuel
    have hfields :=
      readFields_fieldsText (field :: others) (List.cons_ne_nil _ _) fuel (by omega) rest
    obtain ⟨t, hwritten⟩ := exists_fieldsText_eq_cons field others
    rw [text, List.append_assoc, List.singleton_append, List.cons_append]
    rw [hwritten] at hfields ⊢
    exact readValue_object hfields

theorem readItems_itemsText (items : List Json) (hitems : items ≠ []) (fuel : Nat)
    (hfuel : (itemsText items).length < fuel) (rest : Text) :
    readItems fuel (itemsText items ++ ']' :: rest) = some (items, rest) := by
  obtain ⟨fuel, rfl⟩ := Nat.exists_eq_succ_of_ne_zero (Nat.ne_zero_of_lt hfuel)
  match items with
  | [] => contradiction
  | [item] =>
    exact readItems_last
      (readValue_text item fuel (Nat.le_of_lt_succ hfuel) _ (head?_of_isNumberChar rfl rest))
  | item :: second :: others =>
    rw [itemsText_cons_cons, List.length_append, List.length_cons] at hfuel
    have hothers :=
      readItems_itemsText (second :: others) (List.cons_ne_nil _ _) fuel (by omega) rest
    rw [itemsText_cons_cons, List.append_assoc, List.cons_append]
    exact readItems_cons
      (readValue_text item fuel (by omega) _ (head?_of_isNumberChar rfl _)) hothers

theorem readFields_fieldsText (fields : List (Text × Json)) (hfields : fields ≠ []) (fuel : Nat)
    (hfuel : (fieldsText fields).length < fuel) (rest : Text) :
    readFields fuel (fieldsText fields ++ '\x7d' :: rest) = some (fields, rest) := by
  obtain ⟨fuel, rfl⟩ := Nat.exists_eq_succ_of_ne_zero (Nat.ne_zero_of_lt hfuel)
  match fields with
  | [] => contradiction
  | [(name, value)] =>
    rw [fieldsText, List.length_append, List.length_cons] at hfuel
    obtain ⟨t, hname, hread⟩ := readString_stringText name (':' :: (value.text ++ '\x7d' :: rest))
    rw [fieldsText, List.append_assoc, List.cons_append, hname]
    exact readFields_last hread
      (readValue_text value fuel (by omega) _ (head?_of_isNumberChar rfl rest))
  | (name, value) :: second :: others =>
    simp only [fieldsText_cons_cons, List.length_append, List.length_cons] at hfuel
    have hothers :=
      readFields_fieldsText (second :: others) (List.cons_ne_nil _ _) fuel (by omega) rest
    obtain ⟨t, hname, hread⟩ := readString_stringText name
      (':' :: (value.text ++ ',' :: (fieldsText (second :: others) ++ '\x7d' :: rest)))
    rw [fieldsText_cons_cons, List.append_assoc, List.append_assoc, List.cons_append,
      List.cons_append, hname]
    exact readFields_cons hread
      (readValue_text value fuel (by omega) _ (head?_of_isNumberChar rfl _)) hothers

end

/-- Whatever is written is read back. -/
@[simp] theorem parse?_text (v : Json) : parse? v.text = some v := by
  have hread := readValue_text v v.text.length (Nat.le_refl _) [] (by simp)
  rw [List.append_nil] at hread
  rw [parse?, hread]
  rfl

@[simp] theorem ofBytes?_bodyOfText (v : Json) :
    ofBytes? (bodyOfText v.text).data.toList = some v := by
  rw [bodyOfText, ofBytes?, Text.decode_encode]
  exact (if_pos rfl).trans (parse?_text v)

end Gatekeeper.Json
