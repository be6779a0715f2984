import Gatekeeper.Proofs.Text.Visible
import Gatekeeper.Proofs.Uri.PlainHttp

namespace Gatekeeper

theorem Uri.isVisible_of_isSchemeChar {c : Char} (h : isSchemeChar c = true) :
    Text.isVisible c = true := by
  simp only [isSchemeChar, Bool.or_eq_true, beq_iff_eq] at h
  rcases h with (((halphanum | rfl) | rfl) | rfl) | rfl
  · exact Text.isVisible_of_isAlphanum halphanum
  all_goals decide

theorem Authority.isVisible_of_isOrdinaryChar {c : Char} (h : isOrdinaryChar c = true) :
    Text.isVisible c = true := by
  rw [isOrdinaryChar, Bool.or_eq_true, List.contains_iff_mem] at h
  rcases h with halphanum | hmem
  · exact Text.isVisible_of_isAlphanum halphanum
  · have hall : "!$&'()*+,-.;=_~".toList.all Text.isVisible = true := by
      decide
    exact List.all_eq_true.mp hall c hmem

section

variable {c : Char} (h : Text.isBlankChar c = true)

include h

theorem Authority.next_of_isBlankChar (m : Marks) : m.next c = .error .badCharacter := by
  have hordinary : ¬isOrdinaryChar c = true := fun hc =>
    Text.ne_of_isBlankChar h (isVisible_of_isOrdinaryChar hc) rfl
  rw [Marks.next, if_neg (Text.ne_of_isBlankChar h (by decide)),
    if_neg (Text.ne_of_isBlankChar h (by decide)), if_neg (Text.ne_of_isBlankChar h (by decide)),
    if_neg (Text.ne_of_isBlankChar h (by decide)), if_neg (Text.ne_of_isBlankChar h (by decide)),
    if_neg hordinary]

theorem Authority.read_of_isBlankChar (rest : Text) :
    read (c :: rest) = .error .badCharacter := by
  have hend : isEnd c = false := by
    rw [isEnd, Bool.or_eq_false_iff, Bool.or_eq_false_iff, beq_eq_false_iff_ne,
      beq_eq_false_iff_ne, beq_eq_false_iff_ne]
    exact ⟨⟨Text.ne_of_isBlankChar h (by decide), Text.ne_of_isBlankChar h (by decide)⟩,
      Text.ne_of_isBlankChar h (by decide)⟩
  rw [read, List.takeWhile_cons, hend, Bool.not_false, if_pos rfl, check, Marks.run,
    next_of_isBlankChar h]
  rfl

theorem Uri.readScheme_of_isBlankChar (rest : Text) :
    readScheme (c :: rest) = .ok (none, c :: rest) := by
  have hscheme : ¬isSchemeChar c = true := fun hc =>
    Text.ne_of_isBlankChar h (isVisible_of_isSchemeChar hc) rfl
  rw [readScheme, List.dropWhile_cons_of_neg hscheme]
  split
  · rename_i hcolon
    exact absurd (List.cons.inj hcolon).1 (Text.ne_of_isBlankChar h (by decide))
  · rfl

theorem Uri.parse_of_isBlankChar {d : Char} {rest : Text}
    (hlength : Text.byteLength (c :: d :: rest) ≤ maxBytes) :
    parse (c :: d :: rest) = .error .badCharacter := by
  rw [parse_eq_parseAbsolute (Text.ne_of_isBlankChar h (by decide)) hlength, parseAbsolute,
    readScheme_of_isBlankChar h]
  simp only [bind, Except.bind, Authority.read_of_isBlankChar h]

end

namespace Authority

variable {t : Text}

theorem isBlankChar_eq_false_of_run {m n : Marks} (h : m.run t = .ok n) :
    ∀ c ∈ t, Text.isBlankChar c = false := by
  induction t generalizing m with
  | nil => simp
  | cons d rest ih =>
      obtain ⟨next, hnext, hrun⟩ := Except.bind_eq_ok_iff.mp h
      refine List.forall_mem_cons.mpr ⟨?_, ih hrun⟩
      rw [← Bool.not_eq_true]
      intro hblank
      rw [next_of_isBlankChar hblank] at hnext
      cases hnext

theorem isBlankChar_eq_false_of_check (h : check t = .ok ()) :
    ∀ c ∈ t, Text.isBlankChar c = false := by
  obtain ⟨marks, hmarks, -⟩ := Except.bind_eq_ok_iff.mp h
  exact isBlankChar_eq_false_of_run hmarks

theorem isInside_of_parse {a : Authority} (h : parse t = .ok a) :
    ∀ c ∈ a.text, isEnd c = false ∧ Text.isBlankChar c = false := by
  obtain ⟨-, hcheck, hinside, rfl⟩ := parse_eq_ok_iff.mp h
  exact fun c hc => ⟨hinside c hc, isBlankChar_eq_false_of_check hcheck c hc⟩

end Authority

end Gatekeeper
