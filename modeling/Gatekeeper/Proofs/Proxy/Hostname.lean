import Mathlib.Data.List.TakeWhile
import Gatekeeper.Proofs.Http.Header
import Gatekeeper.Proofs.Text.LowerCase
import Gatekeeper.Proxy.Dispatch

namespace Gatekeeper

namespace Request

/-- The text names a host as it is: it is made of one to 253 letters, digits, hyphens and dots. -/
def IsHostname (t : Text) : Prop :=
  t ≠ [] ∧ t.length ≤ maxHostnameLength ∧ ∀ c ∈ t, isHostnameChar c = true

-- The test goes through the text; an instance for all of `Char` would go through every character.
instance (t : Text) : Decidable (IsHostname t) :=
  decidable_of_iff (t ≠ [] ∧ t.length ≤ maxHostnameLength ∧ t.all isHostnameChar = true) (by
    rw [List.all_eq_true, IsHostname])

variable {r : Request} {t host : Text}

theorem isVisible_of_isHostnameChar {c : Char} (h : isHostnameChar c = true) :
    Text.isVisible c = true := by
  rcases Bool.or_eq_true_iff.mp h with h | hdot
  · rcases Bool.or_eq_true_iff.mp h with halphanum | hhyphen
    · exact Text.isVisible_of_isAlphanum halphanum
    · rw [beq_iff_eq.mp hhyphen]
      rfl
  · rw [beq_iff_eq.mp hdot]
    rfl

theorem toNat_lt_of_isHostnameChar {c : Char} (h : isHostnameChar c = true) : c.toNat < 0x80 := by
  have hvisible := isVisible_of_isHostnameChar h
  rw [Text.isVisible, Bool.and_eq_true, decide_eq_true_eq, decide_eq_true_eq] at hvisible
  omega

theorem isHostnameChar_toLower (c : Char) : isHostnameChar c.toLower = isHostnameChar c := by
  by_cases hc : c.toNat < 0x80
  · exact Text.forall_ascii (P := fun c => isHostnameChar c.toLower = isHostnameChar c)
      (by decide) hc
  · rw [Text.toLower_of_not_ascii (Nat.le_of_not_lt hc)]

theorem isHostname_asciiLower_iff : IsHostname (Text.asciiLower t) ↔ IsHostname t := by
  simp only [IsHostname, Text.asciiLower, List.length_map, List.forall_mem_map,
    isHostnameChar_toLower, ne_eq, List.map_eq_nil_iff]

theorem IsHostname.lower_eq (h : IsHostname t) : Text.lower t = Text.asciiLower t :=
  Text.lower_of_ascii fun c hc => toNat_lt_of_isHostnameChar (h.2.2 c hc)

theorem hostWithoutPort_of_not_mem (h : ':' ∉ t) : hostWithoutPort t = t := by
  refine List.takeWhile_eq_self_iff.mpr fun c hc => ?_
  rw [bne_iff_ne]
  rintro rfl
  exact h hc

theorem IsHostname.colon_not_mem (h : IsHostname t) : ':' ∉ t := by
  intro hmem
  exact absurd (h.2.2 ':' hmem) (by decide)

theorem hostname?_of_hostText? (h : r.hostText? = some t) :
    r.hostname? = some host ↔
      IsHostname (hostWithoutPort t) ∧ host = Text.lower (hostWithoutPort t) := by
  have hguard : (((hostWithoutPort t).isEmpty || maxHostnameLength < (hostWithoutPort t).length ||
      !(hostWithoutPort t).all isHostnameChar) = true) ↔ ¬IsHostname (hostWithoutPort t) := by
    simp only [IsHostname, Bool.or_eq_true, List.isEmpty_iff, decide_eq_true_eq,
      Bool.not_eq_true', ← Bool.not_eq_true, List.all_eq_true, Nat.not_le, ne_eq,
      Decidable.not_and_iff_not_or_not, Decidable.not_not, or_assoc]
  rw [hostname?, h, Option.bind_some]
  simp only [hguard]
  by_cases hhost : IsHostname (hostWithoutPort t)
  · rw [if_neg (not_not_intro hhost)]
    simp [hhost, eq_comm]
  · rw [if_pos hhost]
    simp [hhost]

theorem hostname?_of_hostText?_eq_none (h : r.hostText? = none) : r.hostname? = none := by
  rw [hostname?, h, Option.bind_none]

theorem hostText?_of_values {value : HeaderValue} {others : List HeaderValue}
    (h : Headers.values r.headers "host".toList = value :: others) :
    r.hostText? = value.text?.or r.uri.host? := by
  rw [hostText?, Headers.firstText?, Headers.first?]
  have hname : Text.asciiLower "host".toList = "host".toList := by
    decide
  rw [hname, h]
  rfl

theorem hostname?_of_isHostname {others : List HeaderValue} (ht : IsHostname t)
    (h : Headers.values r.headers "host".toList = .ofText t :: others) :
    r.hostname? = some (Text.lower t) := by
  have hreadable : t.all HeaderValue.isReadableChar = true := by
    rw [List.all_eq_true]
    intro c hc
    exact HeaderValue.isReadableChar_of_isVisible (isVisible_of_isHostnameChar (ht.2.2 c hc))
  have htext : r.hostText? = some t := by
    simp [hostText?_of_values h, hreadable]
  rw [hostname?_of_hostText? htext, hostWithoutPort_of_not_mem ht.colon_not_mem]
  exact ⟨ht, rfl⟩

end Request

end Gatekeeper
