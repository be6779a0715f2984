import Gatekeeper.Proofs.Except
import Gatekeeper.Proofs.Text.Pieces
import Gatekeeper.Proofs.Uri.Target

namespace Gatekeeper

variable {t : Text}

namespace Authority

theorem read_eq_ok_iff {authority rest : Text} :
    read t = .ok (authority, rest) ↔ t = authority ++ rest ∧
      check authority = .ok () ∧ (∀ c ∈ authority, isEnd c = false) ∧
      ∀ c, rest.head? = some c → isEnd c = true := by
  rw [read]
  constructor
  · intro h
    obtain ⟨_, hcheck, hparts⟩ := Except.bind_eq_ok_iff.mp h
    cases hparts
    refine ⟨List.takeWhile_append_dropWhile.symm, hcheck, ?_, ?_⟩
    · intro c hc
      simpa using List.all_eq_true.mp List.all_takeWhile c hc
    · intro c hc
      have hhead := List.head?_dropWhile_not (!isEnd ·) t
      rw [hc] at hhead
      simpa using hhead
  · rintro ⟨rfl, hcheck, hinside, houtside⟩
    have hall : ∀ c ∈ authority, (!isEnd c) = true := by
      simpa using hinside
    have hend : ∀ c, rest.head? = some c → (!isEnd c) = false := by
      simpa using houtside
    rw [Text.takeWhile_append_of_head? hall hend, Text.dropWhile_append_of_head? hall hend, hcheck]
    rfl

theorem parse_eq_ok_iff {authority : Authority} :
    parse t = .ok authority ↔ t ≠ [] ∧ check t = .ok () ∧ (∀ c ∈ t, isEnd c = false) ∧
      authority = ⟨t⟩ := by
  rw [parse]
  constructor
  · intro h
    split at h
    · cases h
    · rename_i hne
      rw [List.isEmpty_iff] at hne
      obtain ⟨⟨read, rest⟩, hread, hparts⟩ := Except.bind_eq_ok_iff.mp h
      obtain ⟨htext, hcheck, hinside, -⟩ := read_eq_ok_iff.mp hread
      dsimp only at hparts
      split at hparts
      · rename_i hrest
        rw [List.isEmpty_iff.mp hrest, List.append_nil] at htext
        cases hparts
        subst htext
        exact ⟨hne, hcheck, hinside, rfl⟩
      · cases hparts
  · rintro ⟨hne, hcheck, hinside, rfl⟩
    have hread : read t = .ok (t, []) :=
      read_eq_ok_iff.mpr ⟨(List.append_nil t).symm, hcheck, hinside, by simp⟩
    rw [if_neg (mt List.isEmpty_iff.mp hne)]
    exact Except.bind_eq_ok_iff.mpr ⟨(t, []), hread, rfl⟩

end Authority

namespace Uri

variable {u : Uri}

/-- The form that a text has if it is read as a URI. -/
inductive ReadsAs : Text → Uri → Prop where
  | asterisk : ReadsAs ['*'] ⟨none, none, ['*'], none⟩
  | origin {rest path : Text} {query : Option Text}
      (htarget : readTarget ('/' :: rest) = .ok (path, query)) :
      ReadsAs ('/' :: rest) ⟨none, none, path, query⟩
  | authority {t : Text} {authority : Authority} (hparse : Authority.parse t = .ok authority) :
      ReadsAs t ⟨none, some authority, [], none⟩
  | absolute {t after authority target path : Text} {scheme : Scheme} {query : Option Text}
      (hscheme : readScheme t = .ok (some scheme, after))
      (hread : Authority.read after = .ok (authority, target)) (hne : authority ≠ [])
      (htarget : readTarget target = .ok (path, query)) :
      ReadsAs t ⟨some scheme, some ⟨authority⟩, path, query⟩

theorem readsAs_of_parseAbsolute (hne : t ≠ []) (h : parseAbsolute t = .ok u) : ReadsAs t u := by
  obtain ⟨⟨_ | scheme, after⟩, hscheme, hafter⟩ := Except.bind_eq_ok_iff.mp h
  · obtain ⟨⟨authority, rest⟩, hread, hrest⟩ := Except.bind_eq_ok_iff.mp hafter
    dsimp only at hrest
    split at hrest
    · rename_i hempty
      cases hrest
      refine .authority ?_
      rw [Authority.parse, if_neg (mt List.isEmpty_iff.mp hne)]
      exact Except.bind_eq_ok_iff.mpr ⟨(authority, rest), hread, if_pos hempty⟩
    · cases hrest
  · dsimp only at hafter
    split at hafter
    · cases hafter
    · obtain ⟨⟨authority, target⟩, hread, hbehind⟩ := Except.bind_eq_ok_iff.mp hafter
      dsimp only at hbehind
      split at hbehind
      · cases hbehind
      · rename_i hauthority
        obtain ⟨⟨path, query⟩, htarget, hparts⟩ := Except.bind_eq_ok_iff.mp hbehind
        cases hparts
        exact .absolute hscheme hread (mt List.isEmpty_iff.mpr hauthority) htarget

theorem readsAs_of_parse (h : parse t = .ok u) : ReadsAs t u := by
  unfold parse at h
  split at h
  · cases h
  · split at h
    · cases h
    · cases h
      exact .asterisk
    · obtain ⟨⟨path, query⟩, htarget, hparts⟩ := Except.bind_eq_ok_iff.mp h
      cases hparts
      exact .origin htarget
    · obtain ⟨authority, hparse, hparts⟩ := Except.bind_eq_ok_iff.mp h
      cases hparts
      exact .authority hparse
    · rename_i hne _ _ _
      exact readsAs_of_parseAbsolute hne h

theorem parse_authority_of_parse {a : Authority} (h : parse t = .ok u)
    (ha : u.authority = some a) : Authority.parse a.text = .ok a := by
  rcases readsAs_of_parse h with _ | _ | hparse | ⟨-, hread, hne, -⟩
  · cases ha
  · cases ha
  · obtain ⟨-, -, -, htext⟩ := Authority.parse_eq_ok_iff.mp hparse
    cases ha
    subst htext
    exact hparse
  · obtain ⟨-, hcheck, hinside, -⟩ := Authority.read_eq_ok_iff.mp hread
    cases ha
    exact Authority.parse_eq_ok_iff.mpr ⟨hne, hcheck, hinside, rfl⟩

theorem byteLength_le_of_parse {u : Uri} (h : parse t = .ok u) : Text.byteLength t ≤ maxBytes := by
  unfold parse at h
  split at h
  · cases h
  · rename_i hlength
    exact Nat.le_of_not_lt hlength

theorem parse_eq_parseAbsolute {c d : Char} {rest : Text} (hc : c ≠ '/')
    (hlength : Text.byteLength (c :: d :: rest) ≤ maxBytes) :
    parse (c :: d :: rest) = parseAbsolute (c :: d :: rest) := by
  rw [parse, if_neg (Nat.not_lt_of_le hlength)]
  · intro hempty
    cases hempty
  · intro hasterisk
    cases hasterisk
  · rintro tail hslash
    cases hslash
    exact hc rfl
  · rintro only honly
    cases honly

theorem path_of_scheme {u : Uri} {scheme : Scheme} (h : u.scheme = some scheme) :
    u.path = if u.writtenPath = [] then ['/'] else u.writtenPath := by
  simp [path, h]

end Uri

end Gatekeeper
