import Gatekeeper.Proofs.Text.Bytes
import Gatekeeper.Proofs.Uri.Form

/-!
# What stands in front of a query

Where the scheme, the authority and the path of a text end, and whether it is a URI at all, is
decided in front of the question mark. A query that fits behind it changes nothing but the query.
-/

namespace Gatekeeper

variable {front query : Text}

theorem Authority.read_append_query (front query : Text) :
    read (front ++ '?' :: query) =
      match check (front.takeWhile (!isEnd ·)) with
      | .error cause => .error cause
      | .ok _ => .ok (front.takeWhile (!isEnd ·), front.dropWhile (!isEnd ·) ++ '?' :: query) := by
  have hend : (!isEnd '?') = false := rfl
  rw [read, Text.takeWhile_append_cons (p := (!isEnd ·)) hend,
    Text.dropWhile_append_cons (p := (!isEnd ·)) hend]
  cases check (front.takeWhile (!isEnd ·)) with
  | error cause => rfl
  | ok _ => rfl

namespace Uri

theorem readTarget_eq (t : Text) :
    readTarget t =
      if fitsTarget t then .ok (targetPath t, targetQuery? t) else .error .badCharacter := by
  split
  · rename_i hfits
    exact readTarget_eq_ok_iff.mpr ⟨hfits, rfl⟩
  · rename_i hfits
    cases hread : readTarget t with
    | ok parts => exact absurd (readTarget_eq_ok_iff.mp hread).1 hfits
    | error cause =>
        rw [readTarget] at hread
        split at hread
        · split at hread
          · dsimp only at hread
            split at hread
            · cases hread
            · exact hread.symm
          · cases hread
        · exact hread.symm

theorem readTarget_append_query (h : fitsQuery query = true) :
    readTarget (front ++ '?' :: query) =
      if fitsTarget front then .ok (targetPath front, targetQuery? (front ++ '?' :: query))
      else .error .badCharacter := by
  have hmark : fitsQuery ('?' :: query) = true := by
    simp [fitsQuery, h, isQueryChar]
  have hfits : fitsTarget (front ++ '?' :: query) = fitsTarget front := by
    rw [fitsTarget_append, hmark, fitsTarget, if_pos rfl, h, ite_self, Bool.or_true, Bool.and_true]
  have hpath : targetPath (front ++ '?' :: query) = targetPath front :=
    Text.takeWhile_append_cons (p := fun c => c != '?' && c != '#') rfl front query
  rw [readTarget_eq, hfits, hpath]

theorem readScheme_append_query (front : Text) :
    (∃ cause, ∀ query, readScheme (front ++ '?' :: query) = .error cause) ∨
      (∀ query, readScheme (front ++ '?' :: query) = .ok (none, front ++ '?' :: query)) ∨
      ∃ scheme after, ∀ query,
        readScheme (front ++ '?' :: query) = .ok (some scheme, after ++ '?' :: query) := by
  have hmark : isSchemeChar '?' = false := by
    decide
  simp only [readScheme, Text.takeWhile_append_cons (p := isSchemeChar) hmark,
    Text.dropWhile_append_cons (p := isSchemeChar) hmark]
  match front.dropWhile isSchemeChar with
  | [] => simp
  | [c] => simp
  | [c, d] => simp
  | c :: d :: e :: after =>
      by_cases hseparator : c = ':' ∧ d = '/' ∧ e = '/'
      · obtain ⟨rfl, rfl, rfl⟩ := hseparator
        have hrest : ∀ query, (after ++ '?' :: query).isEmpty = false := by
          simp
        simp only [List.cons_append, hrest, Bool.and_false, Bool.false_eq_true, if_false]
        by_cases hhttp : Text.asciiLower (front.takeWhile isSchemeChar) = "http".toList
        · exact .inr (.inr ⟨.http, after, fun query => if_pos hhttp⟩)
        · simp only [if_neg hhttp]
          by_cases hhttps : Text.asciiLower (front.takeWhile isSchemeChar) = "https".toList
          · exact .inr (.inr ⟨.https, after, fun query => if_pos hhttps⟩)
          · simp only [if_neg hhttps]
            by_cases hlong : maxSchemeLength < (front.takeWhile isSchemeChar).length
            · exact .inl ⟨.schemeTooLong, fun query => if_pos hlong⟩
            · exact .inr (.inr ⟨.other (front.takeWhile isSchemeChar), after,
                fun query => if_neg hlong⟩)
      · refine .inr (.inl fun query => ?_)
        split
        · rename_i hmatch
          simp only [List.cons_append, List.cons.injEq] at hmatch
          exact absurd ⟨hmatch.1, hmatch.2.1, hmatch.2.2.1⟩ hseparator
        · rfl

/-- All of a URI but the query. -/
def withoutQuery (u : Uri) : Uri :=
  { u with query := none }

theorem parseAbsolute_append_query (h : fitsQuery query = true) :
    (parseAbsolute (front ++ '?' :: query)).map withoutQuery =
      (parseAbsolute (front ++ ['?'])).map withoutQuery := by
  rcases readScheme_append_query front with ⟨cause, hscheme⟩ | hscheme | ⟨scheme, after, hscheme⟩
  · simp only [parseAbsolute, hscheme]
    rfl
  · -- Behind an authority alone nothing may follow, so this is an error in any case.
    simp only [parseAbsolute, hscheme, bind, Except.bind, Authority.read_append_query]
    cases Authority.check (front.takeWhile (!Authority.isEnd ·)) with
    | error cause => rfl
    | ok _ => simp
  · simp only [parseAbsolute, hscheme, bind, Except.bind, Authority.read_append_query]
    cases Authority.check (after.takeWhile (!Authority.isEnd ·)) with
    | error cause => simp
    | ok _ =>
        have hempty : fitsQuery [] = true := rfl
        simp only [readTarget_append_query h, readTarget_append_query hempty]
        by_cases hfits : fitsTarget (after.dropWhile (!Authority.isEnd ·)) = true
        · by_cases hauthority : after.takeWhile (!Authority.isEnd ·) = []
          · simp [hauthority]
          · simp [hfits, hauthority, pure, Except.pure, Except.map, withoutQuery]
        · simp [hfits]

theorem parse_slash {rest : Text} (hlength : Text.byteLength ('/' :: rest) ≤ maxBytes) :
    parse ('/' :: rest) =
      (readTarget ('/' :: rest)).map fun parts => ⟨none, none, parts.1, parts.2⟩ := by
  rw [parse, if_neg (Nat.not_lt_of_le hlength)]
  cases readTarget ('/' :: rest) with
  | error cause => rfl
  | ok parts => rfl

theorem parse_cons {c : Char} {rest : Text} (hslash : c ≠ '/') (hrest : rest ≠ [])
    (hlength : Text.byteLength (c :: rest) ≤ maxBytes) :
    parse (c :: rest) = parseAbsolute (c :: rest) := by
  obtain ⟨d, others, rfl⟩ := List.exists_cons_of_ne_nil hrest
  exact parse_eq_parseAbsolute hslash hlength

/-- A query is read like an empty one, if it fits and the text does not get too long. -/
theorem parse_append_query (hne : front ≠ []) (h : fitsQuery query = true)
    (hlength : Text.byteLength (front ++ '?' :: query) ≤ maxBytes) :
    (parse (front ++ '?' :: query)).map withoutQuery =
      (parse (front ++ ['?'])).map withoutQuery := by
  have hlength' : Text.byteLength (front ++ ['?']) ≤ maxBytes := by
    apply Nat.le_trans _ hlength
    rw [Text.byteLength_append, Text.byteLength_append]
    simp [Text.byteLength]
  obtain ⟨c, rest, rfl⟩ := List.exists_cons_of_ne_nil hne
  rw [List.cons_append] at hlength hlength' ⊢
  by_cases hslash : c = '/'
  · subst hslash
    have hempty : fitsQuery [] = true := rfl
    rw [List.cons_append, parse_slash hlength, parse_slash hlength', ← List.cons_append,
      ← List.cons_append, readTarget_append_query h, readTarget_append_query hempty]
    split
    · rfl
    · rfl
  · rw [List.cons_append, parse_cons hslash (by simp) hlength, parse_cons hslash (by simp) hlength',
      ← List.cons_append, ← List.cons_append, parseAbsolute_append_query h]

end Uri

end Gatekeeper
