import Gatekeeper.Proofs.Uri.Form

/-!
# Texts of plain HTTP URIs

A text with the scheme `http` and a host is a scheme, an authority and a target that fits behind
it, and is read as these parts. Trailing slashes may be taken off the target, and what is safe in a
path and a query may be put behind it.
-/

namespace Gatekeeper

namespace Text

variable {p : Char → Bool}

theorem dropEndWhile_append_cons {before after : Text} {c : Char} (hc : p c = false) :
    dropEndWhile p (before ++ c :: after) = before ++ c :: dropEndWhile p after := by
  have hkept : (c :: before.reverse).dropWhile p = c :: before.reverse := by
    rw [List.dropWhile_cons_of_neg (by simp [hc])]
  rw [dropEndWhile, dropEndWhile, List.reverse_append, List.reverse_cons, List.append_assoc,
    List.singleton_append, List.dropWhile_append]
  split
  · rename_i hempty
    rw [hkept, List.isEmpty_iff.mp hempty]
    simp
  · simp

theorem mem_dropEndWhile {t : Text} {c : Char} (hc : p c = false) (h : c ∈ t) :
    c ∈ dropEndWhile p t := by
  obtain ⟨before, after, rfl⟩ := List.append_of_mem h
  rw [dropEndWhile_append_cons hc]
  exact List.mem_append_right before List.mem_cons_self

theorem dropEndWhile_prefix (t : Text) : dropEndWhile p t <+: t := by
  rw [← List.reverse_suffix, dropEndWhile, List.reverse_reverse]
  exact List.dropWhile_suffix p

end Text

namespace Uri

variable {t : Text}

/-- The text is a URI with the scheme `http` and a host, in three parts. -/
structure IsPlainHttpOf (t name authority target : Text) : Prop where
  text_eq : t = name ++ ':' :: '/' :: '/' :: (authority ++ target)
  name_eq : Text.asciiLower name = "http".toList
  isSchemeChar : ∀ c ∈ name, isSchemeChar c = true
  check : Authority.check authority = .ok ()
  ne_nil : authority ≠ []
  isEnd_inside : ∀ c ∈ authority, Authority.isEnd c = false
  isEnd_outside : ∀ c, target.head? = some c → Authority.isEnd c = true
  fits : fitsTarget target = true

theorem isPlainHttpOf_http {authority target : Text} (hcheck : Authority.check authority = .ok ())
    (hne : authority ≠ []) (hinside : ∀ c ∈ authority, Authority.isEnd c = false)
    (houtside : ∀ c, target.head? = some c → Authority.isEnd c = true)
    (hfits : fitsTarget target = true) :
    IsPlainHttpOf ("http://".toList ++ (authority ++ target)) "http".toList authority target := by
  have hscheme : "http".toList.all isSchemeChar = true := by
    decide
  exact ⟨rfl, by decide, List.all_eq_true.mp hscheme, hcheck, hne, hinside, houtside, hfits⟩

theorem IsPlainHttpOf.mem_iff {name authority target : Text}
    (h : IsPlainHttpOf t name authority target) {mark : Char} (hmark : mark = '?' ∨ mark = '#') :
    mark ∈ t ↔ mark ∈ target := by
  have hname : mark ∉ name := by
    intro hmem
    have hchar := h.isSchemeChar mark hmem
    rcases hmark with rfl | rfl <;> revert hchar <;> decide
  have hauthority : mark ∉ authority := by
    intro hmem
    have hchar := h.isEnd_inside mark hmem
    rcases hmark with rfl | rfl <;> cases hchar
  rw [h.text_eq]
  rcases hmark with rfl | rfl <;> simp [hname, hauthority]

theorem readScheme_eq_http_iff {after : Text} :
    readScheme t = .ok (some .http, after) ↔ ∃ name, t = name ++ ':' :: '/' :: '/' :: after ∧
      Text.asciiLower name = "http".toList ∧ ∀ c ∈ name, isSchemeChar c = true := by
  constructor
  · intro h
    rw [readScheme] at h
    split at h
    · rename_i rest hrest
      split at h
      · rename_i hlower
        cases h
        refine ⟨t.takeWhile isSchemeChar, ?_, hlower, List.all_eq_true.mp List.all_takeWhile⟩
        rw [← hrest, List.takeWhile_append_dropWhile]
      · split at h
        · cases h
        · split at h
          · cases h
          · split at h <;> cases h
    · cases h
  · rintro ⟨name, rfl, hlower, hname⟩
    have hcolon : ∀ c, (':' :: '/' :: '/' :: after).head? = some c → isSchemeChar c = false := by
      rintro c ⟨⟩
      decide
    rw [readScheme, Text.takeWhile_append_of_head? hname hcolon,
      Text.dropWhile_append_of_head? hname hcolon]
    exact if_pos hlower

theorem scheme_eq_http_of_isPlainHttp {u : Uri} (h : u.isPlainHttp = true) :
    u.scheme = some .http := by
  rw [isPlainHttp, Bool.and_eq_true, decide_eq_true_eq] at h
  exact h.1

theorem IsPlainHttpOf.parseAbsolute_eq {name authority target : Text}
    (h : IsPlainHttpOf t name authority target) :
    parseAbsolute t =
      .ok ⟨some .http, some ⟨authority⟩, targetPath target, targetQuery? target⟩ := by
  have htarget := readTarget_eq_ok_iff.mpr ⟨h.fits, rfl⟩
  have hscheme : readScheme t = .ok (some .http, authority ++ target) :=
    readScheme_eq_http_iff.mpr ⟨name, h.text_eq, h.name_eq, h.isSchemeChar⟩
  have hauthority : Authority.read (authority ++ target) = .ok (authority, target) :=
    Authority.read_eq_ok_iff.mpr ⟨rfl, h.check, h.isEnd_inside, h.isEnd_outside⟩
  rw [parseAbsolute, hscheme]
  simp [bind, Except.bind, hauthority, htarget, h.ne_nil, pure, Except.pure]

theorem IsPlainHttpOf.parse_eq {name authority target : Text}
    (h : IsPlainHttpOf t name authority target) (hlength : Text.byteLength t ≤ maxBytes) :
    parse t = .ok ⟨some .http, some ⟨authority⟩, targetPath target, targetQuery? target⟩ := by
  rw [← h.parseAbsolute_eq]
  have hname : name.length = 4 := by
    have hlower := congrArg List.length h.name_eq
    rw [Text.asciiLower, List.length_map] at hlower
    exact hlower
  match name, hname with
  | c :: d :: rest, _ =>
      have hc : c ≠ '/' := by
        rintro rfl
        have hslash := h.isSchemeChar '/' List.mem_cons_self
        revert hslash
        decide
      rw [h.text_eq] at hlength ⊢
      exact parse_eq_parseAbsolute hc hlength

theorem exists_isPlainHttpOf {u : Uri} (h : parse t = .ok u) (hplain : u.isPlainHttp = true) :
    ∃ name authority target, IsPlainHttpOf t name authority target := by
  have hhttp := scheme_eq_http_of_isPlainHttp hplain
  cases readsAs_of_parse h with
  | asterisk => cases hhttp
  | origin htarget => cases hhttp
  | authority hparse => cases hhttp
  | absolute hscheme hread hne htarget =>
      rename_i after authority target path scheme query
      cases hhttp
      obtain ⟨name, htext, hlower, hname⟩ := readScheme_eq_http_iff.mp hscheme
      obtain ⟨hafter, hcheck, hinside, houtside⟩ := Authority.read_eq_ok_iff.mp hread
      exact ⟨name, authority, target, {
        text_eq := by rw [htext, hafter]
        name_eq := hlower
        isSchemeChar := hname
        check := hcheck
        ne_nil := hne
        isEnd_inside := hinside
        isEnd_outside := houtside
        fits := (readTarget_eq_ok_iff.mp htarget).1 }⟩

theorem exists_parse_of_isPlainHttpText (h : isPlainHttpText t = true) :
    ∃ name authority target, IsPlainHttpOf t name authority target ∧
      parse t = .ok ⟨some .http, some ⟨authority⟩, targetPath target, targetQuery? target⟩ := by
  rw [isPlainHttpText] at h
  split at h
  · rename_i u hu
    obtain ⟨name, authority, target, hparts⟩ := exists_isPlainHttpOf hu h
    exact ⟨name, authority, target, hparts, hparts.parse_eq (byteLength_le_of_parse hu)⟩
  · cases h

/-- In place of trailing slashes any text may stand that starts with a slash and fits as a target
and in a query. -/
theorem IsPlainHttpOf.dropEndWhile_append {name authority target back : Text}
    (h : IsPlainHttpOf t name authority target) (hslash : back.head? = some '/')
    (htarget : fitsTarget back = true) (hquery : fitsQuery back = true) :
    IsPlainHttpOf (Text.dropEndWhile (· == '/') t ++ back) name authority
      (Text.dropEndWhile (· == '/') target ++ back) := by
  obtain ⟨dropped, hdropped⟩ := Text.dropEndWhile_prefix (p := (· == '/')) target
  refine { h with text_eq := ?_, isEnd_outside := ?_, fits := ?_ }
  · -- Slashes are taken off the target alone, since the authority does not end in one.
    obtain ⟨init, last, hconcat⟩ := (List.eq_nil_or_concat authority).resolve_left h.ne_nil
    rw [List.concat_eq_append] at hconcat
    subst hconcat
    have hlast : (last == '/') = false := by
      have hinside := h.isEnd_inside last List.mem_concat_self
      rw [Authority.isEnd, Bool.or_eq_false_iff, Bool.or_eq_false_iff] at hinside
      exact hinside.1.1
    have htext : t = (name ++ ':' :: '/' :: '/' :: init) ++ last :: target := by
      rw [h.text_eq]
      simp
    rw [htext, Text.dropEndWhile_append_cons (p := (· == '/')) hlast]
    simp
  · intro c hc
    cases hkept : Text.dropEndWhile (· == '/') target with
    | nil =>
        rw [hkept, List.nil_append, hslash] at hc
        cases hc
        decide
    | cons d rest =>
        rw [hkept] at hc hdropped
        cases hc
        exact h.isEnd_outside c (by rw [← hdropped]; rfl)
  · have hfits := h.fits
    rw [← hdropped, fitsTarget_append, Bool.and_eq_true] at hfits
    exact fitsTarget_append_of_fits hfits.1 htarget hquery

end Uri

end Gatekeeper
