import Gatekeeper.Proofs.Proxy.Dispatch
import Gatekeeper.Proofs.Uri.PlainHttp
import Gatekeeper.Proxy.Forward

namespace Gatekeeper

namespace Text

variable {t : Text} {c mark : Char}

theorem afterLast_append_singleton (h : c ≠ mark) :
    afterLast mark (t ++ [c]) = afterLast mark t ++ [c] := by
  rw [afterLast, List.reverse_append, List.reverse_singleton, List.singleton_append,
    List.takeWhile_cons_of_pos (by simpa using h), List.reverse_cons, afterLast]

theorem number?_of_mem {limit : Nat} (hmem : c ∈ t) (hc : isDigit c = false) :
    number? limit t = none := by
  have hall : t.all isDigit = false := List.all_eq_false.mpr ⟨c, hmem, by simp [hc]⟩
  rw [number?, hall, Bool.not_false, Bool.or_true, if_pos rfl]

end Text

namespace Authority

variable {t : Text}

theorem Marks.run_append {m : Marks} {front back : Text} :
    m.run (front ++ back) = m.run front >>= fun next => next.run back := by
  induction front generalizing m with
  | nil => rfl
  | cons c rest ih =>
      rw [List.cons_append, Marks.run, Marks.run]
      cases m.next c with
      | error cause => rfl
      | ok next => exact ih

theorem check_append_asterisk (h : check t = .ok ()) : check (t ++ ['*']) = .ok () := by
  obtain ⟨marks, hmarks, hcomplete⟩ := Except.bind_eq_ok_iff.mp h
  split at hcomplete
  · rename_i hlast
    rw [Bool.and_eq_true] at hlast
    have hrun : Marks.start.run (t ++ ['*']) = .ok marks := by
      rw [Marks.run_append, hmarks]
      rfl
    refine Except.bind_eq_ok_iff.mpr ⟨marks, hrun, if_pos ?_⟩
    rw [hlast.1, List.getLast?_concat]
    rfl
  · cases hcomplete

theorem port?_append_asterisk : port? ⟨t ++ ['*']⟩ = none := by
  have hmem : '*' ∈ Text.afterLast ':' (t ++ ['*']) := by
    rw [Text.afterLast_append_singleton (by decide)]
    exact List.mem_concat_self
  rw [port?]
  split
  · split
    · rename_i digits hdigits
      rw [hdigits] at hmem
      exact Text.number?_of_mem (List.mem_of_ne_of_mem (by decide) hmem) rfl
    · exact Text.number?_of_mem hmem rfl
  · rfl

end Authority

namespace Uri

variable {t a target : Text} {u : Uri} {authority : Authority}

theorem forwardText_eq : u.forwardText a = "http://".toList ++ (a ++ u.writtenTarget) :=
  List.append_assoc _ _ _

theorem readTarget_writtenTarget (h : readTarget target = .ok (u.writtenPath, u.query)) :
    ∃ path, readTarget u.writtenTarget = .ok (path, u.query) ∧
      (path = u.writtenPath ∨ u.writtenPath = [] ∧ path = ['/']) := by
  rw [writtenTarget]
  split
  · rename_i hnothing
    rw [Bool.and_eq_true, List.isEmpty_iff, Option.isNone_iff_eq_none] at hnothing
    rw [hnothing.2]
    exact ⟨['/'], rfl, .inr ⟨hnothing.1, rfl⟩⟩
  · exact ⟨u.writtenPath, readTarget_written h, .inl rfl⟩

theorem isEnd_of_head?_writtenTarget (h : readTarget target = .ok (u.writtenPath, u.query))
    (houtside : ∀ c, target.head? = some c → Authority.isEnd c = true) :
    ∀ c, u.writtenTarget.head? = some c → Authority.isEnd c = true := by
  intro c hc
  rw [writtenTarget] at hc
  split at hc
  · cases hc
    rfl
  · have hpath : targetPath target = u.writtenPath :=
      (Prod.mk.inj (readTarget_eq_ok_iff.mp h).2).1
    -- An empty path leaves the question mark in front; any other begins as the target does.
    cases hwritten : u.writtenPath with
    | nil =>
        rw [hwritten, List.nil_append, querySuffix] at hc
        split at hc
        · cases hc
          rfl
        · cases hc
    | cons d rest =>
        obtain ⟨behind, happend⟩ : targetPath target <+: target := List.takeWhile_prefix _
        rw [hpath, hwritten] at happend
        rw [hwritten] at hc
        exact houtside c (by rw [← happend]; exact hc)

theorem parse_forwardText (ha : Authority.parse a = .ok authority)
    (h : readTarget target = .ok (u.writtenPath, u.query))
    (houtside : ∀ c, target.head? = some c → Authority.isEnd c = true)
    (hlength : Text.byteLength (u.forwardText a) ≤ maxBytes) :
    ∃ v, parse (u.forwardText a) = .ok v ∧ v.scheme = some .http ∧ v.authority = some authority ∧
      (v.path = if u.writtenPath = [] then ['/'] else u.writtenPath) ∧ v.query = u.query := by
  obtain ⟨hne, hcheck, hinside, rfl⟩ := Authority.parse_eq_ok_iff.mp ha
  obtain ⟨path, htarget, hpath⟩ := readTarget_writtenTarget h
  obtain ⟨hfits, hparts⟩ := readTarget_eq_ok_iff.mp htarget
  have houtside' := isEnd_of_head?_writtenTarget h houtside
  have hplain := isPlainHttpOf_http hcheck hne hinside houtside' hfits
  rw [forwardText_eq] at hlength ⊢
  refine ⟨_, hplain.parse_eq hlength, rfl, rfl, ?_, (Prod.mk.inj hparts).2⟩
  rw [path_of_scheme rfl, (Prod.mk.inj hparts).1]
  rcases hpath with rfl | ⟨hempty, rfl⟩
  · rfl
  · rw [hempty]
    rfl

theorem parse_forwardText_asterisk (ha : Authority.parse a = .ok authority)
    (hpath : u.writtenPath = ['*']) (hquery : u.query = none)
    (hlength : Text.byteLength (u.forwardText a) ≤ maxBytes) :
    parse (u.forwardText a) = .ok ⟨some .http, some ⟨a ++ ['*']⟩, [], none⟩ := by
  obtain ⟨hne, hcheck, hinside, -⟩ := Authority.parse_eq_ok_iff.mp ha
  have hinside' : ∀ c ∈ a ++ ['*'], Authority.isEnd c = false := by
    intro c hc
    rcases List.mem_append.mp hc with hmem | hmem
    · exact hinside c hmem
    · rw [List.mem_singleton.mp hmem]
      rfl
  have hplain :
      IsPlainHttpOf ("http://".toList ++ (a ++ ['*'] ++ [])) "http".toList (a ++ ['*']) [] :=
    isPlainHttpOf_http (Authority.check_append_asterisk hcheck) (by simp) hinside' (by simp) rfl
  have htarget : u.writtenTarget = ['*'] := by
    rw [writtenTarget, querySuffix, hpath, hquery]
    rfl
  have htext : u.forwardText a = "http://".toList ++ (a ++ ['*'] ++ []) := by
    rw [forwardText_eq, htarget, List.append_nil]
  rw [htext] at hlength ⊢
  exact hplain.parse_eq hlength

end Uri

variable {t a : Text} {u : Uri} {authority : Authority}

/-- Sent on to an authority, a URI that is not an authority alone has this authority and keeps its
path and its query, if and only if it is not the asterisk. The asterisk is read as the last
character of the authority, which then has no port. -/
theorem forward_uri_splits_iff (hu : Uri.parse t = .ok u)
    (hform : u.scheme.isSome = true ∨ u.authority = none) (ha : Authority.parse a = .ok authority)
    (hlength : Text.byteLength (u.forwardText a) ≤ Uri.maxBytes) :
    ∃ v, Uri.parse (u.forwardText a) = .ok v ∧ v.scheme = some .http ∧
      (v.authority = some authority ∧ v.path = u.path ∧ v.query = u.query ↔ t ≠ ['*']) ∧
      (t = ['*'] → v.authority = some ⟨a ++ ['*']⟩ ∧ v.port? = none ∧ v.path = ['/'] ∧
        v.query = none) := by
  cases Uri.readsAs_of_parse hu with
  | asterisk =>
      have hparse := Uri.parse_forwardText_asterisk ha rfl rfl hlength
      obtain ⟨-, -, -, rfl⟩ := Authority.parse_eq_ok_iff.mp ha
      refine ⟨_, hparse, rfl, ⟨?_, fun hne => absurd rfl hne⟩, fun _ => ⟨rfl, ?_, rfl, rfl⟩⟩
      · rintro ⟨hauthority, -, -⟩
        simp at hauthority
      · exact Authority.port?_append_asterisk
  | origin htarget =>
      rename_i rest path query
      have hslash : ∀ c, ('/' :: rest).head? = some c → Authority.isEnd c = true := by
        rintro c ⟨⟩
        rfl
      obtain ⟨v, hparse, hscheme, hauthority, hpath, hquery⟩ :=
        Uri.parse_forwardText ha htarget hslash hlength
      have hsame : v.path = Uri.path ⟨none, none, path, query⟩ := by
        -- The path starts with the slash, so it stands for itself.
        obtain ⟨-, hparts⟩ := Uri.readTarget_eq_ok_iff.mp htarget
        cases hparts
        exact hpath
      exact ⟨v, hparse, hscheme, ⟨fun _ => by simp, fun _ => ⟨hauthority, hsame, hquery⟩⟩, by simp⟩
  | authority hparse => simp at hform
  | absolute hscheme hread hne htarget =>
      have htext : t ≠ ['*'] := by
        rintro rfl
        cases hscheme
      obtain ⟨-, -, -, houtside⟩ := Authority.read_eq_ok_iff.mp hread
      obtain ⟨v, hparse, hhttp, hauthority, hpath, hquery⟩ :=
        Uri.parse_forwardText ha htarget houtside hlength
      rw [← Uri.path_of_scheme rfl] at hpath
      exact ⟨v, hparse, hhttp, ⟨fun _ => htext, fun _ => ⟨hauthority, hpath, hquery⟩⟩,
        fun hasterisk => absurd hasterisk htext⟩

theorem authority_in_path_stays_in_path :
    ∃ u v, Uri.parse "https://b:1//c@d?e=/@f#g".toList = .ok u ∧
      Uri.parse (u.forwardText "a@[::1]:80".toList) = .ok v ∧ v.scheme = some .http ∧
      v.host? = some "[::1]".toList ∧ v.port? = some 80 ∧ v.path = "//c@d".toList ∧
      v.query = some "e=/@f".toList := by
  have hu : Uri.parse "https://b:1//c@d?e=/@f#g".toList =
      .ok ⟨some .https, some ⟨"b:1".toList⟩, "//c@d".toList, some "e=/@f".toList⟩ := by
    decide +kernel
  have ha : Authority.parse "a@[::1]:80".toList = .ok ⟨"a@[::1]:80".toList⟩ := by
    decide +kernel
  obtain ⟨v, hparse, hscheme, hsplits, -⟩ :=
    forward_uri_splits_iff hu (.inl rfl) ha (by decide +kernel)
  obtain ⟨hauthority, hpath, hquery⟩ := hsplits.mpr (by decide)
  refine ⟨_, v, hu, hparse, hscheme, ?_, ?_, hpath, hquery⟩
  · rw [Uri.host?, hauthority]
    decide +kernel
  · rw [Uri.port?, hauthority]
    decide +kernel

theorem asterisk_takes_forwarded_port :
    ∃ u, Uri.parse ['*'] = .ok u ∧ u.authority = none ∧
      ∃ authority, Authority.parse "10.0.0.1:8080".toList = .ok authority ∧
        authority.port? = some 8080 ∧
        Text.byteLength (u.forwardText "10.0.0.1:8080".toList) ≤ Uri.maxBytes ∧
        ∃ v, Uri.parse (u.forwardText "10.0.0.1:8080".toList) = .ok v ∧
          v.authority = some ⟨"10.0.0.1:8080*".toList⟩ ∧ v.port? = none ∧ v.path = ['/'] := by
  decide +kernel

end Gatekeeper
