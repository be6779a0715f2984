import Gatekeeper.Proofs.Dict
import Gatekeeper.Proofs.Form
import Gatekeeper.Proofs.Template.Substitution
import Gatekeeper.Proofs.Uri.PlainHttp
import Gatekeeper.Proofs.Uri.Query

namespace Gatekeeper

namespace Uri

/-- The text is a path that can stand in a URI. -/
def IsPath (t : Text) : Prop :=
  t.head? = some '/' ∧ ∀ c ∈ t, isPathChar c = true ∧ c ≠ '?' ∧ c ≠ '#'

instance (t : Text) : Decidable (IsPath t) :=
  decidable_of_iff
    (t.head? = some '/' ∧ t.all (fun c => isPathChar c && c != '?' && c != '#') = true) (by
      simp [IsPath, List.all_eq_true, and_assoc])

/-- The text can stand in front of a path: it is empty, or it is the scheme `http` with an
authority. -/
inductive PrecedesPath : Text → Prop where
  | nothing : PrecedesPath []
  | authority {a : Text} {authority : Authority} (hparse : Authority.parse a = .ok authority) :
      PrecedesPath ("http://".toList ++ a)

variable {front path query : Text}

section

variable (hpath : IsPath path) (hfits : fitsQuery query = true) (hfragment : '#' ∉ query)

include hpath

theorem IsPath.not_mem {mark : Char} (hmark : mark = '?' ∨ mark = '#') : mark ∉ path := by
  intro hmem
  obtain ⟨-, hquery, hfragment⟩ := hpath.2 mark hmem
  exact hmark.elim hquery hfragment

theorem IsPath.fitsTarget : fitsTarget path = true := by
  obtain ⟨-, hall⟩ := hpath
  induction path with
  | nil => rfl
  | cons c rest ih =>
      obtain ⟨hc, hrest⟩ := List.forall_mem_cons.mp hall
      rw [Uri.fitsTarget, if_neg hc.2.1, hc.1, ih hrest]
      exact Bool.or_true _

include hfits hfragment

theorem IsPath.readTarget_append : readTarget (path ++ '?' :: query) = .ok (path, some query) := by
  have hmark := hpath.not_mem (.inl rfl)
  have hhash := hpath.not_mem (.inr rfl)
  have hquery : Uri.fitsTarget ('?' :: query) = true := by
    rw [Uri.fitsTarget, if_pos rfl, hfits]
  refine readTarget_eq_ok_iff.mpr ⟨?_, Prod.ext ?_ ?_⟩
  · rw [fitsTarget_append, hpath.fitsTarget, if_neg (by simpa using hmark), hquery, Bool.or_true,
      Bool.and_true]
  · exact (targetPath_append hmark hhash).trans (List.append_nil path)
  · exact (targetQuery?_append hmark hhash).trans (targetQuery?_cons hfragment)

theorem exists_parse_of_precedesPath (hfront : PrecedesPath front)
    (hlength : Text.byteLength (front ++ (path ++ '?' :: query)) ≤ maxBytes) :
    ∃ uri, parse (front ++ (path ++ '?' :: query)) = .ok uri ∧ uri.path = path ∧
      uri.query = some query := by
  have htarget := hpath.readTarget_append hfits hfragment
  obtain ⟨rest, rfl⟩ := List.head?_eq_some_iff.mp hpath.1
  cases hfront with
  | nothing =>
      refine ⟨⟨none, none, '/' :: rest, some query⟩, ?_, rfl, rfl⟩
      rw [List.nil_append, List.cons_append] at hlength ⊢
      rw [parse_slash hlength, ← List.cons_append, htarget]
      rfl
  | authority hparse =>
      rename_i a authority
      obtain ⟨hne, hcheck, hinside, -⟩ := Authority.parse_eq_ok_iff.mp hparse
      obtain ⟨hfits, hparts⟩ := readTarget_eq_ok_iff.mp htarget
      have houtside : ∀ c, ('/' :: rest ++ '?' :: query).head? = some c →
          Authority.isEnd c = true := by
        rintro c ⟨⟩
        rfl
      have hplain := isPlainHttpOf_http hcheck hne hinside houtside hfits
      rw [List.append_assoc] at hlength ⊢
      refine ⟨_, hplain.parse_eq hlength, ?_, (Prod.mk.inj hparts).2⟩
      rw [(Prod.mk.inj hparts).1]
      rfl

end

end Uri

namespace RequestValues

variable {r : Request} {pairs : List (Text × Text)}

theorem value_argument (v : RequestValues) (name : Text) :
    v.value ("arg_".toList ++ name) = v.argument name := by
  rw [value, if_neg, if_neg, if_neg, if_neg, if_neg, if_neg, if_neg]
  · rfl
  all_goals simp

theorem argument_capture (h : r.uri.query = some (Form.encode pairs)) (client : IpAddress)
    (secure : Bool) (name : Text) :
    (capture r client secure).argument name = (Dict.find? name pairs).getD [] := by
  rw [argument, capture, h, Option.getD_some, Form.decode_encode, Dict.find?_eq_map]

end RequestValues

/-- A form encoding behind a path makes a URI, if that does not get too long. In a request for this
URI each argument has the first value that the encoding was made of under its name, or an empty one
if there is none, and a template that names the argument in braces renders to that value. -/
theorem arguments_survive_capture {front path : Text} (hfront : Uri.PrecedesPath front)
    (hpath : Uri.IsPath path) (pairs : List (Text × Text))
    (hlength : Text.byteLength (front ++ (path ++ '?' :: Form.encode pairs)) ≤ Uri.maxBytes) :
    ∃ uri, Uri.parse (front ++ (path ++ '?' :: Form.encode pairs)) = .ok uri ∧ uri.path = path ∧
      ∀ r : Request, r.uri = uri → ∀ (client : IpAddress) (secure : Bool) (name : Text),
        let v := RequestValues.capture r client secure
        v.value ("arg_".toList ++ name) = (Dict.find? name pairs).getD [] ∧
          ('\x7d' ∉ name → v.render ("$\x7barg_".toList ++ name ++ ['\x7d']) =
            (Dict.find? name pairs).getD []) := by
  obtain ⟨uri, hparse, hsame, hquery⟩ := Uri.exists_parse_of_precedesPath hpath
    (Form.fitsQuery_encode pairs) (Form.fragment_not_mem_encode pairs) hfront hlength
  refine ⟨uri, hparse, hsame, ?_⟩
  rintro r rfl client secure name v
  have hvalue : v.value ("arg_".toList ++ name) = (Dict.find? name pairs).getD [] :=
    (v.value_argument name).trans (RequestValues.argument_capture hquery client secure name)
  refine ⟨hvalue, ?_⟩
  intro hname
  have hbraces : '\x7d' ∉ "arg_".toList ++ name := by
    simpa using hname
  calc
    v.render ("$\x7barg_".toList ++ name ++ ['\x7d'])
    _ = Template.render v.value ('$' :: '\x7b' :: ("arg_".toList ++ name ++ '\x7d' :: [])) :=
      congrArg v.render (by simp)
    _ = v.value ("arg_".toList ++ name) ++ Template.render v.value [] :=
      Template.render_braced hbraces []
    _ = (Dict.find? name pairs).getD [] := by
      rw [hvalue, Template.render_nil, List.append_nil]

theorem marks_in_arguments_survive :
    ∃ uri, Uri.parse ("http://app.local:80".toList ++ ("/a".toList ++ '?' :: Form.encode
        [("x&y".toList, "1=2 +%41".toList), ("".toList, "ß$$".toList), ("x&y".toList, [])])) =
          .ok uri ∧
      let v := RequestValues.capture ⟨"GET".toList, uri, [], ByteArray.empty⟩
        (.v4 [127, 0, 0, 1]) false
      v.value "arg_x&y".toList = "1=2 +%41".toList ∧ v.value "arg_z".toList = [] ∧
        v.render "$\x7barg_\x7d".toList = "ß$$".toList := by
  have hpath : Uri.IsPath "/a".toList := by
    decide
  obtain ⟨uri, hparse, -, harguments⟩ := arguments_survive_capture
    (.authority (a := "app.local:80".toList) rfl) hpath
    [("x&y".toList, "1=2 +%41".toList), ("".toList, "ß$$".toList), ("x&y".toList, [])]
    (by decide +kernel)
  refine ⟨uri, hparse, ?_, ?_, ?_⟩
  · exact (harguments _ rfl _ _ "x&y".toList).1
  · exact (harguments _ rfl _ _ "z".toList).1
  · exact (harguments _ rfl _ _ []).2 (by simp)

end Gatekeeper
