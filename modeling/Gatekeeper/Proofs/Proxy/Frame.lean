import Gatekeeper.Proofs.Proxy.ForwardingFields

namespace Gatekeeper

namespace Request

variable {r sent : Request} {freshId : Text} {client : IpAddress}

/-- The fields that are written on the way. -/
def wayFields : List Text :=
  idField :: forwardingFields

/-- The request is sent on as the other. Nothing but the fields that are written on the way may
differ, and one value identifies it: the first that it had if this is visible, and else a fresh
one. -/
structure IsSentAs (r : Request) (freshId : Text) (sent : Request) : Prop where
  method : sent.method = r.method
  body : sent.body = r.body
  values : ∀ name ∉ wayFields, sent.headers.values name = r.headers.values name
  ownId : ∀ value, (r.headers.values idField).head? = some value →
    value.bytes.all HeaderValue.isVisibleByte = true → sent.headers.values idField = [value]
  freshId : (∀ value, (r.headers.values idField).head? = some value →
    value.bytes.all HeaderValue.isVisibleByte = false) →
      sent.headers.values idField = [.ofText freshId]

theorem values_marked {name : Text} (h : name ∉ wayFields) :
    (r.marked freshId client).headers.values name = r.headers.values name := by
  obtain ⟨hid, hfor, hhost, hproto⟩ : name ≠ idField ∧ name ≠ forwardedForField ∧
      name ≠ forwardedHostField ∧ name ≠ forwardedProtoField := by
    simpa [wayFields, forwardingFields] using h
  rw [headers_marked]
  split <;> simp [hproto, hhost, hid, hfor]

theorem values_id_marked {value : HeaderValue}
    (h : HeaderValue.ofText? (r.identifier freshId) = some value) :
    (r.marked freshId client).headers.values idField = [value] := by
  have hidentified : (r.identifiedFields freshId client).values idField = [value] := by
    rw [identifiedFields, values_setText_of_ne (by decide)]
    simp [setText, h]
  rw [headers_marked]
  split <;> simp (disch := decide) [hidentified]

theorem ofText?_identifier {value : HeaderValue}
    (h : (r.headers.values idField).head? = some value)
    (hvisible : value.bytes.all HeaderValue.isVisibleByte = true) :
    HeaderValue.ofText? (r.identifier freshId) = some value := by
  obtain ⟨t, ht⟩ : ∃ t, value.text? = some t := ⟨_, if_pos hvisible⟩
  have hfirst : r.headers.firstText? idField = some t :=
    Option.bind_eq_some_iff.mpr ⟨value, h, ht⟩
  rw [identifier, hfirst]
  exact HeaderValue.ofText?_of_text? ht

theorem identifier_eq_of_not_visible
    (h : ∀ value, (r.headers.values idField).head? = some value →
      value.bytes.all HeaderValue.isVisibleByte = false) : r.identifier freshId = freshId := by
  have hnone : r.headers.firstText? idField = none := by
    refine Option.bind_eq_none_iff.mpr fun value hvalue => ?_
    rw [HeaderValue.text?, h value hvalue]
    rfl
  rw [identifier, hnone]
  rfl

theorem isSentAs_marked (hfresh : ∀ c ∈ freshId, Text.isVisible c = true) :
    r.IsSentAs freshId (r.marked freshId client) where
  method := rfl
  body := rfl
  values := fun _ => values_marked
  ownId := fun _ hvalue hvisible => values_id_marked (ofText?_identifier hvalue hvisible)
  freshId := by
    intro hnone
    refine values_id_marked ?_
    rw [identifier_eq_of_not_visible hnone, HeaderValue.ofText?_of_forall hfresh]

theorem IsSentAs.withUri {marked : Request} (h : r.IsSentAs freshId marked) (uri : Uri) :
    r.IsSentAs freshId { marked with uri := uri } :=
  ⟨h.method, h.body, h.values, h.ownId, h.freshId⟩

end Request

/-- A request that was sent on waits for its backend, or what came back at some moment is its
answer. -/
inductive Stage.Delivers (limits : Limits) (past : List Moment) (sent : Request) : Stage → Prop
  | waiting {e : Errand} {authority : Text} (h : e.request.forward? authority = some sent) :
      Delivers limits past sent (.forwarding e authority)
  | answered {m : Moment} (hmem : m ∈ past) :
      Delivers limits past sent
        (.answered (forwardedResponse limits.request ((m.peers.within limits).backend sent)))

namespace Flight

variable {limits : Limits} {past : List Moment} {f : Flight}

def Delivers (limits : Limits) (past : List Moment) (f : Flight) : Prop :=
  ∀ sent ∈ f.forwards, f.stage.Delivers limits past sent

theorem Delivers.step (h : f.Delivers limits past) (m : Moment) :
    (f.step limits m).Delivers limits (past ++ [m]) := by
  obtain ⟨stage, checks, forwards⟩ := f
  intro sent
  cases stage with
  | received r freshId client =>
      rw [Flight.step_received]
      split
      all_goals
        intro hsent
        cases h sent hsent
  | checking e =>
      rw [Flight.step_checking]
      split
      all_goals
        intro hsent
        cases h sent hsent
  | ready e =>
      rw [Flight.step_ready]
      split
      · intro hsent
        cases h sent hsent
      · intro hsent
        rcases List.mem_append.mp hsent with hearlier | hnow
        · cases h sent hearlier
        · exact .waiting (Option.mem_toList.mp hnow)
  | forwarding e authority =>
      have hwaits : sent ∈ forwards → e.request.forward? authority = some sent := by
        intro hsent
        cases h sent hsent with
        | waiting hforward => exact hforward
      rw [Flight.step_forwarding]
      split
      · rename_i hnone
        intro hsent
        cases hnone.symm.trans (hwaits hsent)
      · rename_i request hsome
        intro hsent
        cases hsome.symm.trans (hwaits hsent)
        exact .answered (List.mem_append_right past (List.mem_singleton_self m))
  | answered response =>
      intro hsent
      rw [Flight.step_answered]
      cases h sent hsent with
      | answered hmem => exact .answered (List.mem_append_left [m] hmem)

theorem Delivers.run (h : f.Delivers limits past) (moments : List Moment) :
    (f.run limits moments).Delivers limits (past ++ moments) := by
  induction moments generalizing past f with
  | nil =>
      rw [List.append_nil]
      exact h
  | cons m rest ih =>
      rw [run_cons, List.append_cons]
      exact ih (h.step m)

theorem delivers_run_start {r : Request} {freshId : Text} {client : IpAddress}
    (moments : List Moment) :
    ((start r freshId client).run limits moments).Delivers limits moments := by
  have hstart : (start r freshId client).Delivers limits [] := by
    intro sent hsent
    cases hsent
  exact hstart.run moments

end Flight

/-- A request that is sent on keeps its method, its body and the values under every name but four,
and one value identifies it. The check before it, and the place to which it is sent, come of
settings that were filled in with the request as it arrived. Once there is an answer, it is what the
backend sent back, if that came in time. -/
theorem forwarding_is_a_frame {r : Request} {freshId : Text}
    (hfresh : ∀ c ∈ freshId, Text.isVisible c = true) {client : IpAddress} {limits : Limits}
    {first : Moment} {rest : List Moment} {f : Flight}
    (hf : (Flight.start r freshId client).run limits (first :: rest) = f) {sent : Request}
    (hsent : sent ∈ f.forwards) :
    r.IsSentAs freshId sent ∧
      (∃ host route s uri, r.hostname? = some host ∧ first.table.lookup host = some route ∧
        Settings.ofScope (route.scope (RequestValues.capture r client false))
          first.table.controlUrl = .ok s ∧
        s.checkUri = .ok uri ∧ f.checks = [Check.request uri] ∧
        ∃ m ∈ rest, ∃ authority, m.table.resolve s.redirect = .ok authority ∧
          r.uri.forward? authority = some sent.uri) ∧
      ∀ response, f.stage = .answered response → ∃ m ∈ first :: rest,
        response = forwardedResponse limits.request ((m.peers.within limits).backend sent) ∧
          ∀ reply, (m.peers.within limits).backend sent = .response reply → response = reply := by
  subst hf
  obtain ⟨e, authority, he, hchecks, ⟨answer, m, hsub, -, hresolve⟩, hforward⟩ :=
    Flight.exists_errand_of_mem_forwards hsent
  have hm : m ∈ rest := hsub.subset (List.mem_cons_of_mem answer (List.mem_singleton_self m))
  obtain ⟨host, route, s, check, checkUri, hhost, hroute, hs, hcheck, hcheckUri, rfl⟩ :=
    Table.errand_eq_ok_iff.mp he
  obtain ⟨uri, huri, rfl⟩ := Request.forward?_eq_some_iff.mp hforward
  refine ⟨(Request.isSentAs_marked hfresh).withUri uri, ?_, ?_⟩
  · exact ⟨host, route, s, checkUri, hhost, hroute, hs,
      Settings.checkUri_eq_ok_iff.mpr ⟨check, hcheck, hcheckUri⟩, hchecks, m, hm, authority,
      hresolve, huri⟩
  · intro response hstage
    have hdelivers := Flight.delivers_run_start (first :: rest) _ hsent
    rw [hstage] at hdelivers
    cases hdelivers with
    | answered hmem =>
        refine ⟨_, hmem, rfl, ?_⟩
        intro reply hreply
        rw [hreply]
        rfl

/-- A route whose group is what the client says of the hops before it. -/
def Config.byEarlierHops : Config :=
  single "app.local".toList [(.group, "$http_x_forwarded_for".toList), (.redirect, "@app".toList)]
    [("app".toList, "10.0.0.1:80".toList)]

/-- An identifier that cannot be read in front of one that can, and two values of one name. -/
def Request.withRepeatedFields (r : Request) : Request :=
  { r with headers := r.headers ++
      [(idField, .ofText "\u00e9".toList), (idField, .ofText "a".toList),
        ("x-tag".toList, .ofText "b".toList), ("x-tag".toList, .ofText "\u00e9".toList),
        (forwardedForField, .ofText "c".toList)] }

theorem repeated_and_unreadable_values_are_sent_on :
    let limits := ServerOptions.standard.limits
    let client := IpAddress.v4 [127, 0, 0, 1]
    let reply : Response := ⟨404, [("set-cookie".toList, .ofText "a".toList),
      ("set-cookie".toList, .ofText "b".toList)], bodyOfText "none".toList⟩
    let m : Moment := ⟨.ofConfig .byEarlierHops,
      { Peers.ready 0 with backend := fun _ => ⟨.response reply, 0⟩ }⟩
    let freshId := "01234567-89ab-4cde-8f01-23456789abcd".toList
    let r := (Request.ofHost "app.local".toList).withRepeatedFields
    ∃ f sent, (Flight.start r freshId client).run limits [m, m, m, m] = f ∧ f.forwards = [sent] ∧
      f.stage = .answered reply ∧
      sent.headers.values "x-tag".toList = [.ofText "b".toList, .ofText "\u00e9".toList] ∧
      sent.headers.values Request.idField = [.ofText freshId] ∧
      ∃ (s : Settings) (uri : Uri), s.group = some "c".toList ∧ s.checkUri = .ok uri ∧
        f.checks = [Check.request uri] := by
  intro limits client reply m freshId r
  generalize hf : (Flight.start r freshId client).run limits [m, m, m, m] = f
  obtain ⟨sent, hforwards⟩ : ∃ sent, f.forwards = [sent] := by
    rw [← List.length_eq_one_iff, ← hf]
    decide +kernel
  have hstage : f.stage = .answered reply := by
    rw [← hf]
    decide +kernel
  have hfresh : freshId.all Text.isVisible = true := by
    decide
  have hsent : sent ∈ f.forwards := by
    rw [hforwards]
    exact List.mem_singleton_self sent
  obtain ⟨hframe, ⟨host, route, s, uri, hhost, hroute, hs, huri, hchecks, -⟩, -⟩ :=
    forwarding_is_a_frame (List.all_eq_true.mp hfresh) hf hsent
  have htag := hframe.values "x-tag".toList (by decide)
  have hid := hframe.freshId (by decide +kernel)
  have hgroup : (r.hostname?.bind m.table.lookup).map (fun route =>
      (Settings.ofScope (route.scope (RequestValues.capture r client false))
        m.table.controlUrl).map Settings.group) = some (.ok (some "c".toList)) := by
    decide +kernel
  rw [hhost, Option.bind_some, hroute, Option.map_some, hs] at hgroup
  refine ⟨f, sent, rfl, hforwards, hstage, ?_, hid, s, uri, ?_, huri, hchecks⟩
  · rw [htag]
    decide +kernel
  · exact Except.ok.inj (Option.some.inj hgroup)

end Gatekeeper
