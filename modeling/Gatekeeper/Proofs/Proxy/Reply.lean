import Gatekeeper.Proofs.Proxy.ForwardingFields

namespace Gatekeeper

/-- The first status of the reply is `ready`. -/
def Response.SaysReady (reply : Response) : Prop :=
  (reply.headers.values Verdict.statusField).head? = some (.ofText "ready".toList)

instance (reply : Response) : Decidable reply.SaysReady :=
  inferInstanceAs (Decidable (_ = _))

/-- The control service replies to a check in time, and not at too great a length. -/
structure Peers.Replies (p : Peers) (limits : CheckLimits) (check : Request) (reply : Response) :
    Prop where
  exchange : (p.control check).exchange = .response reply
  isInTime : (p.control check).isInTime limits.timeout = true
  size : reply.body.size ≤ limits.maxReplyBytes

/-- A page shows a reply: it has the body, its length, the first type, and no other field. -/
structure Response.Shows (page reply : Response) : Prop where
  status : page.status = 200
  body : page.body = reply.body
  length : page.headers.values "content-length".toList =
    [.ofText (Text.ofNat reply.body.size)]
  type : page.headers.values "content-type".toList =
    (reply.headers.values "content-type".toList).take 1
  others : ∀ name, name ≠ "content-length".toList → name ≠ "content-type".toList →
    page.headers.values name = []

theorem Response.shows_pageResponse (reply : Response) :
    (Action.pageResponse reply.body (reply.headers.first? "content-type".toList)).Shows reply := by
  have hfirst : reply.headers.first? "content-type".toList =
      (reply.headers.values "content-type".toList).head? := rfl
  rw [hfirst]
  cases htypes : reply.headers.values "content-type".toList with
  | nil =>
      refine ⟨rfl, rfl, rfl, ?_, ?_⟩
      · rw [htypes]
        rfl
      · intro name hlength htype
        exact Headers.values_cons_of_ne hlength.symm
  | cons value others =>
      refine ⟨rfl, rfl, rfl, ?_, ?_⟩
      · rw [htypes]
        rfl
      · intro name hlength htype
        calc (Action.pageResponse reply.body (some value)).headers.values name
            = Headers.values [("content-type".toList, value)] name :=
              Headers.values_cons_of_ne hlength.symm
          _ = [] := Headers.values_cons_of_ne htype.symm

namespace Request

variable {r : Request} {freshId freshId' : Text} {client : IpAddress} {authority : Text}

def withoutId (r : Request) : Request :=
  { r with headers := r.headers.without idField }

@[simp] theorem without_identifiedFields :
    (r.identifiedFields freshId client).without idField =
      setText (r.headers.without idField) forwardedForField client.text := by
  simp (disch := decide) [identifiedFields]

theorem withoutId_marked :
    (r.marked freshId client).withoutId = (r.marked freshId' client).withoutId := by
  have hfields : (r.marked freshId client).headers.without idField =
      (r.marked freshId' client).headers.without idField := by
    simp only [headers_marked, first?_host_identifiedFields]
    cases r.headers.first? "host".toList <;> simp (disch := decide)
  rw [withoutId, hfields]
  rfl

theorem marked_of_identifier (h : r.identifier freshId = r.identifier freshId') :
    r.marked freshId client = r.marked freshId' client := by
  simp only [marked, h]

@[simp] theorem map_withoutId_forward? :
    (r.forward? authority).map withoutId = r.withoutId.forward? authority := by
  simp [forward?, withoutId, Function.comp_def]

end Request

theorem Table.forward_of_withoutId {t : Table} {r r' : Request} (h : r.withoutId = r'.withoutId)
    (target : Text) (limit : Duration) (backend backend' : Request → Exchange) :
    let forwarded := t.forward r target limit backend
    let forwarded' := t.forward r' target limit backend'
    forwarded.sent.map Request.withoutId = forwarded'.sent.map Request.withoutId ∧
      ((∀ sent sent', forwarded.sent = some sent → forwarded'.sent = some sent' →
        backend sent = backend' sent') → forwarded.response = forwarded'.response) := by
  cases hresolve : t.resolve target with
  | error cause => simp [forward_of_resolve_eq_error hresolve]
  | ok authority =>
      rw [forward_of_resolve hresolve, forward_of_resolve hresolve]
      have hsent : (r.forward? authority).map Request.withoutId =
          (r'.forward? authority).map Request.withoutId := by
        rw [Request.map_withoutId_forward?, h, Request.map_withoutId_forward?]
      revert hsent
      cases r.forward? authority with
      | none =>
          intro hsent
          rw [Option.map_none, eq_comm, Option.map_eq_none_iff] at hsent
          rw [hsent]
          exact ⟨rfl, fun _ => rfl⟩
      | some sent =>
          intro hsent
          obtain ⟨sent', hsent', hsame⟩ := Option.map_eq_some_iff.mp hsent.symm
          rw [hsent']
          refine ⟨hsent.trans (congrArg _ hsent'), ?_⟩
          intro hbackend
          exact congrArg (forwardedResponse limit) (hbackend sent sent' rfl rfl)

namespace Peers

variable {p : Peers} {limits : Limits} {check : Request} {reply : Response}

theorem Replies.judge (h : p.Replies limits.check check reply) :
    limits.check.judge ((p.within limits).control check) =
      some (.ok (Verdict.ofReply reply.headers reply.body)) := by
  have hreply : (p.within limits).control check = .response reply :=
    Reaction.within_eq_response_iff.mpr ⟨h.exchange, h.isInTime⟩
  rw [hreply, CheckLimits.judge, if_neg (Nat.not_lt_of_le h.size)]

theorem Replies.judge_of_ready (h : p.Replies limits.check check reply) (hready : reply.SaysReady) :
    limits.check.judge ((p.within limits).control check) = some (.ok .ready) := by
  rw [h.judge, Verdict.ofReply]
  exact congrArg _ (congrArg _ (if_pos hready))

theorem Replies.judge_of_not_ready (h : p.Replies limits.check check reply)
    (hready : ¬reply.SaysReady) :
    limits.check.judge ((p.within limits).control check) =
      some (.ok (.notReady reply.body (reply.headers.first? "content-type".toList))) := by
  rw [h.judge, Verdict.ofReply]
  exact congrArg _ (congrArg _ (if_neg hready))

end Peers

/-- A reply to a check that comes in time is shown to the client if it does not say that the
backends are ready, and nothing of it but its body and its type is seen. If it does, the request is
sent on, and any other such reply leads to the same request and the same response, up to the
identifier. -/
theorem reply_is_shown_or_dropped {t : Table} {limits : Limits} {r : Request}
    {freshId : Text} {client : IpAddress} {e : Errand} {p p' : Peers} {reply reply' : Response}
    (freshId' : Text) (he : t.errand r freshId client = .ok e)
    (hreply : p.Replies limits.check e.check reply)
    (hreply' : p'.Replies limits.check e.check reply') :
    let handled := t.handle limits (p.within limits) freshId client r
    let handled' := t.handle limits (p'.within limits) freshId' client r
    (¬reply.SaysReady → ∃ page, handled = ⟨some e.check, none, some page⟩ ∧ page.Shows reply ∧
      (¬reply'.SaysReady → reply.body = reply'.body →
        reply.headers.first? "content-type".toList = reply'.headers.first? "content-type".toList →
        handled = handled')) ∧
      (reply.SaysReady → handled.check = some e.check ∧
        (∀ authority, t.resolve e.target = .ok authority →
          handled.forwarded = e.request.forward? authority) ∧
        (reply'.SaysReady → handled.check = handled'.check ∧
          handled.forwarded.map Request.withoutId = handled'.forwarded.map Request.withoutId ∧
          ((∀ sent sent', handled.forwarded = some sent → handled'.forwarded = some sent' →
            p.backend sent = p'.backend sent') → handled.response = handled'.response) ∧
          (r.identifier freshId = r.identifier freshId' → p.backend = p'.backend →
            handled = handled'))) := by
  intro handled handled'
  have he' := Table.errand_of_errand he freshId'
  constructor
  · intro hready
    have hhandled : handled = _ := Table.handle_of_notReady he (hreply.judge_of_not_ready hready)
    refine ⟨_, hhandled, Response.shows_pageResponse reply, ?_⟩
    intro hready' hbody htype
    have hhandled' : handled' = _ :=
      Table.handle_of_notReady he' (hreply'.judge_of_not_ready hready')
    rw [hhandled, hhandled', hbody, htype]
  · intro hready
    have hhandled : handled = _ := Table.handle_of_ready he (hreply.judge_of_ready hready)
    refine ⟨by rw [hhandled], ?_, ?_⟩
    · intro authority hresolve
      rw [hhandled]
      exact Table.sent_of_resolve hresolve
    · intro hready'
      have hhandled' : handled' = _ := Table.handle_of_ready he' (hreply'.judge_of_ready hready')
      have hwithoutId : e.request.withoutId = (r.marked freshId' client).withoutId := by
        rw [Table.request_of_errand he, Request.withoutId_marked]
      obtain ⟨hsent, hresponse⟩ := Table.forward_of_withoutId (t := t) hwithoutId e.target
        limits.request (p.within limits).backend (p'.within limits).backend
      rw [hhandled, hhandled']
      refine ⟨rfl, hsent, ?_, ?_⟩
      · intro hbackend
        apply congrArg some
        apply hresponse
        intro sent sent' hsome hsome'
        exact congrArg (Reaction.within · (some limits.request)) (hbackend sent sent' hsome hsome')
      · intro hidentifier hbackend
        have hnetwork : (p.within limits).backend = (p'.within limits).backend := by
          rw [Peers.within, hbackend, Peers.within]
        rw [Table.request_of_errand he, Request.marked_of_identifier hidentifier, hnetwork]

/-- A reply with a status of its own, two types, and a field that is nobody's business. -/
def Response.verbose (verdict : Text) : Response where
  status := 503
  headers := [(Verdict.statusField, .ofText verdict),
    ("content-type".toList, .ofText "text/html".toList),
    ("content-type".toList, .ofText "text/plain".toList),
    ("set-cookie".toList, .ofText "a=b".toList)]
  body := bodyOfText "<p>starting</p>".toList

def Peers.verbose (verdict : Text) : Peers :=
  { ready 0 with control := fun _ => ⟨.response (.verbose verdict), 0⟩ }

theorem Peers.replies_verbose (verdict : Text) (check : Request) :
    (verbose verdict).Replies ServerOptions.standard.limits.check check (.verbose verdict) := by
  have hsize : (bodyOfText "<p>starting</p>".toList).size ≤ 4 * 1024 * 1024 := by
    decide
  exact ⟨rfl, rfl, hsize⟩

theorem Peers.replies_ready (check : Request) :
    (ready 0).Replies ServerOptions.standard.limits.check check
      ⟨200, [(Verdict.statusField, .ofText "ready".toList)], ByteArray.empty⟩ :=
  ⟨rfl, rfl, Nat.zero_le _⟩

theorem verbose_reply_is_shown_or_dropped :
    let limits := ServerOptions.standard.limits
    let handle (p : Peers) (freshId : Text) :=
      (Table.ofConfig (.toBackend "app".toList "10.0.0.1:80".toList)).handle limits
        (p.within limits) freshId (.v4 [127, 0, 0, 1]) (.ofHost "app.local".toList)
    (∃ page, (handle (.verbose "waiting".toList) []).response = some page ∧
      page.Shows (.verbose "waiting".toList)) ∧
      (handle (.verbose "ready".toList) []).forwarded.isSome = true ∧
      (handle (.verbose "ready".toList) []).response =
        (handle (.ready 0) "id".toList).response := by
  intro limits handle
  obtain ⟨e, he, htarget, hforward⟩ :
      ∃ e, (Table.ofConfig (.toBackend "app".toList "10.0.0.1:80".toList)).errand
          (.ofHost "app.local".toList) [] (.v4 [127, 0, 0, 1]) = .ok e ∧
        e.target = "@app".toList ∧ (e.request.forward? "10.0.0.1:80".toList).isSome = true := by
    decide +kernel
  constructor
  · have hreply := Peers.replies_verbose "waiting".toList e.check
    obtain ⟨page, hpage, hshows, -⟩ :=
      (reply_is_shown_or_dropped [] he hreply hreply).1 (by decide)
    exact ⟨page, congrArg Handled.response hpage, hshows⟩
  · obtain ⟨-, hforwarded, hagree⟩ := (reply_is_shown_or_dropped "id".toList he
      (Peers.replies_verbose "ready".toList e.check) (Peers.replies_ready e.check)).2 (by decide)
    obtain ⟨-, -, hresponse, -⟩ := hagree (by decide)
    refine ⟨?_, hresponse fun _ _ _ _ => rfl⟩
    have hsent : (handle (.verbose "ready".toList) []).forwarded = _ :=
      hforwarded "10.0.0.1:80".toList (by rw [htarget]; decide +kernel)
    rw [hsent, hforward]

end Gatekeeper
