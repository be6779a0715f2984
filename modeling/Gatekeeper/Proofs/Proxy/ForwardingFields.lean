import Gatekeeper.Proofs.Http.Header
import Gatekeeper.Proofs.Net.Address
import Gatekeeper.Proofs.Proxy.FailClosed

namespace Gatekeeper

/-- What a request says of the hops before it. -/
structure Hops where
  clients : List HeaderValue
  hosts : List HeaderValue
  protocols : List HeaderValue
deriving DecidableEq

namespace Request

variable {r : Request} {freshId : Text} {client : IpAddress}

def forwardingFields : List Text :=
  [forwardedForField, forwardedHostField, forwardedProtoField]

/-- What a request says of the hops before it. -/
def hops (r : Request) : Hops where
  clients := r.headers.values forwardedForField
  hosts := r.headers.values forwardedHostField
  protocols := r.headers.values forwardedProtoField

/-- The request without what its client says of earlier hops. -/
def withoutHops (r : Request) : Request :=
  { r with headers := r.headers.filter (·.1 ∉ forwardingFields) }

@[simp] theorem values_withoutHops {name : Text} (h : name ∉ forwardingFields) :
    r.withoutHops.headers.values name = r.headers.values name :=
  Headers.values_filter (· ∉ forwardingFields) (by simpa using h)

section

variable {headers : Headers} {name other t : Text}

@[simp] theorem values_setText_of_ne (h : other ≠ name) :
    (setText headers name t).values other = headers.values other := by
  rw [setText]
  split <;> simp [h]

@[simp] theorem values_setText (h : ∀ c ∈ t, Text.isVisible c = true) :
    (setText headers name t).values name = [.ofText t] := by
  simp [setText, HeaderValue.ofText?_of_forall h]

@[simp] theorem without_setText : (setText headers name t).without name = headers.without name := by
  rw [setText]
  split <;> simp

@[simp] theorem without_setText_of_ne (h : other ≠ name) :
    (setText headers name t).without other = setText (headers.without other) name t := by
  rw [setText, setText]
  split <;> simp [h]

end

/-- The fields that are set before the host is looked at. -/
def identifiedFields (r : Request) (freshId : Text) (client : IpAddress) : Headers :=
  setText (setText r.headers idField (r.identifier freshId)) forwardedForField client.text

@[simp] theorem values_identifiedFields_of_ne {name : Text} (hid : name ≠ idField)
    (hfor : name ≠ forwardedForField) :
    (r.identifiedFields freshId client).values name = r.headers.values name := by
  simp [identifiedFields, hfor, hid]

theorem headers_marked :
    (r.marked freshId client).headers =
      (match (r.identifiedFields freshId client).first? "host".toList with
        | some host => (r.identifiedFields freshId client).set forwardedHostField host
        | none => r.identifiedFields freshId client).set
          forwardedProtoField (.ofText "http".toList) :=
  rfl

theorem first?_host_identifiedFields :
    (r.identifiedFields freshId client).first? "host".toList = r.headers.first? "host".toList :=
  congrArg List.head? (values_identifiedFields_of_ne (by decide) (by decide))

@[simp] theorem values_identifiedFields :
    (r.identifiedFields freshId client).values forwardedForField = [.ofText client.text] :=
  values_setText IpAddress.isVisible_of_mem_text

theorem hops_marked_of_host {host : HeaderValue}
    (h : r.headers.first? "host".toList = some host) :
    (r.marked freshId client).hops =
      ⟨[.ofText client.text], [host], [.ofText "http".toList]⟩ := by
  rw [hops, headers_marked, first?_host_identifiedFields, h]
  simp (disch := decide)

theorem hops_marked_of_no_host (h : r.headers.first? "host".toList = none) :
    (r.marked freshId client).hops =
      ⟨[.ofText client.text], r.hops.hosts, [.ofText "http".toList]⟩ := by
  rw [hops, headers_marked, first?_host_identifiedFields, h]
  simp (disch := decide) [hops]

theorem first?_host_eq {r r' : Request} (h : r.withoutHops = r'.withoutHops) :
    r.headers.first? "host".toList = r'.headers.first? "host".toList := by
  have hname : Text.asciiLower "host".toList ∉ forwardingFields := by
    decide
  rw [Headers.first?, ← values_withoutHops hname, h, values_withoutHops hname, Headers.first?]

theorem forward?_eq_some_iff {sent : Request} {authority : Text} :
    r.forward? authority = some sent ↔
      ∃ uri, r.uri.forward? authority = some uri ∧ sent = { r with uri := uri } := by
  rw [forward?, Headers.copied_eq, Option.map_eq_some_iff]
  simp only [eq_comm]

theorem hops_of_forward? {sent : Request} {authority : Text}
    (h : r.forward? authority = some sent) : sent.hops = r.hops := by
  obtain ⟨uri, -, rfl⟩ := forward?_eq_some_iff.mp h
  rfl

end Request

theorem Flight.hops_of_mem_forwards {r : Request} {freshId : Text} {client : IpAddress}
    {limits : Limits} {moments : List Moment} {sent : Request}
    (h : sent ∈ ((start r freshId client).run limits moments).forwards) :
    sent.hops = (r.marked freshId client).hops := by
  cases moments with
  | nil => cases h
  | cons first rest =>
      obtain ⟨e, authority, he, -, -, hforward⟩ := exists_errand_of_mem_forwards h
      obtain ⟨_, _, _, _, _, -, -, -, -, -, rfl⟩ := Table.errand_eq_ok_iff.mp he
      exact Request.hops_of_forward? hforward

/-- Requests that differ in what their clients say of earlier hops are sent on with the same words
about them, one value for each field, if they name their host in a field. If they do not, the host
is what each client said. -/
theorem forwarding_fields_agree {r r' : Request} (hsame : r.withoutHops = r'.withoutHops)
    {client : IpAddress} {freshId freshId' : Text} {limits limits' : Limits}
    {moments moments' : List Moment} {sent sent' : Request}
    (hsent : sent ∈ ((Flight.start r freshId client).run limits moments).forwards)
    (hsent' : sent' ∈ ((Flight.start r' freshId' client).run limits' moments').forwards) :
    (∀ host, r.headers.first? "host".toList = some host →
        sent.hops = ⟨[.ofText client.text], [host], [.ofText "http".toList]⟩ ∧
          sent'.hops = sent.hops) ∧
      (r.headers.first? "host".toList = none →
        sent.hops = ⟨[.ofText client.text], r.hops.hosts, [.ofText "http".toList]⟩ ∧
          sent'.hops = ⟨[.ofText client.text], r'.hops.hosts, [.ofText "http".toList]⟩) := by
  have hhost := Request.first?_host_eq hsame
  rw [Flight.hops_of_mem_forwards hsent, Flight.hops_of_mem_forwards hsent']
  constructor
  · intro host h
    rw [Request.hops_marked_of_host h, Request.hops_marked_of_host (hhost.symm.trans h)]
    exact ⟨rfl, rfl⟩
  · intro h
    exact ⟨Request.hops_marked_of_no_host h, Request.hops_marked_of_no_host (hhost.symm.trans h)⟩

/-- The request with the same words under each of the three names. -/
def Request.claiming (r : Request) (words : List Text) : Request :=
  { r with headers := r.headers ++
      forwardingFields.flatMap fun name => words.map fun t => (name, .ofText t) }

theorem claims_of_client_are_dropped :
    let limits := ServerOptions.standard.limits
    let m : Moment := ⟨.ofConfig (.toBackend "app".toList "10.0.0.1:80".toList), .ready 0⟩
    let r := Request.ofHost "app.local".toList
    let r' := r.claiming ["evil.example".toList, "::1".toList]
    ∃ sent ∈ ((Flight.start r [] (.v4 [127, 0, 0, 1])).run limits [m, m, m]).forwards,
      ∃ sent' ∈ ((Flight.start r' [] (.v4 [127, 0, 0, 1])).run limits [m, m, m]).forwards,
        sent.hops = ⟨[.ofText "127.0.0.1".toList], [.ofText "app.local".toList],
          [.ofText "http".toList]⟩ ∧ sent'.hops = sent.hops := by
  intro limits m r r'
  obtain ⟨sent, hsent⟩ := List.exists_mem_of_ne_nil
    ((Flight.start r [] (.v4 [127, 0, 0, 1])).run limits [m, m, m]).forwards (by decide +kernel)
  obtain ⟨sent', hsent'⟩ := List.exists_mem_of_ne_nil
    ((Flight.start r' [] (.v4 [127, 0, 0, 1])).run limits [m, m, m]).forwards (by decide +kernel)
  have hsame : r.withoutHops = r'.withoutHops := by
    decide +kernel
  obtain ⟨hown, hagree⟩ := (forwarding_fields_agree hsame hsent hsent').1
    (.ofText "app.local".toList) (by decide +kernel)
  exact ⟨sent, hsent, sent', hsent', hown, hagree⟩

/-- Without a field that names the host the client can say what it likes about it. -/
theorem claimed_host_is_sent_on :
    let limits := ServerOptions.standard.limits
    let m : Moment := ⟨.ofConfig (.toBackend "app".toList "10.0.0.1:80".toList), .ready 0⟩
    let r : Request := ⟨"GET".toList, ⟨some .http, some ⟨"app.local".toList⟩, ['/'], none⟩, [],
      ByteArray.empty⟩
    let r' := r.claiming ["evil.example".toList, "::1".toList]
    r.withoutHops = r'.withoutHops ∧
      ∃ sent ∈ ((Flight.start r [] (.v4 [127, 0, 0, 1])).run limits [m, m, m]).forwards,
        ∃ sent' ∈ ((Flight.start r' [] (.v4 [127, 0, 0, 1])).run limits [m, m, m]).forwards,
          sent.hops.hosts = [] ∧
            sent'.hops.hosts = [.ofText "evil.example".toList, .ofText "::1".toList] := by
  decide +kernel

end Gatekeeper
