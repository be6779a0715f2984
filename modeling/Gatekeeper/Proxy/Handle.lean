import Gatekeeper.Proxy.Dispatch
import Gatekeeper.Proxy.Forward
import Gatekeeper.Readiness

namespace Gatekeeper

/-- How long the servers behind may take. -/
structure Limits where
  check : CheckLimits
  request : Duration
deriving DecidableEq

def ServerOptions.limits (o : ServerOptions) : Limits where
  check := { timeout := o.controlTimeout, maxReplyBytes := o.maxReplyBytes }
  request := o.requestTimeout

/-- What handling a request did: the check and the request that were sent, and the response, which
is missing when a check without a time limit is never answered. -/
structure Handled where
  check : Option Request
  forwarded : Option Request
  response : Option Response

/-- Does what follows from the result of a check. Redirects are looked up in the given table. -/
def Table.perform (t : Table) (r : Request) (limits : Limits) (network : Network) :
    Except Fault Action → Counted (Option Request × Response)
  | .error fault => return (none, (ErrorReply.ofFault fault).response)
  | .ok (.respond page contentType) => return (none, Action.pageResponse page contentType)
  | .ok (.forward target) => do
    let forwarded ← t.send r target limits.request network.backend
    return (forwarded.sent, forwarded.response)

/-- Asks for the readiness of a request that has found its route. -/
def Dispatched.ask (d : Dispatched) (limits : Limits) (network : Network) : Counted Inquiry :=
  match d.settings with
  | .error fault => return ⟨none, some (.error fault)⟩
  | .ok settings => settings.ask limits.check network.control

/-- Handles a request with one table, and counts what is sent for it. -/
def Table.serve (t : Table) (limits : Limits) (network : Network) (freshId : Text)
    (client : IpAddress) (r : Request) : Counted Handled := do
  match t.dispatch r freshId client with
  | .error reply => return ⟨none, none, some reply.response⟩
  | .ok d =>
    let inquiry ← d.ask limits network
    match inquiry.result with
    | none => return ⟨inquiry.sent, none, none⟩
    | some result =>
      let (forwarded, response) ← t.perform d.request limits network result
      return ⟨inquiry.sent, forwarded, some response⟩

/-- Does what a check has led to as `perform` does, without the counting. -/
def Table.act (t : Table) (r : Request) (limits : Limits) (network : Network)
    (result : Except Fault Action) : Option Request × Response :=
  Counted.result (t.perform r limits network result)

def Dispatched.inquire (d : Dispatched) (limits : Limits) (network : Network) : Inquiry :=
  Counted.result (d.ask limits network)

/-- Handles a request as `serve` does, without the counting. -/
def Table.handle (t : Table) (limits : Limits) (network : Network) (freshId : Text)
    (client : IpAddress) (r : Request) : Handled :=
  Counted.result (t.serve limits network freshId client r)

end Gatekeeper
