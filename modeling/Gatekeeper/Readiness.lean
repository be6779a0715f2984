import Gatekeeper.Check
import Gatekeeper.Counters
import Gatekeeper.Exchange
import Gatekeeper.Verdict

namespace Gatekeeper

/-- How long a check may take, and how long its reply may be. -/
structure CheckLimits where
  timeout : Option Duration
  maxReplyBytes : Nat
deriving DecidableEq

def CheckLimits.standard : CheckLimits where
  timeout := none
  maxReplyBytes := 4 * 1024 * 1024

/-- The URI of the check, if the settings make one up. -/
def Settings.checkUri (s : Settings) : Except Fault Uri := do
  let check ← Check.ofSettings s
  check.uri

/-- The request by which a check is sent. It has no body. -/
def Check.request (uri : Uri) : Request :=
  ⟨"GET".toList, uri, [("connection".toList, .ofText "keep-alive".toList)], ByteArray.empty⟩

namespace CheckLimits

/-- The verdict of what comes back; without one where neither an answer nor a limit ever comes. -/
def judge (limits : CheckLimits) : Exchange → Option (Except Fault Verdict)
  | .response r =>
    if limits.maxReplyBytes < r.body.size then
      some (.error (.unreadableReply "length limit exceeded".toList))
    else some (.ok (Verdict.ofReply r.headers r.body))
  | .failed failure => some (.error (.unanswered (.client failure)))
  | .silent => limits.timeout.map fun limit => .error (.timedOut limit)

end CheckLimits

/-- A check that was sent, if one was, and what it led to, if anything. -/
structure Inquiry where
  sent : Option Request
  result : Option (Except Fault Action)

/-- Asks for readiness. A check that has a URI counts, before it is known what comes back. -/
def Settings.ask (s : Settings) (limits : CheckLimits) (control : Request → Exchange) :
    Counted Inquiry := do
  match s.checkUri with
  | .error fault => return ⟨none, some (.error fault)⟩
  | .ok uri =>
    let request := Check.request uri
    modify Counters.addCheck
    let verdict := limits.judge (control request)
    return ⟨some request, verdict.map fun result => result.map (Action.ofVerdict · s.redirect)⟩

/-- Asks for readiness as `ask` does, without the counting. -/
def Settings.inquire (s : Settings) (limits : CheckLimits) (control : Request → Exchange) :
    Inquiry :=
  Counted.result (s.ask limits control)

end Gatekeeper
