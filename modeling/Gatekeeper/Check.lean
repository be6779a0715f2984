import Gatekeeper.Form
import Gatekeeper.Settings

namespace Gatekeeper

/-- The two ways to ask. A dynamic check is answered at once, with a page to show while the backends
start; a blocking one is answered when they are ready or the timeout has passed. -/
inductive Strategy where
  | dynamic
  | blocking (timeout : Text)
deriving DecidableEq, Repr

namespace Strategy

/-- A check blocks exactly when a timeout is given that is not empty. -/
def select (timeout : Option Text) : Strategy :=
  match timeout with
  | none => .dynamic
  | some [] => .dynamic
  | some timeout => .blocking timeout

def name : Strategy → Text
  | .dynamic => "dynamic".toList
  | .blocking _ => "blocking".toList

/-- The endpoint of the control service that answers checks of this kind. -/
def path (s : Strategy) : Text :=
  "/api/strategies/".toList ++ s.name

end Strategy

/-- Which backends a check is about: those with certain names, or all with a label. -/
inductive Selector where
  | names (names : List Text)
  | group (label : Text)
deriving DecidableEq, Repr

namespace Selector

/-- Names go before a group, and one of them must not be empty. -/
def ofSettings (s : Settings) : Except Fault Selector :=
  match s.names.filter (!·.isEmpty), s.group.filter (!·.isEmpty) with
  | some listed, _ => .ok (.names ((Text.pieces ',' listed).map Text.trim))
  | none, some label => .ok (.group label)
  | none, none => .error .missingTarget

/-- The pairs of a query that state a selector. -/
def parameters : Selector → List (Text × Text)
  | .names listed => listed.map fun name => ("names".toList, name)
  | .group label => [("group".toList, label)]

end Selector

/-- The question put to the control service: whether certain backends are ready. -/
structure Check where
  strategy : Strategy
  selector : Selector
  /-- The URL without the query. -/
  url : Text
  query : Text
deriving DecidableEq

namespace Check

/-- The parameters of a check, in the order in which they are written. -/
def parameters (strategy : Strategy) (selector : Selector) (s : Settings) : List (Text × Text) :=
  selector.parameters ++ ("session_duration".toList, s.sessionDuration) ::
    match strategy with
    | .dynamic =>
      [("display_name".toList, s.displayName), ("theme".toList, s.theme),
        ("refresh_frequency".toList, s.refreshFrequency), ("show_details".toList, s.showDetails)]
    | .blocking timeout => [("timeout".toList, timeout)]

/-- The check that settings ask for. Slashes at the end of the control URL are taken off, since the
endpoint brings one with it. -/
def ofSettings (s : Settings) : Except Fault Check := do
  let strategy := Strategy.select s.blockingTimeout
  let selector ← Selector.ofSettings s
  return {
    strategy
    selector
    url := Text.dropEndWhile (· == '/') s.controlUrl ++ strategy.path
    query := Form.encode (parameters strategy selector s) }

/-- The text that is read as the URI of the check. -/
def text (c : Check) : Text :=
  c.url ++ '?' :: c.query

/-- The URI of the check, which must be plain HTTP to some host. -/
def uri (c : Check) : Except Fault Uri :=
  match Uri.parse c.text with
  | .error cause => .error (.invalidCheckUri c.text cause)
  | .ok uri => if uri.isPlainHttp then .ok uri else .error (.unsupportedControlUrl c.url)

end Check

end Gatekeeper
