import Gatekeeper.Config.Basic
import Gatekeeper.Redirect
import Gatekeeper.Settings
import Gatekeeper.Template.Basic
import Gatekeeper.Text.LowerCase

namespace Gatekeeper

/-- What can be wrong with the merged templates of a route. -/
inductive RouteFault where
  | badUrl (url : Text)
  | missingRedirect
  | badRedirect (cause : RedirectError)
  | missingTarget
  | twoTargets
deriving DecidableEq, Repr

def RouteFault.message : RouteFault → Text
  | .badUrl url => Setting.url.key ++ " '".toList ++ url ++ "' must be an http:// URL".toList
  | .missingRedirect => "'".toList ++ Setting.redirect.key ++ "' is required".toList
  | .badRedirect cause => cause.message
  | .missingTarget =>
    "you must specify ".toList ++ Setting.names.key ++ " or ".toList ++ Setting.group.key
  | .twoTargets =>
    "you must specify either ".toList ++ Setting.names.key ++ " or ".toList ++
      Setting.group.key ++ ", not both".toList

/-- What can be wrong with a configuration. -/
inductive ConfigFault where
  | badControlUrl (url : Text)
  | badBackend (name address : Text)
  /-- Two hosts of which the first comes before the second in order. -/
  | hostClash (earlier later : Text)
  | route (host : Text) (fault : RouteFault)
deriving DecidableEq, Repr

def ConfigFault.message : ConfigFault → Text
  | .badControlUrl url => "control.url '".toList ++ url ++ "' must be an http:// URL".toList
  | .badBackend name address =>
    "Upstream '".toList ++ name ++ "': '".toList ++ address ++
      "' is not a valid host:port".toList
  | .hostClash earlier later =>
    "Routes '".toList ++ earlier ++ "' and '".toList ++ later ++ "' differ only in case".toList
  | .route host fault => "Route '".toList ++ host ++ "': ".toList ++ fault.message

namespace Templates

def of? (t : Templates) (s : Setting) : Option Text :=
  t.get? s.key

/-- The setting has a template that may give a value other than a blank one. -/
def declares (t : Templates) (s : Setting) : Bool :=
  match t.of? s with
  | some template => Template.isDynamic template || !Text.isBlank template
  | none => false

/-- The setting has a template that always gives one value, which is not blank. -/
def fixes (t : Templates) (s : Setting) : Bool :=
  match t.of? s with
  | some template => !Template.isDynamic template && !Text.isBlank template
  | none => false

/-- The URL of the control service is usable, as far as it is known. -/
def urlFault? (t : Templates) : Option RouteFault :=
  match t.of? .url with
  | some url =>
    if Template.isDynamic url || Text.isBlank url || Uri.isPlainHttpText url then none
    else some (.badUrl url)
  | none => none

/-- There is a redirect, and it leads to a known place, as far as that is known. -/
def redirectFault? (backends : Dict Text) (t : Templates) : Option RouteFault :=
  match t.of? .redirect with
  | none => some .missingRedirect
  | some target =>
    if Template.isDynamic target then none
    else
      match Redirect.parse target with
      | .ok (.backend name) =>
        if backends.contains name then none else some (.badRedirect (.unknownBackend name))
      | .ok (.address _) => none
      | .error cause => some (.badRedirect cause)

/-- Either names or a group say what to check. -/
def targetFault? (t : Templates) : Option RouteFault :=
  if !t.declares .names && !t.declares .group then some .missingTarget
  else if t.fixes .names && t.fixes .group then some .twoTargets
  else none

/-- The first fault of a route: that of its URL, its redirect or its target. -/
def fault? (backends : Dict Text) (t : Templates) : Option RouteFault :=
  t.urlFault?.or ((t.redirectFault? backends).or t.targetFault?)

end Templates

namespace Config

/-- The hosts that have the lower-case form of an earlier one. Of several earlier ones the last is
named. -/
def clashes (seen : List (Text × Text)) : List Text → List ConfigFault
  | [] => []
  | host :: rest =>
    let folded := Text.lower host
    let others := clashes ((folded, host) :: seen) rest
    match seen.find? (·.1 = folded) with
    | some (_, earlier) => .hostClash earlier host :: others
    | none => others

def controlFaults (c : Config) : List ConfigFault :=
  if Uri.isPlainHttpText c.controlUrl then [] else [.badControlUrl c.controlUrl]

/-- Backends whose address is none. -/
def backendFaults (c : Config) : List ConfigFault :=
  c.backends.entries.filterMap fun (name, address) =>
    match Authority.parse address with
    | .ok _ => none
    | .error _ => some (.badBackend name address)

/-- Routes whose merged templates have a fault. -/
def routeFaults (c : Config) : List ConfigFault :=
  c.templates.entries.filterMap fun (host, templates) =>
    (Templates.fault? c.backends templates).map (.route host)

/-- All faults: of the control URL, of the backends, of hosts that differ only in case, and the
first one of each route. -/
def faults (c : Config) : List ConfigFault :=
  c.controlFaults ++ c.backendFaults ++ clashes [] c.routes.keys ++ c.routeFaults

/-- The configuration may be used. -/
def IsValid (c : Config) : Prop :=
  c.faults = []

instance (c : Config) : Decidable c.IsValid :=
  inferInstanceAs (Decidable (c.faults = []))

end Config

end Gatekeeper
