import Gatekeeper.Config.Load

/-!
# Routing tables

What is looked up for a request: the route of its host, and the place that a redirect leads to. The
hosts of a table are in lower case. A table is replaced as a whole, and the change is reported by
hosts.
-/

namespace Gatekeeper

/-- A host, and the templates of the settings for requests to it. -/
structure Route where
  host : Text
  templates : Templates
deriving DecidableEq

/-- Routes, backends and the control service of routes that name none. -/
structure Table where
  routes : Dict Route
  backends : Dict Text
  controlUrl : Text
  /-- Every route is kept under its own host. -/
  host_eq : ∀ {host : Text} {route : Route}, routes.get? host = some route → route.host = host

namespace Table

def empty : Table where
  routes := Dict.empty
  backends := Dict.empty
  controlUrl := []
  host_eq h := by simp at h

/-- The table with each of the routes under its host. Of those with one host the last is kept. -/
def ofRoutes (routes : List Route) (backends : Dict Text) (controlUrl : Text) : Table where
  routes := Dict.ofList (routes.map fun route => (route.host, route))
  backends := backends
  controlUrl := controlUrl
  host_eq h := by
    obtain ⟨route, -, hentry⟩ := List.mem_map.mp (Dict.mem_of_get?_ofList h)
    cases hentry
    rfl

/-- The routes of a configuration, with their hosts in lower case. -/
def routesOf (c : Config) : List Route :=
  c.templates.entries.map fun (host, templates) => ⟨Text.lower host, templates⟩

/-- The table of a configuration. Its hosts are the lower-case forms of those that were written. -/
def ofConfig (c : Config) : Table :=
  ofRoutes (routesOf c) c.backends c.controlUrl

/-- The host that stands for all hosts without a route of their own. -/
def catchAll : Text :=
  ['_']

/-- The route of a host, without regard to the one for all others. -/
def route? (t : Table) (host : Text) : Option Route :=
  t.routes.get? host

/-- The route of a host, or else the one for all others. -/
def lookup (t : Table) (host : Text) : Option Route :=
  (t.route? host).or (t.route? catchAll)

/-- Where a redirect leads: to its own address, or to that of the backend it names. -/
def resolve (t : Table) (target : Text) : Except RedirectError Text :=
  match Redirect.parse target with
  | .error e => .error e
  | .ok (.address authority) => .ok authority.text
  | .ok (.backend name) =>
    match t.backends.get? name with
    | some address => .ok address
    | none => .error (.unknownBackend name)

/-- All routes, sorted by their hosts. -/
def listing (t : Table) : List Route :=
  t.routes.values.mergeSort fun a b => Text.isAtMost a.host b.host

def size (t : Table) : Nat :=
  t.routes.size

def isEmpty (t : Table) : Bool :=
  t.routes.entries.isEmpty

/-- The hosts that one table has more, less or as well as another; each list ascends. -/
structure Changes where
  added : List Text
  removed : List Text
  /-- The hosts that were there before and still are. -/
  updated : List Text
deriving DecidableEq

/-- What a replacement of one table by another brings, takes and leaves, by hosts. -/
def changes (old new : Table) : Changes where
  added := new.routes.keys.filter fun host => !old.routes.contains host
  removed := old.routes.keys.filter fun host => !new.routes.contains host
  updated := new.routes.keys.filter fun host => old.routes.contains host

/-- Loads a file and puts its table in the place of another, which stays if that fails. -/
def reload (current : Table) (content : FileContent) : Table × Except LoadError Changes :=
  match Config.load content with
  | .ok c =>
    let new := ofConfig c
    (new, .ok (changes current new))
  | .error e => (current, .error e)

end Table

end Gatekeeper
