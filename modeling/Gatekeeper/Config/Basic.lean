import Gatekeeper.Dict
import Gatekeeper.Duration

namespace Gatekeeper

/-- The templates of settings, by the names of the settings. -/
abbrev Templates := Dict Text

/-- How the server runs. -/
structure ServerOptions where
  /-- The port for clients; none is opened when it is zero. -/
  port : Nat
  bind : Text
  adminPort : Nat
  adminToken : Option Text
  maxIdlePerHost : Nat
  idleTimeoutSeconds : Nat
  requestTimeoutSeconds : Nat
  /-- How long a check may take; without a limit when it is zero. -/
  controlTimeoutSeconds : Nat
  /-- The greatest reply of the control service that is read. -/
  maxReplyBytes : Nat
deriving DecidableEq

/-- The options that hold where nothing else is written. -/
def ServerOptions.standard : ServerOptions where
  port := 80
  bind := "0.0.0.0".toList
  adminPort := 9999
  adminToken := none
  maxIdlePerHost := 10
  idleTimeoutSeconds := 90
  requestTimeoutSeconds := 30
  controlTimeoutSeconds := 0
  maxReplyBytes := 4 * 1024 * 1024

def ServerOptions.requestTimeout (o : ServerOptions) : Duration :=
  Duration.of o.requestTimeoutSeconds 0

/-- Zero seconds mean that a check may take any time. -/
def ServerOptions.controlTimeout (o : ServerOptions) : Option Duration :=
  if 0 < o.controlTimeoutSeconds then some (Duration.of o.controlTimeoutSeconds 0) else none

/-- What the operator writes down. -/
structure Config where
  server : ServerOptions
  /-- The control service of routes that name none. -/
  controlUrl : Text
  backends : Dict Text
  /-- Templates that every route inherits. -/
  defaults : Templates
  /-- Templates by host; `_` stands for all hosts without a route of their own. -/
  routes : Dict Templates

namespace Config

/-- The configuration of an empty file. -/
def standard : Config where
  server := .standard
  controlUrl := "http://sablier:10000".toList
  backends := Dict.empty
  defaults := Dict.empty
  routes := Dict.empty

/-- All templates of the routes, inherited ones included. -/
def templates (c : Config) : Dict Templates :=
  c.routes.map c.defaults.override

/-- The templates of a host, with those that it inherits. -/
def templatesOf? (c : Config) (host : Text) : Option Templates :=
  c.templates.get? host

end Config

end Gatekeeper
