import Gatekeeper.Server

namespace Gatekeeper

/-- Why a program does not start. -/
inductive StartError where
  | load (cause : LoadError)
  /-- The address to listen at is none. -/
  | badBindAddress
deriving DecidableEq

def StartError.message : StartError → Text
  | .load cause => cause.message
  | .badBindAddress => "Invalid HTTP bind address: ".toList ++ Endpoint.syntaxMessage

/-- What a program knows before it serves. -/
structure Startup where
  config : Config
  /-- Where clients connect, unless that is turned off. -/
  proxyAt : Option Endpoint
  adminAt : Endpoint

namespace Startup

/-- Where clients connect. The port 0 turns that off. -/
def proxyEndpoint (o : ServerOptions) : Except StartError (Option Endpoint) :=
  if o.port = 0 then .ok none
  else
    match Endpoint.parse? (o.bind ++ ':' :: Text.ofNat o.port) with
    | some endpoint => .ok (some endpoint)
    | none => .error .badBindAddress

/-- Operators connect at the loopback address alone. -/
def prepare (content : FileContent) : Except StartError Startup :=
  match Config.load content with
  | .error cause => .error (.load cause)
  | .ok config => do
    let proxyAt ← proxyEndpoint config.server
    return ⟨config, proxyAt, ⟨.v4 [127, 0, 0, 1], config.server.adminPort⟩⟩

def hasNoRoutes (s : Startup) : Bool :=
  (Table.ofConfig s.config).isEmpty

end Startup

namespace Table.Changes

/-- The hosts that are reported as new, unless there are none. -/
def reportedAdded (c : Changes) : Option (List Text) :=
  if c.added.isEmpty then none else some c.added

/-- The hosts that are reported as gone, unless there are none. -/
def reportedRemoved (c : Changes) : Option (List Text) :=
  if c.removed.isEmpty then none else some c.removed

end Table.Changes

end Gatekeeper
