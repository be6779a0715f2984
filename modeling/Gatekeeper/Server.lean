import Gatekeeper.Proxy.Handle

namespace Gatekeeper

/-- The state that requests share: the table, and what was counted. -/
structure Server where
  table : Table
  counters : Counters
  limits : Limits
  adminToken : Text

namespace Server

/-- The server that a configuration sets up. The token stands in where none is configured. -/
def start (c : Config) (token : Text) : Server where
  table := Table.ofConfig c
  counters := .zero
  limits := c.server.limits
  adminToken := c.server.adminToken.getD token

/-- Handles one request. The counters go on from where they are. -/
def handle (s : Server) (network : Network) (freshId : Text) (client : IpAddress) (r : Request) :
    Server × Handled :=
  let (handled, counters) := (s.table.serve s.limits network freshId client r).run s.counters
  ({ s with counters }, handled)

/-- Puts the table of a file in the place of the old one, if the file has one, and leaves the rest
alone. -/
def reload (s : Server) (content : FileContent) : Server × Except LoadError Table.Changes :=
  let (table, result) := s.table.reload content
  ({ s with table := table }, result)

end Server

end Gatekeeper
