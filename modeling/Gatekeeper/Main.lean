import Gatekeeper.Admin
import Gatekeeper.Startup

namespace Gatekeeper

/-- A file that cannot be read counts as missing. -/
def readFile (path : String) : IO FileContent := do
  try
    let content ← IO.FS.readBinFile path
    return .bytes content
  catch _ => return .missing

def hostsLine (label : String) (hosts : List Text) : String :=
  label ++ String.ofList (Text.join ", ".toList hosts)

/-- Tells which hosts came and went, or why the routes stay as they are. -/
def reportReload (result : Except LoadError Table.Changes) : IO Unit := do
  match result with
  | .ok changes =>
    if let some hosts := changes.reportedAdded then
      IO.println (hostsLine "New routes available: " hosts)
    if let some hosts := changes.reportedRemoved then
      IO.println (hostsLine "Routes removed: " hosts)
  | .error e =>
    IO.eprintln ("Failed to reload configuration, keeping current routes: " ++
      String.ofList e.message)

/-- Reads signals until one ends the program. -/
partial def awaitSignals (path : String) (table : Table) (input : IO.FS.Stream) : IO Unit := do
  let line ← input.getLine
  match line.trimAscii.toString with
  | "HUP" =>
    let content ← readFile path
    let (table, result) := table.reload content
    reportReload result
    awaitSignals path table input
  | "INT" => return
  | "TERM" => return
  | _ => if line.isEmpty then return else awaitSignals path table input

/-- Starts from a configuration file and serves until a signal ends the program. -/
def run (path : String) : IO UInt32 := do
  let content ← readFile path
  match Startup.prepare content with
  | .error e =>
    IO.eprintln ("Error: " ++ String.ofList e.message)
    return 1
  | .ok startup =>
    if startup.hasNoRoutes then
      IO.eprintln "No routes configured, every request will be answered with UNKNOWN_HOST"
    awaitSignals path (Table.ofConfig startup.config) (← IO.getStdin)
    IO.println "Shutdown complete"
    return 0

end Gatekeeper

/-- Starts from the configuration file that the first argument names. -/
def main (arguments : List String) : IO UInt32 :=
  Gatekeeper.run (arguments.headD "config.toml")
