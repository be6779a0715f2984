import Gatekeeper.Config.Decode
import Gatekeeper.Config.Rules
import Gatekeeper.Toml.Statement

namespace Gatekeeper

/-- What there is under the name of a file. -/
inductive FileContent where
  | missing
  | bytes (content : ByteArray)

/-- Why there is no configuration that may be used. -/
inductive LoadError where
  | fileMissing
  | notUtf8
  | malformed
  | misfit (cause : Misfit)
  | invalid (faults : List ConfigFault)
deriving DecidableEq

namespace LoadError

def separator : Text :=
  "\n  - ".toList

def message : LoadError → Text
  | .fileMissing => "No such file or directory (os error 2)".toList
  | .notUtf8 => "stream did not contain valid UTF-8".toList
  | .malformed => "TOML parse error".toList
  | .misfit cause => cause.message
  | .invalid faults =>
    "Configuration errors:".toList ++ separator ++
      Text.join separator (faults.map ConfigFault.message)

end LoadError

namespace Config

/-- Reads a configuration that may still break the rules. -/
def ofText (t : Text) : Except LoadError Config :=
  match Toml.parse? t with
  | none => .error .malformed
  | some entries =>
    match ofDocument entries with
    | .ok c => .ok c
    | .error cause => .error (.misfit cause)

/-- Reads the bytes of a file, which have to be UTF-8 as a whole. -/
def ofFile : FileContent → Except LoadError Config
  | .missing => .error .fileMissing
  | .bytes content =>
    match String.fromUTF8? content with
    | some s => ofText s.toList
    | none => .error .notUtf8

/-- Refuses a configuration with all its faults at once. -/
def validate (c : Config) : Except LoadError Config :=
  if c.faults.isEmpty then .ok c else .error (.invalid c.faults)

/-- Reads the content of a file and accepts it if it has no faults. -/
def load (content : FileContent) : Except LoadError Config := do
  let c ← ofFile content
  validate c

end Config

end Gatekeeper
