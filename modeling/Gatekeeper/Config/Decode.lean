import Gatekeeper.Config.Basic
import Gatekeeper.Decimal.Shortest
import Gatekeeper.Text.Quoted
import Gatekeeper.Toml.Value

namespace Gatekeeper

/-- How a value differs from what is expected in its place. -/
inductive Misfit where
  | kind (found expected : Text)
  | range (found expected : Text)
  /-- It is an array with too few items. -/
  | length (found : Nat) (expected : Text)
deriving DecidableEq, Repr

def Misfit.message : Misfit → Text
  | .kind found expected => "invalid type: ".toList ++ found ++ ", expected ".toList ++ expected
  | .range found expected => "invalid value: ".toList ++ found ++ ", expected ".toList ++ expected
  | .length found expected =>
    "invalid length ".toList ++ Text.ofNat found ++ ", expected ".toList ++ expected

namespace Toml.Value

/-- What messages call a value. A moment counts as a map with one entry. -/
def describe : Value → Text
  | .string t => "string ".toList ++ Text.quoted t
  | .integer n => "integer \x60".toList ++ Text.ofInt n ++ "\x60".toList
  | .float x => "floating point \x60".toList ++ x.text ++ "\x60".toList
  | .boolean true => "boolean \x60true\x60".toList
  | .boolean false => "boolean \x60false\x60".toList
  | .moment _ => "map".toList
  | .array _ => "sequence".toList
  | .table _ _ => "map".toList
  | .tables _ => "sequence".toList

/-- The key of the one entry that a moment has as a map. -/
def momentKey : Text :=
  "$__toml_private_datetime".toList

def asText : Value → Except Misfit Text
  | .string t => .ok t
  | v => .error (.kind v.describe "a string".toList)

/-- The value as a natural number of a named type, up to its greatest value. -/
def asNat (type : Text) (greatest : Nat) : Value → Except Misfit Nat
  | .integer n =>
    if 0 ≤ n ∧ n.toNat ≤ greatest then .ok n.toNat
    else .error (.range (describe (.integer n)) type)
  | v => .error (.kind v.describe type)

def asPort : Value → Except Misfit Nat :=
  asNat "u16".toList 65535

def asSeconds : Value → Except Misfit Nat :=
  asNat "u64".toList (Nat.pow 2 64 - 1)

def asSize : Value → Except Misfit Nat :=
  asNat "usize".toList (Nat.pow 2 64 - 1)

/-- The value as a map, each entry of which is read alike. -/
def asDict {α : Type} (read : Value → Except Misfit α) : Value → Except Misfit (Dict α)
  | .table _ entries => do
    let entries ← entries.mapM fun (key, value) => do
      let value ← read value
      return (key, value)
    return Dict.ofList entries
  | .moment m => do
    let value ← read (.string m.text)
    return Dict.ofList [(momentKey, value)]
  | v => .error (.kind v.describe "a map".toList)

end Toml.Value

namespace Config

open Toml (Value Entries)

/-- An option of a section: its key, what its value changes, and whether an array must have it. -/
structure Field (σ : Type) where
  key : Text
  write : Value → σ → Except Misfit σ
  isRequired : Bool

def Field.of {σ α : Type} (key : String) (read : Value → Except Misfit α) (set : σ → α → σ) :
    Field σ where
  key := key.toList
  write := fun value s => do
    let a ← read value
    return set s a
  isRequired := false

/-- A section: what messages call it, and its options in order. -/
structure Section (σ : Type) where
  name : Text
  fields : List (Field σ)

namespace Section

variable {σ : Type}

/-- What a section is called when an array has too few items for it. -/
def arrayName (s : Section σ) : Text :=
  s.name ++ " with ".toList ++ Text.ofNat s.fields.length ++
    (if s.fields.length = 1 then " element".toList else " elements".toList)

/-- Reads entries in their order and passes over those that are no field. -/
def readEntries (s : Section σ) (entries : Entries) (start : σ) : Except Misfit σ :=
  entries.foldlM (fun state (key, value) =>
    match s.fields.find? (·.key = key) with
    | some field => field.write value state
    | none => .ok state) start

/-- Reads the items of an array, the first of which stands for the given options. -/
def readItems (s : Section σ) : Nat → List (Field σ) → List Value → σ → Except Misfit σ
  | _, [], _, state => .ok state
  | place, field :: fields, value :: values, state => do
    let state ← field.write value state
    s.readItems (place + 1) fields values state
  | place, field :: fields, [], state =>
    if field.isRequired then .error (.length place s.arrayName)
    else s.readItems (place + 1) fields [] state

/-- Reads a section from a table, or from an array with the fields in their order. -/
def read (s : Section σ) (start : σ) : Value → Except Misfit σ
  | .table _ entries => s.readEntries entries start
  | .moment _ => .ok start
  | .array items => s.readItems 0 s.fields items start
  | .tables items => s.readItems 0 s.fields (items.map (.table .header)) start
  | v => .error (.kind v.describe s.name)

end Section

def serverSection : Section ServerOptions where
  name := "struct ServerConfig".toList
  fields := [
    .of "port" Value.asPort fun o n => { o with port := n },
    .of "bind" Value.asText fun o t => { o with bind := t },
    .of "admin_port" Value.asPort fun o n => { o with adminPort := n },
    { Field.of "admin_token" Value.asText fun o t => { o with adminToken := some t } with
      isRequired := true },
    .of "pool_max_idle_per_host" Value.asSize fun o n => { o with maxIdlePerHost := n },
    .of "pool_idle_timeout_secs" Value.asSeconds fun o n => { o with idleTimeoutSeconds := n },
    .of "request_timeout_secs" Value.asSeconds fun o n => { o with requestTimeoutSeconds := n },
    .of "control_timeout_secs" Value.asSeconds fun o n => { o with controlTimeoutSeconds := n },
    .of "control_max_reply_bytes" Value.asSize fun o n => { o with maxReplyBytes := n }]

def controlSection : Section Text where
  name := "struct ControlConfig".toList
  fields := [.of "url" Value.asText fun _ url => url]

/-- A whole document, as a section without a header. -/
def documentSection : Section Config where
  name := "struct Config".toList
  fields := [
    .of "server" (serverSection.read .standard) fun c o => { c with server := o },
    .of "control" (controlSection.read standard.controlUrl)
      fun c url => { c with controlUrl := url },
    .of "upstreams" (Value.asDict Value.asText) fun c d => { c with backends := d },
    .of "defaults" (Value.asDict Value.asText) fun c d => { c with defaults := d },
    .of "routes" (Value.asDict (Value.asDict Value.asText)) fun c d => { c with routes := d }]

def ofDocument (entries : Entries) : Except Misfit Config :=
  documentSection.readEntries entries standard

end Config

end Gatekeeper
