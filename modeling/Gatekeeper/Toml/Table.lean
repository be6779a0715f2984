import Gatekeeper.Toml.Value

namespace Gatekeeper.Toml

def lookup? (key : Text) : Entries → Option Value
  | [] => none
  | (k, v) :: rest => if k = key then some v else lookup? key rest

def replace (key : Text) (value : Value) (entries : Entries) : Entries :=
  entries.map fun e => if e.1 = key then (key, value) else e

/-- The entries with the table that a path of headers leads to changed. The path leads through the
last of several tables under one key, and makes the tables that are missing. -/
def alter? (change : Entries → Option Entries) : List Text → Entries → Option Entries
  | [], entries => change entries
  | key :: path, entries =>
    match lookup? key entries with
    | none => do
      let inner ← alter? change path []
      return entries ++ [(key, .table .implied inner)]
    | some (.table .braces _) => none
    | some (.table origin inner) => do
      let inner ← alter? change path inner
      return replace key (.table origin inner) entries
    | some (.tables items) =>
      match items.getLast? with
      | some last => do
        let last ← alter? change path last
        return replace key (.tables (items.dropLast ++ [last])) entries
      | none => none
    | some _ => none

/-- Opens the table of a header. It may have been there only because it was the parent of another.
-/
def openHere? (key : Text) (entries : Entries) : Option Entries :=
  match lookup? key entries with
  | none => some (entries ++ [(key, .table .header [])])
  | some (.table .implied inner) =>
    some (entries.filter (·.1 ≠ key) ++ [(key, .table .header inner)])
  | some _ => none

/-- Adds a table to an array of tables. -/
def addHere? (key : Text) (entries : Entries) : Option Entries :=
  match lookup? key entries with
  | none => some (entries ++ [(key, .tables [[]])])
  | some (.tables items) => some (replace key (.tables (items ++ [[]])) entries)
  | some _ => none

/-- Carries out a change at the end of a path, which is not empty. -/
def atEnd? (change : Text → Entries → Option Entries) (path : List Text) (entries : Entries) :
    Option Entries :=
  match path.getLast? with
  | some key => alter? (change key) path.dropLast entries
  | none => none

/-- A header in single brackets. -/
def openTable? : List Text → Entries → Option Entries :=
  atEnd? openHere?

/-- A header in double brackets. -/
def openElement? : List Text → Entries → Option Entries :=
  atEnd? addHere?

/-- Writes a value under a dotted key. The last table on the way must have been made by dotted keys
alone; those before it may also be implied by headers. -/
def assign? : List Text → Value → Entries → Option Entries
  | [], _, _ => none
  | [key], value, entries =>
    match lookup? key entries with
    | none => some (entries ++ [(key, value)])
    | some _ => none
  | key :: path, value, entries =>
    match lookup? key entries with
    | none => do
      let inner ← assign? path value []
      return entries ++ [(key, .table .dotted inner)]
    | some (.table .dotted inner) => do
      let inner ← assign? path value inner
      return replace key (.table .dotted inner) entries
    | some (.table .implied inner) =>
      if path.length = 1 then none
      else do
        let inner ← assign? path value inner
        return replace key (.table .implied inner) entries
    | some (.tables items) =>
      match items.getLast? with
      | some last =>
        if path.length = 1 then none
        else do
          let last ← assign? path value last
          return replace key (.tables (items.dropLast ++ [last])) entries
      | none => none
    | some _ => none

def assignAll? (assignments : List (List Text × Value)) (entries : Entries) : Option Entries :=
  assignments.foldlM (fun entries (path, value) => assign? path value entries) entries

end Gatekeeper.Toml
