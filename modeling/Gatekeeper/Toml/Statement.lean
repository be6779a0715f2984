import Gatekeeper.Toml.Lexical
import Gatekeeper.Toml.Number
import Gatekeeper.Toml.Table

/-!
# Reading TOML

Values, and the lines of a document: headers, and keys with their values. Arrays and tables in
braces may be nested to a fixed depth, on which the reader recurs; the readers of lists count down
the characters that are left.
-/

namespace Gatekeeper.Toml

/-- Reads the items of an array up to its closing bracket. -/
def arrayItems? (item? : Text → Option (Value × Text)) : Nat → Text → Option (List Value × Text)
  | 0, _ => none
  | fuel + 1, t =>
    match skipLayout false t with
    | ']' :: rest => some ([], rest)
    | start => do
      let (item, rest) ← item? start
      match skipLayout false rest with
      | ',' :: rest =>
        let (items, rest) ← arrayItems? item? fuel rest
        return (item :: items, rest)
      | ']' :: rest => return ([item], rest)
      | _ => none

/-- Reads the assignments of a table in braces up to the closing brace; there is at least one. -/
def braceItems? (item? : Text → Option (Value × Text)) :
    Nat → Text → Option (List (List Text × Value) × Text)
  | 0, _ => none
  | fuel + 1, t => do
    let (key, rest) ← key? t
    let rest ← expect? '=' rest
    let (value, rest) ← item? (skipBlanks rest)
    match skipBlanks rest with
    | ',' :: rest =>
      let (items, rest) ← braceItems? item? fuel rest
      return ((key, value) :: items, rest)
    | '\x7d' :: rest => return ([(key, value)], rest)
    | _ => none

/-- Reads a table in braces, of which the opening one has been read. -/
def braceTable? (item? : Text → Option (Value × Text)) (t : Text) : Option (Value × Text) :=
  match skipBlanks t with
  | '\x7d' :: rest => some (.table .braces [], rest)
  | start => do
    let (assignments, rest) ← braceItems? item? start.length start
    let entries ← assignAll? assignments []
    return (.table .braces entries, rest)

/-- A value that is no array and no table. -/
def plainValue? (t : Text) : Option (Value × Text) :=
  match t with
  | '"' :: _ => (string? t).map fun (s, rest) => (.string s, rest)
  | '\x27' :: _ => (string? t).map fun (s, rest) => (.string s, rest)
  | 't' :: 'r' :: 'u' :: 'e' :: rest => some (.boolean true, rest)
  | 'f' :: 'a' :: 'l' :: 's' :: 'e' :: rest => some (.boolean false, rest)
  | _ =>
    match moment? t with
    | some (m, rest) => some (.moment m, rest)
    | none => number? t

/-- Reads a value whose arrays and tables are nested to at most the given depth. -/
def value? : Nat → Text → Option (Value × Text)
  | 0, t => plainValue? t
  | depth + 1, t =>
    match t with
    | '[' :: rest =>
      (arrayItems? (value? depth) (rest.length + 1) rest).map fun (items, rest) =>
        (.array items, rest)
    | '\x7b' :: rest => braceTable? (value? depth) rest
    | _ => plainValue? t

def maxDepth : Nat :=
  79

/-- A line of a document, blank lines and comments left away. -/
inductive Statement where
  | table (path : List Text)
  /-- The header of one more table under a key. -/
  | element (path : List Text)
  | assign (path : List Text) (value : Value)

/-- Reads a header or an assignment, together with the end of its line. -/
def statement? (t : Text) : Option (Statement × Text) :=
  match t with
  | '[' :: '[' :: rest => do
    let (path, rest) ← key? rest
    let rest ← expect? ']' rest
    let rest ← expect? ']' rest
    let rest ← lineEnd? rest
    return (.element path, rest)
  | '[' :: rest => do
    let (path, rest) ← key? rest
    let rest ← expect? ']' rest
    let rest ← lineEnd? rest
    return (.table path, rest)
  | _ => do
    let (path, rest) ← key? t
    let rest ← expect? '=' rest
    let (value, rest) ← value? maxDepth (skipBlanks rest)
    let rest ← lineEnd? rest
    return (.assign path value, rest)

/-- Reads the lines of a document. -/
def statements? : Nat → Text → Option (List Statement)
  | 0, _ => none
  | fuel + 1, t =>
    match skipBlanks t with
    | [] => some []
    | '#' :: rest => do
      let rest ← lineEnd? ('#' :: rest)
      statements? fuel rest
    | '\n' :: rest => statements? fuel rest
    | '\r' :: rest => do
      let rest ← expect? '\n' rest
      statements? fuel rest
    | start => do
      let (statement, rest) ← statement? start
      let others ← statements? fuel rest
      return statement :: others

/-- Carries out a statement on the tables read so far, and on the path of the last header. -/
def Statement.run (state : Entries × List Text) : Statement → Option (Entries × List Text)
  | .table path => (openTable? path state.1).map fun entries => (entries, path)
  | .element path => (openElement? path state.1).map fun entries => (entries, path)
  | .assign path value =>
    (alter? (assign? path value) state.2 state.1).map fun entries => (entries, state.2)

/-- Reads a document. A byte-order mark at its start does not count. -/
def parse? (t : Text) : Option Entries := do
  let t := match t with
    | '\uFEFF' :: rest => rest
    | _ => t
  let statements ← statements? (t.length + 1) t
  let (entries, _) ← statements.foldlM Statement.run ([], [])
  return entries

end Gatekeeper.Toml
