import Gatekeeper.Decimal.Binary64

namespace Gatekeeper.Toml

structure Date where
  year : Nat
  month : Nat
  day : Nat
deriving DecidableEq, Repr

structure Time where
  hour : Nat
  minute : Nat
  second : Nat
  nanosecond : Nat
deriving DecidableEq, Repr

inductive Offset where
  | universal
  | minutes (n : Int)
deriving DecidableEq, Repr

/-- A point in time, as far as it is told. -/
inductive Moment where
  | date (d : Date)
  | time (t : Time)
  | dateTime (d : Date) (t : Time) (offset : Option Offset)
deriving DecidableEq, Repr

def padded (width n : Nat) : Text :=
  Text.padStart width '0' (Text.ofNat n)

def Date.text (d : Date) : Text :=
  padded 4 d.year ++ '-' :: padded 2 d.month ++ '-' :: padded 2 d.day

/-- The text of a time; zeroes that end the fraction are left out. -/
def Time.text (t : Time) : Text :=
  let fraction := if t.nanosecond = 0 then [] else
    '.' :: Text.dropEndWhile (· == '0') (padded 9 t.nanosecond)
  padded 2 t.hour ++ ':' :: padded 2 t.minute ++ ':' :: padded 2 t.second ++ fraction

def Offset.text : Offset → Text
  | .universal => ['Z']
  | .minutes n =>
    (if n < 0 then '-' else '+') :: padded 2 (n.natAbs / 60) ++ ':' :: padded 2 (n.natAbs % 60)

def Moment.text : Moment → Text
  | .date d => d.text
  | .time t => t.text
  | .dateTime d t offset => d.text ++ 'T' :: t.text ++ (offset.map Offset.text).getD []

/-- How a table came about. That decides what later parts of a document may add to it. -/
inductive Origin where
  /-- By a header of its own, or as the document itself. -/
  | header
  /-- Because the header of another table names it as a parent. -/
  | implied
  /-- Because a dotted key leads through it. -/
  | dotted
  /-- Written between braces, and complete with that. -/
  | braces
deriving DecidableEq, Repr

/-- What a TOML document holds. The entries of a table keep the order of the document. -/
inductive Value where
  | string (t : Text)
  | integer (n : Int)
  | float (x : Binary64)
  | boolean (b : Bool)
  | moment (m : Moment)
  | array (items : List Value)
  | table (origin : Origin) (entries : List (Text × Value))
  /-- Tables that come about by headers in double brackets. -/
  | tables (items : List (List (Text × Value)))

/-- The entries of a table in the order of the document. -/
abbrev Entries := List (Text × Value)

end Gatekeeper.Toml
