import Gatekeeper.Toml.Value

namespace Gatekeeper.Toml

/-! ## Numbers -/

/-- Reads further digits, each of which may have an underscore before it. -/
def moreDigits? (isDigit : Char → Bool) : Text → Option (Text × Text)
  | [] => some ([], [])
  | '_' :: c :: rest =>
    if isDigit c then (moreDigits? isDigit rest).map fun (digits, rest) => (c :: digits, rest)
    else none
  | c :: rest =>
    if isDigit c then (moreDigits? isDigit rest).map fun (digits, rest) => (c :: digits, rest)
    else if c = '_' then none
    else some ([], c :: rest)

/-- Digits, with single underscores between them. -/
def digits? (isDigit : Char → Bool) (t : Text) : Option (Text × Text) :=
  match t with
  | c :: rest =>
    if isDigit c then (moreDigits? isDigit rest).map fun (digits, rest) => (c :: digits, rest)
    else none
  | [] => none

/-- Reads the digits before the point; a zero stands alone. -/
def wholeDigits? (t : Text) : Option (Text × Text) :=
  match t with
  | '0' :: rest => some (['0'], rest)
  | _ => digits? Text.isDigit t

def sign (t : Text) : Bool × Text :=
  match t with
  | '+' :: rest => (false, rest)
  | '-' :: rest => (true, rest)
  | _ => (false, t)

/-- Reads an exponent behind its letter, if there is one. -/
def exponent? (t : Text) : Option (Option Int × Text) :=
  match t with
  | 'e' :: rest => exponentDigits rest
  | 'E' :: rest => exponentDigits rest
  | _ => some (none, t)
where
  exponentDigits (t : Text) : Option (Option Int × Text) := do
    let (negative, rest) := sign t
    let (digits, rest) ← digits? Text.isDigit rest
    let n : Int := Text.toNat 10 digits
    return (some (if negative then -n else n), rest)

/-- Reads a fraction behind its point, if there is one. -/
def fraction? (t : Text) : Option (Option Text × Text) :=
  match t with
  | '.' :: rest => (digits? Text.isDigit rest).map fun (digits, rest) => (some digits, rest)
  | _ => some (none, t)

/-- The whole number with a sign, if it fits into 64 bits. -/
def integerOf? (negative : Bool) (n : Nat) : Option Value :=
  if negative then if n ≤ Nat.pow 2 63 then some (.integer (-n)) else none
  else if n < Nat.pow 2 63 then some (.integer n)
  else none

/-- The number nearest to a decimal one. None is greater than all finite numbers. -/
def floatOf? (negative : Bool) (digits : Nat) (exponent : Int) : Option Value :=
  match Binary64.ofDecimal negative digits exponent with
  | .infinite false => none
  | x => some (.float x)

/-- A number of base ten. It is a float if it has a fraction or an exponent. -/
def decimalNumber? (t : Text) : Option (Value × Text) := do
  let (negative, rest) := sign t
  let (whole, rest) ← wholeDigits? rest
  let (fraction, rest) ← fraction? rest
  let (exponent, rest) ← exponent? rest
  let value ←
    if fraction.isNone && exponent.isNone then integerOf? negative (Text.toNat 10 whole)
    else
      let places := fraction.getD []
      floatOf? negative (Text.toNat 10 (whole ++ places)) (exponent.getD 0 - places.length)
  return (value, rest)

def basedNumber? (base : Nat) (t : Text) : Option (Value × Text) := do
  let (digits, rest) ← digits? (fun c => (Text.digitValue? base c).isSome) t
  let value ← integerOf? false (Text.toNat base digits)
  return (value, rest)

/-- A whole number in one of four bases, or a float. Whole numbers must fit into 64 bits. -/
def number? (t : Text) : Option (Value × Text) :=
  match t with
  | '0' :: 'x' :: rest => basedNumber? 16 rest
  | '0' :: 'o' :: rest => basedNumber? 8 rest
  | '0' :: 'b' :: rest => basedNumber? 2 rest
  | _ =>
    match sign t with
    | (negative, 'i' :: 'n' :: 'f' :: rest) => some (.float (.infinite negative), rest)
    | (_, 'n' :: 'a' :: 'n' :: rest) => some (.float .notANumber, rest)
    | _ => decimalNumber? t

/-! ## Moments -/

/-- Reads a number of exactly the given count of digits, within the given bounds. -/
def fixedNumber? (count low high : Nat) (t : Text) : Option (Nat × Text) :=
  let digits := t.take count
  let n := Text.toNat 10 digits
  if digits.length = count ∧ digits.all Text.isDigit ∧ low ≤ n ∧ n ≤ high then
    some (n, t.drop count)
  else none

def expect? (mark : Char) (t : Text) : Option Text :=
  match t with
  | c :: rest => if c = mark then some rest else none
  | [] => none

def daysOf (year month : Nat) : Nat :=
  if month = 2 then
    if year % 4 = 0 ∧ (year % 100 ≠ 0 ∨ year % 400 = 0) then 29 else 28
  else if month = 4 ∨ month = 6 ∨ month = 9 ∨ month = 11 then 30
  else 31

/-- A date that the calendar has. -/
def date? (t : Text) : Option (Date × Text) := do
  let (year, t) ← fixedNumber? 4 0 9999 t
  let t ← expect? '-' t
  let (month, t) ← fixedNumber? 2 1 12 t
  let t ← expect? '-' t
  let (day, t) ← fixedNumber? 2 1 (daysOf year month) t
  return (⟨year, month, day⟩, t)

/-- The nanoseconds of a fraction of a second; digits after the ninth do not count. -/
def nanoseconds (digits : Text) : Nat :=
  let kept := digits.take 9
  Text.toNat 10 kept * Nat.pow 10 (9 - kept.length)

/-- Reads a time of day. Any minute may have a leap second, as the zone need not be known. -/
def time? (t : Text) : Option (Time × Text) := do
  let (hour, t) ← fixedNumber? 2 0 23 t
  let t ← expect? ':' t
  let (minute, t) ← fixedNumber? 2 0 59 t
  let t ← expect? ':' t
  let (second, t) ← fixedNumber? 2 0 60 t
  match t with
  | '.' :: rest =>
    let digits := rest.takeWhile Text.isDigit
    if digits.isEmpty then return (⟨hour, minute, second, 0⟩, t)
    else return (⟨hour, minute, second, nanoseconds digits⟩, rest.drop digits.length)
  | _ => return (⟨hour, minute, second, 0⟩, t)

/-- The difference from universal time, if one is given. -/
def offset (t : Text) : Option Offset × Text :=
  match t with
  | 'Z' :: rest => (some .universal, rest)
  | 'z' :: rest => (some .universal, rest)
  | '+' :: rest => numeric 1 rest
  | '-' :: rest => numeric (-1) rest
  | _ => (none, t)
where
  numeric (factor : Int) (rest : Text) : Option Offset × Text :=
    match minutes? rest with
    | some (n, rest) => (some (.minutes (factor * n)), rest)
    | none => (none, t)
  minutes? (t : Text) : Option (Nat × Text) := do
    let (hours, t) ← fixedNumber? 2 0 23 t
    let t ← expect? ':' t
    let (minutes, t) ← fixedNumber? 2 0 59 t
    return (hours * 60 + minutes, t)

/-- Reads what follows a date: a time of day behind a separator, if there is one. -/
def afterDate (d : Date) (t : Text) : Moment × Text :=
  match t with
  | c :: rest =>
    if c = 'T' ∨ c = 't' ∨ c = ' ' then
      match time? rest with
      | some (time, rest) =>
        let (offset, rest) := offset rest
        (.dateTime d time offset, rest)
      | none => (.date d, t)
    else (.date d, t)
  | [] => (.date d, t)

/-- A date, a time, or both. -/
def moment? (t : Text) : Option (Moment × Text) :=
  match date? t with
  | some (d, rest) => some (afterDate d rest)
  | none => (time? t).map fun (time, rest) => (.time time, rest)

end Gatekeeper.Toml
