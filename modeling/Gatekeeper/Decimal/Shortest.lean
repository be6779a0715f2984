import Gatekeeper.Decimal.Binary64

namespace Gatekeeper.Binary64

/-- The least number of decimal places, from the given one on, at which a quotient below one has a
digit other than zero; `fuel` bounds the search. -/
def firstPlace (numerator denominator : Nat) : Nat → Nat → Nat
  | 0, place => place
  | fuel + 1, place =>
    if denominator ≤ numerator * Nat.pow 10 place then place
    else firstPlace numerator denominator fuel (place + 1)

/-- The power of ten above a positive quotient: how many digits it has before the point, or, as a
negative number, how many zeroes follow the point. -/
def magnitude (numerator denominator : Nat) : Int :=
  if denominator ≤ numerator then (Text.ofNat (numerator / denominator)).length
  else 1 - (firstPlace numerator denominator 400 1 : Int)

/-- The numbers that are read as one number: its neighbourhood on the line, as numerators over one
denominator, and whether the ends belong to it. -/
structure Neighbourhood where
  low : Nat
  value : Nat
  high : Nat
  denominator : Nat
  closed : Bool

/-- The neighbourhood of a positive number. Below a power of two it is half as wide. -/
def neighbourhood (significand : Nat) (exponent : Int) : Neighbourhood :=
  let scale := Nat.pow 2 (exponent - 2).toNat
  let below := if significand = Nat.pow 2 52 ∧ minExponent < exponent then 1 else 2
  { low := (4 * significand - below) * scale
    value := 4 * significand * scale
    high := (4 * significand + 2) * scale
    denominator := Nat.pow 2 (2 - exponent).toNat
    closed := significand % 2 == 0 }

/-- The multiple of a power of ten in the neighbourhood that is nearest to the number, if there is
one. -/
def Neighbourhood.multiple? (n : Neighbourhood) (power : Int) : Option Nat :=
  let scale := Nat.pow 10 (-power).toNat
  let unit := n.denominator * Nat.pow 10 power.toNat
  let value := n.value * scale
  let below := value / unit
  let above := below + 1
  let holdsBelow := n.low * scale < below * unit ∨ n.closed ∧ n.low * scale = below * unit
  let holdsAbove := above * unit < n.high * scale ∨ n.closed ∧ above * unit = n.high * scale
  if holdsBelow ∧ (¬holdsAbove ∨ value - below * unit < above * unit - value) then some below
  else if holdsAbove then some above
  else none

/-- The digits and the power of ten of the shortest decimal, tried with `count` digits and up to
`fuel` more. -/
def shortestFrom (n : Neighbourhood) (top : Int) : Nat → Nat → Nat × Int
  | 0, count => (n.value * Nat.pow 10 (count - top).toNat / n.denominator, top - count)
  | fuel + 1, count =>
    match n.multiple? (top - count) with
    | some digits => (digits, top - count)
    | none => shortestFrom n top fuel (count + 1)

/-- The digits and the power of ten of the shortest decimal of a positive number. -/
def shortest (significand : Nat) (exponent : Int) : Nat × Int :=
  let n := neighbourhood significand exponent
  shortestFrom n (magnitude n.value n.denominator) 17 1

/-- A decimal number with a point, given by its digits and a power of ten. -/
def positional (digits : Nat) (power : Int) : Text :=
  let written := Text.ofNat digits
  let significant := Text.dropEndWhile (· == '0') written
  let power := power + (written.length - significant.length : Nat)
  if 0 ≤ power then significant ++ List.replicate power.toNat '0' ++ ['.', '0']
  else
    let places := (-power).toNat
    let padded := Text.padStart (places + 1) '0' significant
    padded.take (padded.length - places) ++ '.' :: padded.drop (padded.length - places)

/-- A number with its shortest digits. The point is always written, and exponents never are. -/
def text : Binary64 → Text
  | .notANumber => "NaN".toList
  | .infinite negative => if negative then "-inf".toList else "inf".toList
  | .finite negative significand exponent =>
    let magnitude :=
      if significand = 0 then "0.0".toList
      else
        let (digits, power) := shortest significand exponent
        positional digits power
    if negative then '-' :: magnitude else magnitude

end Gatekeeper.Binary64
