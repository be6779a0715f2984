import Gatekeeper.Text.Basic

namespace Gatekeeper

/-- A span of time; the nanoseconds make up less than a second. -/
structure Duration where
  seconds : Nat
  nanoseconds : Nat
  isFraction : nanoseconds < 1000000000
deriving DecidableEq

namespace Duration

/-- The span of the given seconds and nanoseconds, of which there may be any number. -/
def of (seconds nanoseconds : Nat) : Duration :=
  ⟨seconds + nanoseconds / 1000000000, nanoseconds % 1000000000, Nat.mod_lt _ (by decide)⟩

def ofMilliseconds (n : Nat) : Duration :=
  of 0 (n * 1000000)

/-- A number with the given count of decimal places, of which those that end in zeroes are left
out. -/
def decimal (whole places fraction : Nat) : Text :=
  let digits := Text.dropEndWhile (· == '0') (Text.padStart places '0' (Text.ofNat fraction))
  if digits.isEmpty then Text.ofNat whole else Text.ofNat whole ++ '.' :: digits

/-- The duration in the largest unit of which it has at least one, with as many decimal places as it
needs. -/
def text (d : Duration) : Text :=
  if 0 < d.seconds then decimal d.seconds 9 d.nanoseconds ++ "s".toList
  else if 1000000 ≤ d.nanoseconds then
    decimal (d.nanoseconds / 1000000) 6 (d.nanoseconds % 1000000) ++ "ms".toList
  else if 1000 ≤ d.nanoseconds then
    decimal (d.nanoseconds / 1000) 3 (d.nanoseconds % 1000) ++ "µs".toList
  else Text.ofNat d.nanoseconds ++ "ns".toList

end Duration

end Gatekeeper
