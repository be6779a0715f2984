import Gatekeeper.Text.Basic

namespace Gatekeeper.Text

/-- The text behind so many bytes. -/
def dropBytes? (n : Nat) : Text → Option Text
  | [] => if n = 0 then some [] else none
  | c :: rest =>
    if n = 0 then some (c :: rest)
    else if c.utf8Size ≤ n then dropBytes? (n - c.utf8Size) rest
    else none

/-- The text up to so many bytes. -/
def takeBytes? (n : Nat) : Text → Option Text
  | [] => if n = 0 then some [] else none
  | c :: rest =>
    if n = 0 then some []
    else if c.utf8Size ≤ n then (takeBytes? (n - c.utf8Size) rest).map (c :: ·)
    else none

/-- The number of bytes before the first occurrence of a character. -/
def byteIndex? (mark : Char) : Text → Option Nat
  | [] => none
  | c :: rest => if c = mark then some 0 else (byteIndex? mark rest).map (c.utf8Size + ·)

end Gatekeeper.Text
