import Gatekeeper.Text.Basic

namespace Gatekeeper.Text

/-- The character has the Unicode property `White_Space`. -/
def isBlankChar (c : Char) : Bool :=
  let n := c.toNat
  (9 ≤ n && n ≤ 13) || n == 0x20 || n == 0x85 || n == 0xA0 || n == 0x1680 ||
    (0x2000 ≤ n && n ≤ 0x200A) || n == 0x2028 || n == 0x2029 || n == 0x202F || n == 0x205F ||
    n == 0x3000

/-- Nothing is left of a blank text after trimming. -/
def isBlank (t : Text) : Bool :=
  t.all isBlankChar

def trimStart (t : Text) : Text :=
  t.dropWhile isBlankChar

/-- The text without the white space at both ends. -/
def trim (t : Text) : Text :=
  dropEndWhile isBlankChar (trimStart t)

end Gatekeeper.Text
