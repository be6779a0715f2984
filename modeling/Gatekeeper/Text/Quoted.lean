import Gatekeeper.Text.EscapeTable
import Gatekeeper.Text.LowerCase

namespace Gatekeeper.Text

/-- The character is shown by its number. -/
def isShapeless (c : Char) : Bool :=
  if c.toNat < 0x80 then c.toNat < 0x20 || c.toNat == 0x7F
  else inRanges shapelessRanges c.toNat

def quotedChar (c : Char) : Text :=
  if c = '"' then ['\\', '"']
  else if c = '\\' then ['\\', '\\']
  else if c = '\n' then ['\\', 'n']
  else if c = '\r' then ['\\', 'r']
  else if c = '\t' then ['\\', 't']
  else if c.toNat = 0 then ['\\', '0']
  else if isShapeless c then ['\\', 'u', '\x7b'] ++ ofNatHex c.toNat ++ ['\x7d']
  else [c]

/-- A text between quotes, as messages show it. -/
def quoted (t : Text) : Text :=
  '"' :: t.flatMap quotedChar ++ ['"']

end Gatekeeper.Text
