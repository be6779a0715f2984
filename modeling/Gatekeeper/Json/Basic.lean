import Gatekeeper.Text.Basic

namespace Gatekeeper

/-- A JSON value; numbers are natural. Fields are written in the order in which they stand. -/
inductive Json where
  | null
  | number (n : Nat)
  | string (t : Text)
  | array (items : List Json)
  | object (fields : List (Text × Json))

namespace Json

/-- A character inside of a string. Only the quote, the backslash and control characters are
escaped. -/
def escapeChar (c : Char) : Text :=
  if c = '"' then ['\\', '"']
  else if c = '\\' then ['\\', '\\']
  else if c.toNat = 8 then ['\\', 'b']
  else if c.toNat = 12 then ['\\', 'f']
  else if c = '\n' then ['\\', 'n']
  else if c = '\r' then ['\\', 'r']
  else if c = '\t' then ['\\', 't']
  else if c.toNat < 32 then ['\\', 'u'] ++ Text.padStart 4 '0' (Text.ofNatHex c.toNat)
  else [c]

def stringText (t : Text) : Text :=
  '"' :: t.flatMap escapeChar ++ ['"']

mutual

/-- A value as it is sent, without white space. -/
def text : Json → Text
  | .null => "null".toList
  | .number n => Text.ofNat n
  | .string t => stringText t
  | .array items => '[' :: itemsText items ++ [']']
  | .object fields => '\x7b' :: fieldsText fields ++ ['\x7d']

def itemsText : List Json → Text
  | [] => []
  | [item] => text item
  | item :: others => text item ++ ',' :: itemsText others

def fieldsText : List (Text × Json) → Text
  | [] => []
  | [(name, value)] => stringText name ++ ':' :: text value
  | (name, value) :: others => stringText name ++ ':' :: text value ++ ',' :: fieldsText others

end

/-- A text, or null where there is none. -/
def ofText? : Option Text → Json
  | some t => .string t
  | none => .null

end Json

end Gatekeeper
