import Gatekeeper.Text.Utf8

namespace Gatekeeper.Form

def hexDigit (n : Nat) : Char :=
  if n < 10 then Char.ofNat (n + '0'.toNat) else Char.ofNat (n - 10 + 'A'.toNat)

/-- Bytes that stand for themselves. -/
def isPlainByte (b : UInt8) : Bool :=
  let c := Char.ofNat b.toNat
  c.isAlphanum || c == '*' || c == '-' || c == '.' || c == '_'

/-- A byte stands for itself, or is written as a plus sign or by its two digits. -/
def encodeByte (b : UInt8) : Text :=
  if isPlainByte b then [Char.ofNat b.toNat]
  else if b = 32 then ['+']
  else ['%', hexDigit (b.toNat / 16), hexDigit (b.toNat % 16)]

/-- A name or a value, by the bytes of its characters. -/
def encodeText (t : Text) : Text :=
  (Text.encode t).flatMap encodeByte

/-- A name and its value. -/
def encodePair (pair : Text × Text) : Text :=
  encodeText pair.1 ++ '=' :: encodeText pair.2

/-- Named values as the text of a query (`application/x-www-form-urlencoded`). -/
def encode (pairs : List (Text × Text)) : Text :=
  Text.join ['&'] (pairs.map encodePair)

/-- The bytes that a name or a value stands for. A percent sign without two digits behind it stands
for itself. -/
def octets : Text → List UInt8
  | [] => []
  | c :: rest =>
    if c = '+' then 32 :: octets rest
    else if c = '%' then
      match rest with
      | a :: b :: after =>
        match Text.digitValue? 16 a, Text.digitValue? 16 b with
        | some high, some low => UInt8.ofNat (high * 16 + low) :: octets after
        | _, _ => Text.encodeChar '%' ++ octets (a :: b :: after)
      | short => Text.encodeChar '%' ++ octets short
    else Text.encodeChar c ++ octets rest

/-- The reverse of `encodeText`, for any text. What is no character becomes a replacement character.
-/
def decodeText (t : Text) : Text :=
  Text.decode (octets t)

/-- Reads a name and its value; without an equals sign the value is empty. -/
def decodePair (t : Text) : Text × Text :=
  let (name, value) := Text.cut '=' t
  (decodeText name, decodeText (value.getD []))

/-- Reads a list of named values. Empty pieces between the separators are passed over. -/
def decode (t : Text) : List (Text × Text) :=
  ((Text.pieces '&' t).filter (!·.isEmpty)).map decodePair

end Gatekeeper.Form
