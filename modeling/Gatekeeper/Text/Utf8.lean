import Gatekeeper.Text.Basic

namespace Gatekeeper.Text

def encodeChar (c : Char) : List UInt8 :=
  let n := c.toNat
  if n < 0x80 then [UInt8.ofNat n]
  else if n < 0x800 then [UInt8.ofNat (0xC0 + n / 64), UInt8.ofNat (0x80 + n % 64)]
  else if n < 0x10000 then
    [UInt8.ofNat (0xE0 + n / 4096), UInt8.ofNat (0x80 + n / 64 % 64), UInt8.ofNat (0x80 + n % 64)]
  else
    [UInt8.ofNat (0xF0 + n / 262144), UInt8.ofNat (0x80 + n / 4096 % 64),
      UInt8.ofNat (0x80 + n / 64 % 64), UInt8.ofNat (0x80 + n % 64)]

/-- The bytes of a text. -/
def encode (t : Text) : List UInt8 :=
  t.flatMap encodeChar

/-- What stands for bytes that are not UTF-8. -/
def replacement : Char :=
  '\uFFFD'

/-- A character of which some bytes were read. The next byte lies between `least` and `greatest`. -/
structure PartialChar where
  bits : Nat
  /-- How many bytes are still to come, at least one. -/
  missing : Nat
  least : Nat
  greatest : Nat

/-- Reads a byte that no character precedes: what is written at once, and what it begins. -/
def leadByte (b : UInt8) : Text × Option PartialChar :=
  let n := b.toNat
  if n < 0x80 then ([Char.ofNat n], none)
  else if 0xC2 ≤ n ∧ n ≤ 0xDF then ([], some ⟨n - 0xC0, 1, 0x80, 0xBF⟩)
  else if n = 0xE0 then ([], some ⟨0, 2, 0xA0, 0xBF⟩)
  else if n = 0xED then ([], some ⟨0xD, 2, 0x80, 0x9F⟩)
  else if 0xE1 ≤ n ∧ n ≤ 0xEF then ([], some ⟨n - 0xE0, 2, 0x80, 0xBF⟩)
  else if n = 0xF0 then ([], some ⟨0, 3, 0x90, 0xBF⟩)
  else if 0xF1 ≤ n ∧ n ≤ 0xF3 then ([], some ⟨n - 0xF0, 3, 0x80, 0xBF⟩)
  else if n = 0xF4 then ([], some ⟨4, 3, 0x80, 0x8F⟩)
  else ([replacement], none)

/-- Reads one byte after a possibly unfinished character. -/
def nextByte (state : Option PartialChar) (b : UInt8) : Text × Option PartialChar :=
  match state with
  | none => leadByte b
  | some p =>
    if p.least ≤ b.toNat ∧ b.toNat ≤ p.greatest then
      let bits := p.bits * 64 + (b.toNat - 0x80)
      if p.missing = 1 then ([Char.ofNat bits], none)
      else ([], some ⟨bits, p.missing - 1, 0x80, 0xBF⟩)
    else (replacement :: (leadByte b).1, (leadByte b).2)

/-- Reads bytes after a possibly unfinished character. -/
def decodeAfter (state : Option PartialChar) : List UInt8 → Text
  | [] => if state.isSome then [replacement] else []
  | b :: rest =>
    let (written, next) := nextByte state b
    written ++ decodeAfter next rest

/-- The text that bytes write, with replacement characters where they are not UTF-8. -/
def decode (bytes : List UInt8) : Text :=
  decodeAfter none bytes

end Gatekeeper.Text
