import Gatekeeper.Json.Basic
import Gatekeeper.Text.Utf8

/-!
# Reading JSON

Values are read from a text that may have white space between their parts. A string is read in two
steps: its escapes become characters or numbers of sixteen bits, and two such numbers may make one
character. A number that is not natural is refused, and so is a truth value.
-/

namespace Gatekeeper.Json

def isSpace (c : Char) : Bool :=
  c == ' ' || c == '\t' || c == '\n' || c == '\r'

def skipSpace (t : Text) : Text :=
  t.dropWhile isSpace

/-- What stands in a string: a character, or a number that is a character or half of one. -/
inductive Glyph where
  | plain (c : Char)
  | unit (n : Nat)
deriving DecidableEq, Repr

namespace Glyph

def isHighHalf (n : Nat) : Bool :=
  0xD800 ≤ n && n < 0xDC00

def isLowHalf (n : Nat) : Bool :=
  0xDC00 ≤ n && n < 0xE000

/-- The text of glyphs. A half of a character that stands alone is refused. -/
def text? : List Glyph → Option Text
  | [] => some []
  | .plain c :: rest => (text? rest).map (c :: ·)
  | .unit high :: .unit low :: rest =>
    if isHighHalf high && isLowHalf low then
      (text? rest).map (Char.ofNat (0x10000 + (high - 0xD800) * 0x400 + (low - 0xDC00)) :: ·)
    else if isHighHalf high || isLowHalf high then none
    else (text? (.unit low :: rest)).map (Char.ofNat high :: ·)
  | .unit n :: rest =>
    if isHighHalf n || isLowHalf n then none else (text? rest).map (Char.ofNat n :: ·)

end Glyph

/-- The character that a letter behind a backslash stands for. -/
def escaped? (c : Char) : Option Char :=
  if c = '"' ∨ c = '\\' ∨ c = '/' then some c
  else if c = 'b' then some '\x08'
  else if c = 'f' then some '\x0c'
  else if c = 'n' then some '\n'
  else if c = 'r' then some '\r'
  else if c = 't' then some '\t'
  else none

/-- The number that is written with hexadecimal digits alone. -/
def hexNumber? (digits : Text) : Option Nat :=
  if digits.all fun c => (Text.digitValue? 16 c).isSome then some (Text.toNat 16 digits) else none

/-- Reads the inside of a string and the quote that ends it, and gives the rest. -/
def readGlyphs : Text → Option (List Glyph × Text)
  | [] => none
  | '"' :: rest => some ([], rest)
  | '\\' :: 'u' :: a :: b :: c :: d :: rest => do
    let n ← hexNumber? [a, b, c, d]
    let (glyphs, rest) ← readGlyphs rest
    return (.unit n :: glyphs, rest)
  | '\\' :: c :: rest => do
    let c ← escaped? c
    let (glyphs, rest) ← readGlyphs rest
    return (.plain c :: glyphs, rest)
  | c :: rest =>
    if c.toNat < 32 then none
    else do
      let (glyphs, rest) ← readGlyphs rest
      return (.plain c :: glyphs, rest)

/-- Reads a string behind the quote that begins it. -/
def readString (t : Text) : Option (Text × Text) := do
  let (glyphs, rest) ← readGlyphs t
  let text ← Glyph.text? glyphs
  return (text, rest)

/-- The character goes on with a number, perhaps with one that is not natural. -/
def isNumberChar (c : Char) : Bool :=
  Text.isDigit c || c == '.' || c == 'e' || c == 'E'

/-- Reads a natural number. No other number begins with a zero. -/
def readNumber (t : Text) : Option (Nat × Text) :=
  let digits := t.takeWhile isNumberChar
  if digits.isEmpty || !digits.all Text.isDigit ||
      (digits.head? == some '0' && digits != ['0']) then
    none
  else some (Nat.ofDigitChars 10 digits 0, t.dropWhile isNumberChar)

mutual

/-- Reads a value. Each value that stands in another, or behind another, is read with one less; the
length of the text is enough for all. -/
def readValue : Nat → Text → Option (Json × Text)
  | 0, _ => none
  | fuel + 1, t =>
    match skipSpace t with
    | '"' :: rest => (readString rest).map fun (s, rest) => (.string s, rest)
    | '[' :: rest =>
      match skipSpace rest with
      | ']' :: rest => some (.array [], rest)
      | rest => (readItems fuel rest).map fun (items, rest) => (.array items, rest)
    | '\x7b' :: rest =>
      match skipSpace rest with
      | '\x7d' :: rest => some (.object [], rest)
      | rest => (readFields fuel rest).map fun (fields, rest) => (.object fields, rest)
    | 'n' :: 'u' :: 'l' :: 'l' :: rest => some (.null, rest)
    | t => (readNumber t).map fun (n, rest) => (.number n, rest)

/-- Reads the items of an array that has at least one, up to its bracket. -/
def readItems : Nat → Text → Option (List Json × Text)
  | 0, _ => none
  | fuel + 1, t => do
    let (item, rest) ← readValue fuel t
    match skipSpace rest with
    | ']' :: rest => return ([item], rest)
    | ',' :: rest =>
      let (others, rest) ← readItems fuel rest
      return (item :: others, rest)
    | _ => none

/-- Reads the fields of an object that has at least one, up to its brace. -/
def readFields : Nat → Text → Option (List (Text × Json) × Text)
  | 0, _ => none
  | fuel + 1, t =>
    match skipSpace t with
    | '"' :: rest => do
      let (name, rest) ← readString rest
      match skipSpace rest with
      | ':' :: rest =>
        let (value, rest) ← readValue fuel rest
        match skipSpace rest with
        | '\x7d' :: rest => return ([(name, value)], rest)
        | ',' :: rest =>
          let (others, rest) ← readFields fuel rest
          return ((name, value) :: others, rest)
        | _ => none
      | _ => none
    | _ => none

end

/-- The value that a text writes, with nothing but white space around it. -/
def parse? (t : Text) : Option Json := do
  let (value, rest) ← readValue t.length t
  if (skipSpace rest).isEmpty then some value else none

/-- The value that bytes write. Bytes that are no text are refused. -/
def ofBytes? (bytes : List UInt8) : Option Json :=
  let t := Text.decode bytes
  if Text.encode t = bytes then parse? t else none

end Gatekeeper.Json
