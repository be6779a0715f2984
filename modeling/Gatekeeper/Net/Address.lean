import Gatekeeper.Text.Basic

namespace Gatekeeper

/-- An internet address: four bytes, or eight groups of sixteen bits. -/
inductive IpAddress where
  | v4 (bytes : List Nat)
  | v6 (groups : List Nat)
deriving DecidableEq, Repr

namespace IpAddress

def textV4 (bytes : List Nat) : Text :=
  Text.join ['.'] (bytes.map Text.ofNat)

def textGroups (groups : List Nat) : Text :=
  Text.join [':'] (groups.map Text.ofNatHex)

/-- The start and the length of the first longest run of zeroes, in a list that starts at the given
place. -/
def longestZeroRun (start : Nat) : List Nat → Nat × Nat
  | [] => (start, 0)
  | group :: rest =>
    let later := longestZeroRun (start + 1) rest
    let here := ((group :: rest).takeWhile (· == 0)).length
    if later.2 ≤ here then (start, here) else later

/-- An address of version 6 is written with its longest run of zero groups left out, the first of
equally long ones. -/
def text : IpAddress → Text
  | .v4 bytes => textV4 bytes
  | .v6 groups =>
    match groups with
    | [0, 0, 0, 0, 0, 0xFFFF, high, low] =>
      "::ffff:".toList ++ textV4 [high / 256, high % 256, low / 256, low % 256]
    | _ =>
      let (start, length) := longestZeroRun 0 groups
      if 1 < length then
        textGroups (groups.take start) ++ [':', ':'] ++ textGroups (groups.drop (start + length))
      else textGroups groups

/-- The number that starts a text: between one and the given number of digits, at most the limit,
and without a zero in front unless that is allowed. -/
def readNumber (base maxDigits limit : Nat) (zeroInFront : Bool) (t : Text) :
    Option (Nat × Text) :=
  let digits := t.takeWhile fun c => (Text.digitValue? base c).isSome
  let value := Text.toNat base digits
  if digits.isEmpty || maxDigits < digits.length || limit < value then none
  else if !zeroInFront && digits.head? == some '0' && 1 < digits.length then none
  else some (value, t.drop digits.length)

/-- A character, unless none is asked for, at the start of a text. -/
def readSeparator (separator : Option Char) (t : Text) : Option Text :=
  match separator, t with
  | none, t => some t
  | some s, c :: rest => if c = s then some rest else none
  | some _, [] => none

def readBytes : Nat → Option Char → Text → Option (List Nat × Text)
  | 0, _, t => some ([], t)
  | n + 1, separator, t => do
    let t ← readSeparator separator t
    let (byte, t) ← readNumber 10 3 255 false t
    let (bytes, t) ← readBytes n (some '.') t
    return (byte :: bytes, t)

def readV4 (t : Text) : Option (List Nat × Text) :=
  readBytes 4 none t

/-- At most the given number of groups with colons between them, the last two of which may be
written as four bytes, and whether they were. -/
def readGroups : Nat → Option Char → Text → List Nat × Bool × Text
  | 0, _, t => ([], false, t)
  | n + 1, separator, t =>
    match readSeparator separator t with
    | none => ([], false, t)
    | some inner =>
      match if 0 < n then readV4 inner else none with
      | some ([a, b, c, d], rest) => ([a * 256 + b, c * 256 + d], true, rest)
      | _ =>
        match readNumber 16 4 65535 true inner with
        | none => ([], false, t)
        | some (group, rest) =>
          let (groups, bytes, rest) := readGroups n (some ':') rest
          (group :: groups, bytes, rest)

/-- The groups of an address at the start of a text. Two colons stand for at least one zero. -/
def readV6 (t : Text) : Option (List Nat × Text) :=
  let (front, bytes, rest) := readGroups 8 none t
  if front.length = 8 then some (front, rest)
  else if bytes then none
  else
    match rest with
    | ':' :: ':' :: rest =>
      let (back, _, rest) := readGroups (8 - (front.length + 1)) none rest
      some (front ++ List.replicate (8 - front.length - back.length) 0 ++ back, rest)
    | _ => none

/-- Reads an address of either version. -/
def parse? (t : Text) : Option IpAddress :=
  match readV4 t with
  | some (bytes, []) => some (.v4 bytes)
  | _ =>
    match readV6 t with
    | some (groups, []) => some (.v6 groups)
    | _ => none

end IpAddress

/-- An address with a port. -/
structure Endpoint where
  address : IpAddress
  port : Nat
deriving DecidableEq, Repr

namespace Endpoint

def syntaxMessage : Text :=
  "invalid socket address syntax".toList

/-- A number of any length behind a colon, up to the end of the text. -/
def readPort (t : Text) : Option Nat :=
  match t with
  | ':' :: digits => Text.number? 65535 digits
  | _ => none

/-- A number behind a percent sign, which names a zone and is not kept. -/
def skipZone (t : Text) : Text :=
  match t with
  | '%' :: rest =>
    match Text.number? 4294967295 (rest.takeWhile Text.isDigit) with
    | some _ => rest.dropWhile Text.isDigit
    | none => t
  | _ => t

/-- Reads `address:port`, with brackets around an address of version 6. -/
def parse? (t : Text) : Option Endpoint :=
  match t with
  | '[' :: rest =>
    match IpAddress.readV6 rest with
    | some (groups, rest) =>
      match skipZone rest with
      | ']' :: rest => (readPort rest).map fun port => ⟨.v6 groups, port⟩
      | _ => none
    | none => none
  | _ =>
    match IpAddress.readV4 t with
    | some (bytes, rest) => (readPort rest).map fun port => ⟨.v4 bytes, port⟩
    | none => none

end Endpoint

end Gatekeeper
