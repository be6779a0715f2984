namespace Gatekeeper

/-- Text is a list of characters, so that reading and writing are recursion on the text itself. -/
abbrev Text := List Char

namespace Text

/-- The pieces of a text between the occurrences of a separator; there is always at least one. -/
def pieces (separator : Char) : Text → List Text
  | [] => [[]]
  | c :: rest =>
    if c = separator then [] :: pieces separator rest
    else
      match pieces separator rest with
      | [] => [[c]]
      | first :: others => (c :: first) :: others

/-- Puts pieces together with a separator between them. -/
def join (separator : Text) : List Text → Text
  | [] => []
  | [piece] => piece
  | piece :: others => piece ++ separator ++ join separator others

/-- The text before the first occurrence of a character, and the text after it if it occurs. -/
def cut (mark : Char) (t : Text) : Text × Option Text :=
  match t.dropWhile (· != mark) with
  | [] => (t, none)
  | _ :: rest => (t.takeWhile (· != mark), some rest)

/-- How many bytes a text takes in UTF-8. -/
def byteLength (t : Text) : Nat :=
  t.foldr (fun c total => c.utf8Size + total) 0

/-- ASCII letters in lower case, every other character as it is. -/
def asciiLower (t : Text) : Text :=
  t.map Char.toLower

/-- Words that begin with capital letters, in capital letters and with underscores between them. -/
def inCapitals : Text → Text
  | [] => []
  | c :: rest => c.toUpper :: rest.flatMap fun d => if d.isUpper then ['_', d] else [d.toUpper]

def ofNat (n : Nat) : Text :=
  Nat.toDigits 10 n

def ofNatHex (n : Nat) : Text :=
  Nat.toDigits 16 n

def ofInt : Int → Text
  | .ofNat n => ofNat n
  | .negSucc n => '-' :: ofNat (n + 1)

/-- The text, with the given character put in front until it has the given length. -/
def padStart (width : Nat) (filler : Char) (t : Text) : Text :=
  List.replicate (width - t.length) filler ++ t

/-- The value of a digit of either case in a base of at most sixteen. -/
def digitValue? (base : Nat) (c : Char) : Option Nat :=
  let value :=
    if '0' ≤ c ∧ c ≤ '9' then c.toNat - '0'.toNat
    else if 'a' ≤ c ∧ c ≤ 'f' then c.toNat - 'a'.toNat + 10
    else if 'A' ≤ c ∧ c ≤ 'F' then c.toNat - 'A'.toNat + 10
    else base
  if value < base then some value else none

def isDigit (c : Char) : Bool :=
  '0' ≤ c && c ≤ '9'

/-- The number that a text of digits writes; characters that are no digits are passed over. -/
def toNat (base : Nat) (t : Text) : Nat :=
  t.foldl (fun value c =>
    match digitValue? base c with
    | some digit => value * base + digit
    | none => value) 0

/-- The number that a text of one or more decimal digits writes, if it is at most the limit. -/
def number? (limit : Nat) (t : Text) : Option Nat :=
  if t.isEmpty || !t.all isDigit then none
  else
    let value := toNat 10 t
    if value ≤ limit then some value else none

/-- The text after the last occurrence of a character; all of it if there is none. -/
def afterLast (mark : Char) (t : Text) : Text :=
  (t.reverse.takeWhile (· != mark)).reverse

/-- Drops characters from the end. -/
def dropEndWhile (p : Char → Bool) (t : Text) : Text :=
  (t.reverse.dropWhile p).reverse

/-- The order in which texts are sorted. -/
def isAtMost (a b : Text) : Bool :=
  !decide (b < a)

/-- The text starts with the given one; what follows is left. -/
def dropLeading? (lead : Text) (t : Text) : Option Text :=
  match lead, t with
  | [], t => some t
  | _ :: _, [] => none
  | a :: lead, c :: rest => if a = c then dropLeading? lead rest else none

end Text

end Gatekeeper
