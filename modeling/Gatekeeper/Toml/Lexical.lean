import Gatekeeper.Text.Basic

namespace Gatekeeper.Toml

def isBlank (c : Char) : Bool :=
  c == ' ' || c == '\t'

def skipBlanks (t : Text) : Text :=
  t.dropWhile isBlank

/-- The text after a line break, which it must start with. -/
def lineBreak? (t : Text) : Option Text :=
  match t with
  | '\n' :: rest => some rest
  | '\r' :: '\n' :: rest => some rest
  | _ => none

/-- The character may stand in a comment: a tab, or no control character. -/
def isCommentChar (c : Char) : Bool :=
  let n := c.toNat
  n == 9 || (0x20 ≤ n && n != 0x7F)

def skipComment (t : Text) : Text :=
  match t with
  | '#' :: rest => rest.dropWhile isCommentChar
  | _ => t

/-- The text after the end of a line, before which only blanks and a comment may stand. -/
def lineEnd? (t : Text) : Option Text :=
  match skipComment (skipBlanks t) with
  | [] => some []
  | rest => lineBreak? rest

/-- The text without the blanks, line breaks and comments at its start. -/
def skipLayout (inComment : Bool) : Text → Text
  | [] => []
  | c :: rest =>
    if inComment && isCommentChar c then skipLayout true rest
    else if isBlank c || c == '\n' then skipLayout false rest
    else if c = '#' then skipLayout true rest
    else if c = '\r' then
      match rest with
      | '\n' :: after => skipLayout false after
      | other => c :: other
    else c :: rest

/-- Goes past blanks and ends of lines. -/
def skipLines : Text → Text
  | [] => []
  | c :: rest =>
    if isBlank c || c == '\n' then skipLines rest
    else if c = '\r' then
      match rest with
      | '\n' :: after => skipLines after
      | other => c :: other
    else c :: rest

/-! ## Strings -/

/-- The character stands for itself in a string with escapes. -/
def isBasicChar (c : Char) : Bool :=
  isCommentChar c && c != '"' && c != '\\'

/-- The character stands for itself in a string without escapes. -/
def isLiteralChar (c : Char) : Bool :=
  isCommentChar c && c != '\x27'

/-- The character whose number is written in the given count of digits. -/
def numberedChar? (count : Nat) (t : Text) : Option Char :=
  let digits := t.take count
  let n := Text.toNat 16 digits
  if digits.length = count ∧ digits.all fun c => (Text.digitValue? 16 c).isSome then
    if h : n.isValidChar then some (Char.ofNatAux n h) else none
  else none

/-- What a backslash and the character after it stand for. -/
def namedEscape? (c : Char) : Option Char :=
  if c = 'b' then some (Char.ofNat 8)
  else if c = 't' then some '\t'
  else if c = 'n' then some '\n'
  else if c = 'f' then some (Char.ofNat 12)
  else if c = 'r' then some '\r'
  else if c = '"' then some '"'
  else if c = '\\' then some '\\'
  else none

/-- Reads what stands behind a backslash. -/
def escape? (t : Text) : Option (Char × Text) :=
  match t with
  | [] => none
  | 'u' :: rest => (numberedChar? 4 rest).map fun c => (c, rest.drop 4)
  | 'U' :: rest => (numberedChar? 8 rest).map fun c => (c, rest.drop 8)
  | c :: rest => (namedEscape? c).map fun c => (c, rest)

theorem length_of_escape? {t rest : Text} {c : Char} (h : escape? t = some (c, rest)) :
    rest.length < t.length := by
  unfold escape? at h
  split at h
  · simp at h
  · obtain ⟨_, _, h⟩ := Option.map_eq_some_iff.mp h
    cases h
    simp only [List.length_drop, List.length_cons]
    omega
  · obtain ⟨_, _, h⟩ := Option.map_eq_some_iff.mp h
    cases h
    simp only [List.length_drop, List.length_cons]
    omega
  · obtain ⟨_, _, h⟩ := Option.map_eq_some_iff.mp h
    cases h
    simp

def prepend (c : Char) (read : Text × Text) : Text × Text :=
  (c :: read.1, read.2)

/-- Reads a string with escapes up to its closing quote. -/
def basicString? (t : Text) : Option (Text × Text) :=
  match t with
  | [] => none
  | '"' :: rest => some ([], rest)
  | '\\' :: rest =>
    match h : escape? rest with
    | some (c, after) =>
      have := length_of_escape? h
      (basicString? after).map (prepend c)
    | none => none
  | c :: rest => if isBasicChar c then (basicString? rest).map (prepend c) else none
termination_by t.length
decreasing_by
  · simp only [List.length_cons]; omega
  · simp only [List.length_cons]; omega

/-- Reads a string without escapes up to its closing quote. -/
def literalString? : Text → Option (Text × Text)
  | [] => none
  | c :: rest =>
    if c = '\x27' then some ([], rest)
    else if isLiteralChar c then (literalString? rest).map (prepend c)
    else none

/-- The end of a string between triple quotes, of which the last three characters have been read:
up to two more quotes belong to the string. -/
def closeTriple (quote : Char) (t : Text) : Text × Text :=
  match t with
  | a :: b :: rest =>
    if a = quote ∧ b = quote then ([quote, quote], rest)
    else if a = quote then ([quote], b :: rest)
    else ([], t)
  | [a] => if a = quote then ([quote], []) else ([], t)
  | [] => ([], [])

theorem length_skipLines_le (t : Text) : (skipLines t).length ≤ t.length := by
  fun_induction skipLines t with
  | case1 => exact Nat.le_refl _
  | case2 c rest _ ih => simp only [List.length_cons]; omega
  | case3 after _ ih => simp only [List.length_cons]; omega
  | case4 => exact Nat.le_refl _
  | case5 => exact Nat.le_refl _

theorem length_of_lineBreak? {t rest : Text} (h : lineBreak? t = some rest) :
    rest.length < t.length := by
  unfold lineBreak? at h
  split at h
  · cases h; simp
  · cases h; simp only [List.length_cons]; omega
  · simp at h

theorem length_skipBlanks_le (t : Text) : (skipBlanks t).length ≤ t.length :=
  (List.dropWhile_suffix isBlank).length_le

/-- Reads a string with escapes up to its closing triple quote. A backslash at the end of a line
takes the line break with it, and all blanks and line breaks that follow. -/
def basicLines? (t : Text) : Option (Text × Text) :=
  match t with
  | [] => none
  | '"' :: '"' :: '"' :: rest => some (closeTriple '"' rest)
  | '"' :: rest => (basicLines? rest).map (prepend '"')
  | '\\' :: rest =>
    match h : lineBreak? (skipBlanks rest) with
    | some after =>
      have := length_of_lineBreak? h
      have := length_skipBlanks_le rest
      have := length_skipLines_le after
      basicLines? (skipLines after)
    | none =>
      match h : escape? rest with
      | some (c, after) =>
        have := length_of_escape? h
        (basicLines? after).map (prepend c)
      | none => none
  | '\n' :: rest => (basicLines? rest).map (prepend '\n')
  | '\r' :: '\n' :: rest => (basicLines? rest).map (prepend '\n')
  | c :: rest => if isBasicChar c then (basicLines? rest).map (prepend c) else none
termination_by t.length
decreasing_by
  all_goals simp only [List.length_cons]; omega

/-- Reads a string without escapes up to its closing triple quote. -/
def literalLines? (t : Text) : Option (Text × Text) :=
  match t with
  | [] => none
  | '\x27' :: '\x27' :: '\x27' :: rest => some (closeTriple '\x27' rest)
  | '\x27' :: rest => (literalLines? rest).map (prepend '\x27')
  | '\n' :: rest => (literalLines? rest).map (prepend '\n')
  | '\r' :: '\n' :: rest => (literalLines? rest).map (prepend '\n')
  | c :: rest => if isLiteralChar c then (literalLines? rest).map (prepend c) else none

/-- A string that ends on its line. -/
def lineString? (t : Text) : Option (Text × Text) :=
  match t with
  | '"' :: rest => basicString? rest
  | '\x27' :: rest => literalString? rest
  | _ => none

/-- Reads a string. A line break right after a triple quote does not belong to it. -/
def string? (t : Text) : Option (Text × Text) :=
  match t with
  | '"' :: '"' :: '"' :: rest => basicLines? ((lineBreak? rest).getD rest)
  | '\x27' :: '\x27' :: '\x27' :: rest => literalLines? ((lineBreak? rest).getD rest)
  | _ => lineString? t

/-! ## Keys -/

/-- The character may stand in a key without quotes. -/
def isBareChar (c : Char) : Bool :=
  c.isAlphanum || c == '_' || c == '-'

/-- One part of a key, between quotes or bare. -/
def keyPart? (t : Text) : Option (Text × Text) :=
  match t with
  | '"' :: _ => lineString? t
  | '\x27' :: _ => lineString? t
  | _ =>
    let part := t.takeWhile isBareChar
    if part.isEmpty then none else some (part, t.drop part.length)

/-- Reads at most the given number of parts with points between them, and blanks around each. -/
def keyParts? : Nat → Text → Option (List Text × Text)
  | 0, _ => none
  | n + 1, t => do
    let (part, rest) ← keyPart? (skipBlanks t)
    match skipBlanks rest with
    | '.' :: after =>
      let (parts, rest) ← keyParts? n after
      return (part :: parts, rest)
    | rest => return ([part], rest)

def maxKeyParts : Nat :=
  79

/-- A key, whose parts have points between them. -/
def key? (t : Text) : Option (List Text × Text) :=
  keyParts? maxKeyParts t

end Gatekeeper.Toml
