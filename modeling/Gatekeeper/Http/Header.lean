import Gatekeeper.Text.Utf8

/-!
# Header fields

Names are tokens and compare without regard to case, so they are kept in lower case. Values are
bytes. A list of fields keeps the order of arrival; a name may occur in it several times.
-/

namespace Gatekeeper

/-- The characters of a token. -/
def isTokenChar (c : Char) : Bool :=
  c.isAlphanum || "!#$%&\x27*+-.^_\x60|~".toList.contains c

/-- Names compare without regard to case, so they are kept in lower case. -/
def headerName? (t : Text) : Option Text :=
  if t.isEmpty || 65535 < t.length || !t.all isTokenChar then none else some (Text.asciiLower t)

/-- A value of a field. It may hold bytes that are no text. -/
structure HeaderValue where
  bytes : List UInt8
deriving DecidableEq

namespace HeaderValue

/-- The byte may stand in a value: a tab, or no control character. -/
def isValueByte (b : UInt8) : Bool :=
  b == 9 || (32 ≤ b && b != 127)

/-- Bytes that can be read as a character of ASCII. -/
def isVisibleByte (b : UInt8) : Bool :=
  b == 9 || (32 ≤ b && b < 127)

def isPaddingByte (b : UInt8) : Bool :=
  b == 9 || b == 32

def ofText? (t : Text) : Option HeaderValue :=
  let bytes := Text.encode t
  if bytes.all isValueByte then some ⟨bytes⟩ else none

/-- The value of a text that is known to be visible ASCII. -/
def ofText (t : Text) : HeaderValue :=
  ⟨Text.encode t⟩

/-- The text of a value of visible ASCII; no other value can be read. -/
def text? (v : HeaderValue) : Option Text :=
  if v.bytes.all isVisibleByte then some (v.bytes.map fun b => Char.ofNat b.toNat) else none

/-- The value without the blanks around it, as it arrives. -/
def unpadded (v : HeaderValue) : HeaderValue :=
  ⟨((v.bytes.dropWhile isPaddingByte).reverse.dropWhile isPaddingByte).reverse⟩

end HeaderValue

/-- Header fields in order of arrival, under names in lower case. -/
abbrev Headers := List (Text × HeaderValue)

namespace Headers

/-- All values under a name, in their order. -/
def values (headers : Headers) (name : Text) : List HeaderValue :=
  (headers.filter (·.1 = name)).map Prod.snd

/-- The first value under a name, which may be given in any case. -/
def first? (headers : Headers) (name : Text) : Option HeaderValue :=
  (headers.values (Text.asciiLower name)).head?

def firstText? (headers : Headers) (name : Text) : Option Text :=
  (headers.first? name).bind HeaderValue.text?

/-- All fields but those of a name. -/
def without (headers : Headers) (name : Text) : Headers :=
  headers.filter (·.1 ≠ name)

/-- The fields with one value under a name, instead of any that were there. -/
def set (headers : Headers) (name : Text) (value : HeaderValue) : Headers :=
  headers.without name ++ [(name, value)]

/-- The fields with one more value under a name, behind any that were there. -/
def add (headers : Headers) (name : Text) (value : HeaderValue) : Headers :=
  headers ++ [(name, value)]

/-- The fields with a value under a name that has none. -/
def setMissing (headers : Headers) (name : Text) (value : HeaderValue) : Headers :=
  if (headers.values name).isEmpty then headers ++ [(name, value)] else headers

/-- The fields of a message that is put together anew from these, one after the other. -/
def copied (headers : Headers) : Headers :=
  headers.foldl (fun built field => built.add field.1 field.2) []

/-- The fields as they arrive at the other end: padding around a value is lost. -/
def received (headers : Headers) : Headers :=
  headers.map fun field => (field.1, field.2.unpadded)

variable {headers others : Headers} {name other : Text} {value : HeaderValue}

@[simp] theorem values_nil : values [] name = [] :=
  rfl

@[simp] theorem values_cons_self :
    values ((name, value) :: headers) name = value :: headers.values name := by
  simp [values]

@[simp] theorem values_cons_of_ne (h : name ≠ other) :
    values ((name, value) :: headers) other = headers.values other := by
  simp [values, h]

@[simp] theorem values_append :
    values (headers ++ others) name = headers.values name ++ others.values name := by
  simp [values]

@[simp] theorem values_without : (headers.without name).values name = [] := by
  simp [values, without, List.filter_filter]

theorem values_filter (keep : Text → Bool) (h : keep name = true) :
    Headers.values (headers.filter (keep ·.1)) name = headers.values name := by
  have hboth : ∀ field ∈ headers,
      (decide (field.1 = name) && keep field.1) = decide (field.1 = name) := by
    intro field _
    by_cases hfield : field.1 = name
    · simp [hfield, h]
    · simp [hfield]
  rw [values, List.filter_filter, List.filter_congr hboth, values]

@[simp] theorem values_without_of_ne (h : other ≠ name) :
    (headers.without name).values other = headers.values other :=
  values_filter (· ≠ name) (by simpa using h)

@[simp] theorem values_set : (headers.set name value).values name = [value] := by
  simp [set]

@[simp] theorem values_set_of_ne (h : other ≠ name) :
    (headers.set name value).values other = headers.values other := by
  simp [set, h, Ne.symm h]

theorem without_comm :
    (headers.without name).without other = (headers.without other).without name := by
  simp only [without, List.filter_filter, Bool.and_comm]

@[simp] theorem without_set : (headers.set name value).without name = headers.without name := by
  simp [set, without, List.filter_filter]

@[simp] theorem without_set_of_ne (h : other ≠ name) :
    (headers.set name value).without other = (headers.without other).set name value := by
  rw [set, set, without_comm, without, List.filter_append, ← without]
  simp [Ne.symm h]

theorem foldl_add (built fields : Headers) :
    fields.foldl (fun built field => built.add field.1 field.2) built = built ++ fields := by
  induction fields generalizing built with
  | nil => exact (List.append_nil built).symm
  | cons field rest ih => rw [List.foldl_cons, ih, add, List.append_assoc, List.singleton_append]

@[simp] theorem copied_eq (headers : Headers) : headers.copied = headers :=
  foldl_add [] headers

end Headers

end Gatekeeper
