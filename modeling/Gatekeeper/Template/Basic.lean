import Gatekeeper.Text.Slice

/-!
# Templates

A template is a text with references to named values: `$name`, where the name is made of letters,
digits and underscores, or `${name}`, where it is anything without a closing brace. Two dollar signs
write one. A dollar sign that begins neither stands for itself.

A template is gone through once, with a cursor that knows at which byte each character begins. A
name in braces is cut out of the template by its bytes, and the cursor then skips as many characters
as were cut out. A value is never looked at again.
-/

namespace Gatekeeper

/-- The characters that are still to come, each with the number of bytes before it. -/
abbrev Cursor := List (Nat × Char)

namespace Cursor

/-- The cursor that goes through a text which begins behind so many bytes. -/
def ofText (offset : Nat) : Text → Cursor
  | [] => []
  | c :: rest => (offset, c) :: ofText (offset + c.utf8Size) rest

end Cursor

namespace Template

/-- The character can stand in a name without braces. -/
def isNameChar (c : Char) : Bool :=
  c.isAlphanum || c == '_'

/-- Takes the characters of a name from a cursor and puts them behind those that are there. -/
def readName (name : Text) : Cursor → Text × Cursor
  | [] => (name, [])
  | (offset, c) :: rest =>
    if isNameChar c then readName (name ++ [c]) rest else (name, (offset, c) :: rest)

/-- What is written for a dollar sign, and the cursor behind all that it is written for. The cursor
that is given has gone past the dollar sign. -/
def readDollar? (values : Text → Text) (template : Text) (cursor : Cursor) :
    Option (Text × Cursor) :=
  match cursor.head? with
  | some (_, '$') => some (['$'], cursor.drop 1)
  | some (start, '\x7b') => do
    let rest ← Text.dropBytes? (start + 1) template
    match Text.byteIndex? '\x7d' rest with
    | none => return (['$'], cursor)
    | some stop =>
      let name ← Text.takeBytes? stop rest
      let skipped ← Text.takeBytes? (stop + 1) rest
      return (values name, cursor.drop (skipped.length + 1))
  | _ =>
    let (name, cursor) := readName [] cursor
    return (if name.isEmpty then ['$'] else values name, cursor)

theorem length_readName_le (name : Text) (cursor : Cursor) :
    (readName name cursor).2.length ≤ cursor.length := by
  induction cursor generalizing name with
  | nil => exact Nat.le_refl 0
  | cons next rest ih =>
      rw [readName]
      split
      · exact Nat.le_succ_of_le (ih (name ++ [next.2]))
      · exact Nat.le_refl _

theorem length_le_of_readDollar? {values : Text → Text} {template written : Text}
    {cursor later : Cursor} (h : readDollar? values template cursor = some (written, later)) :
    later.length ≤ cursor.length := by
  rw [readDollar?] at h
  split at h
  · cases h
    simp
  · obtain ⟨rest, -, h⟩ := Option.bind_eq_some_iff.mp h
    split at h
    · cases h
      exact Nat.le_refl _
    · obtain ⟨name, -, h⟩ := Option.bind_eq_some_iff.mp h
      obtain ⟨skipped, -, h⟩ := Option.bind_eq_some_iff.mp h
      cases h
      simp
  · cases h
    exact length_readName_le [] cursor

/-- Goes on through a template and writes behind what has been written. -/
def scan? (values : Text → Text) (template out : Text) (cursor : Cursor) : Option Text :=
  match cursor with
  | [] => some out
  | (_, c) :: cursor =>
    if c = '$' then
      match hread : readDollar? values template cursor with
      | none => none
      | some (written, later) =>
        have := length_le_of_readDollar? hread
        scan? values template (out ++ written) later
    else scan? values template (out ++ [c]) cursor
termination_by cursor.length
decreasing_by
  · exact Nat.lt_succ_of_le this
  · exact Nat.lt_succ_self _

/-- The template with every reference replaced by the value of its name. A cut inside of a character
would leave nothing of it. -/
def render? (values : Text → Text) (template : Text) : Option Text :=
  scan? values template [] (.ofText 0 template)

/-- The rendered template; no template is cut inside of a character. -/
def render (values : Text → Text) (template : Text) : Text :=
  (render? values template).getD []

/-- The template may depend on a request: it holds a dollar sign. -/
def isDynamic (template : Text) : Bool :=
  template.contains '$'

end Template

end Gatekeeper
