import Gatekeeper.Proofs.Template.Substitution

/-!
# Templates made of parts

Literal texts and references can follow each other in any order. Written as a template, with the
dollar signs of the literals doubled and the names in braces, they are read again as they are:
nothing at the end of one part is taken together with the beginning of the next.
-/

namespace Gatekeeper

namespace Template

/-- A literal text, or a reference to a name that can stand in braces. -/
inductive Part where
  | literal (t : Text)
  | reference (name : Text) (hname : '\x7d' ∉ name)
deriving DecidableEq, Repr

/-- The text with every dollar sign doubled. -/
def escape (t : Text) : Text :=
  t.flatMap fun c => if c = '$' then ['$', '$'] else [c]

namespace Part

/-- A part as it is written in a template. -/
def text : Part → Text
  | .literal t => escape t
  | .reference name _ => '$' :: '\x7b' :: (name ++ ['\x7d'])

/-- The segments that a part is read as. -/
def segments : Part → List Segment
  | .literal t => t.map .literal
  | .reference name _ => [.reference name]

/-- What a part stands for. -/
def value (values : Text → Text) : Part → Text
  | .literal t => t
  | .reference name _ => values name

end Part

/-- The template in which the parts are written one behind the other. -/
def ofParts (parts : List Part) : Text :=
  parts.flatMap Part.text

theorem ofTemplate_escape_append (t rest : Text) :
    Segment.ofTemplate (escape t ++ rest) = t.map .literal ++ Segment.ofTemplate rest := by
  induction t with
  | nil => rfl
  | cons c t ih =>
      have hescape : escape (c :: t) = (if c = '$' then ['$', '$'] else [c]) ++ escape t :=
        List.flatMap_cons
      rw [hescape, List.append_assoc, List.map_cons, List.cons_append, ← ih]
      by_cases hc : c = '$'
      · subst hc
        exact Segment.ofTemplate_of_begins .doubled
      · rw [if_neg hc]
        exact Segment.ofTemplate_of_begins (.literal hc)

/-- A part ends where it is written to end, whatever comes behind it. -/
theorem ofTemplate_text_append (p : Part) (rest : Text) :
    Segment.ofTemplate (p.text ++ rest) = p.segments ++ Segment.ofTemplate rest := by
  cases p with
  | literal t => exact ofTemplate_escape_append t rest
  | reference name hname =>
      have htext : (Part.reference name hname).text ++ rest =
          '$' :: '\x7b' :: (name ++ '\x7d' :: rest) := by
        simp [Part.text]
      rw [htext]
      exact Segment.ofTemplate_of_begins (.braced hname)

theorem ofTemplate_ofParts (parts : List Part) :
    Segment.ofTemplate (ofParts parts) = parts.flatMap Part.segments := by
  induction parts with
  | nil => exact Segment.ofTemplate_nil
  | cons p parts ih =>
      have hcons : ofParts (p :: parts) = p.text ++ ofParts parts := List.flatMap_cons
      rw [hcons, ofTemplate_text_append, ih, List.flatMap_cons]

theorem Part.flatMap_value_segments (values : Text → Text) (p : Part) :
    p.segments.flatMap (Segment.value values) = p.value values := by
  cases p with
  | literal t => exact Segment.flatMap_value_literal values t
  | reference name hname => exact List.flatMap_singleton (Segment.value values) _

end Template

/-- The template that is written for a list of parts renders to the literals as they are and the
values of the names, in the order of the parts. -/
theorem written_parts_render_to_values (v : RequestValues) (parts : List Template.Part) :
    v.render (Template.ofParts parts) = parts.flatMap (Template.Part.value v.value) := by
  calc
    v.render (Template.ofParts parts)
    _ = (Segment.ofTemplate (Template.ofParts parts)).flatMap (Segment.value v.value) :=
      Template.render_eq v.value (Template.ofParts parts)
    _ = (parts.flatMap Template.Part.segments).flatMap (Segment.value v.value) := by
      rw [Template.ofTemplate_ofParts]
    _ = parts.flatMap fun p => p.segments.flatMap (Segment.value v.value) :=
      List.flatMap_assoc
    _ = parts.flatMap (Template.Part.value v.value) :=
      congrArg parts.flatMap (funext (Template.Part.flatMap_value_segments v.value))

/-- A dollar sign or a brace in front of a reference is not taken for a part of it. -/
example :
    let written := Template.ofParts [.literal "a$".toList, .reference "né$\x7b".toList (by decide),
      .literal "\x7d$\x7b".toList, .reference [] (by decide), .literal "ß".toList]
    written = "a$$$\x7bné$\x7b\x7d\x7d$$\x7b$\x7b\x7dß".toList ∧
      Template.render (fun name => '<' :: name ++ ['>']) written =
        "a$<né$\x7b>\x7d$\x7b<>ß".toList := by
  decide +kernel

end Gatekeeper
