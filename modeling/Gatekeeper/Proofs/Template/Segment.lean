import Gatekeeper.Proofs.Text.Pieces
import Gatekeeper.Template.Basic

/-!
# The segments of a template

A template that is not empty begins with one segment, and what is behind it is a template again.
`Segment.Begins` says which segment that is, and `Segment.ofTemplate` takes a template apart from
its beginning.
-/

namespace Gatekeeper

namespace Template

/-- A letter or a digit of ASCII, or an underscore. -/
def IsNameChar (c : Char) : Prop :=
  'A' ≤ c ∧ c ≤ 'Z' ∨ 'a' ≤ c ∧ c ≤ 'z' ∨ '0' ≤ c ∧ c ≤ '9' ∨ c = '_'

instance (c : Char) : Decidable (IsNameChar c) :=
  inferInstanceAs (Decidable (_ ∨ _))

theorem isNameChar_iff {c : Char} : isNameChar c = true ↔ IsNameChar c := by
  change (decide ('A' ≤ c ∧ c ≤ 'Z') || (decide ('a' ≤ c) && decide (c ≤ 'z')) ||
    (decide ('0' ≤ c) && decide (c ≤ '9')) || c == '_') = true ↔ IsNameChar c
  simp only [IsNameChar, Bool.or_eq_true, Bool.and_eq_true, decide_eq_true_eq, beq_iff_eq, or_assoc]

end Template

/-- A part of a template: a character that stands for itself, or a name that stands for its
value. -/
inductive Segment where
  | literal (c : Char)
  | reference (name : Text)
deriving DecidableEq, Repr

namespace Segment

/-- The segment that a template begins with, and what is behind it. -/
inductive Begins : Text → Segment → Text → Prop where
  | literal {c : Char} {rest : Text} (hc : c ≠ '$') : Begins (c :: rest) (.literal c) rest
  | doubled {rest : Text} : Begins ('$' :: '$' :: rest) (.literal '$') rest
  | braced {name rest : Text} (hname : '\x7d' ∉ name) :
      Begins ('$' :: '\x7b' :: (name ++ '\x7d' :: rest)) (.reference name) rest
  | unclosed {rest : Text} (hrest : '\x7d' ∉ rest) :
      Begins ('$' :: '\x7b' :: rest) (.literal '$') ('\x7b' :: rest)
  | named {c : Char} {name rest : Text} (hc : Template.IsNameChar c)
      (hname : ∀ d ∈ name, Template.IsNameChar d)
      (hrest : ∀ d, rest.head? = some d → ¬Template.IsNameChar d) :
      Begins ('$' :: c :: (name ++ rest)) (.reference (c :: name)) rest
  | lone {rest : Text}
      (hrest : ∀ c, rest.head? = some c → c ≠ '$' ∧ c ≠ '\x7b' ∧ ¬Template.IsNameChar c) :
      Begins ('$' :: rest) (.literal '$') rest

/-- The text that a segment stands for. -/
def value (values : Text → Text) : Segment → Text
  | .literal c => [c]
  | .reference name => values name

variable {t rest : Text} {s : Segment}

theorem Begins.length_lt (h : Begins t s rest) : rest.length < t.length := by
  cases h <;> simp only [List.length_cons, List.length_append] <;> omega

theorem exists_begins_brace (t : Text) : ∃ s rest, Begins ('$' :: '\x7b' :: t) s rest := by
  by_cases hclosed : '\x7d' ∈ t
  · obtain ⟨name, rest, rfl, hname⟩ := List.eq_append_cons_of_mem hclosed
    exact ⟨_, _, .braced hname⟩
  · exact ⟨_, _, .unclosed hclosed⟩

theorem exists_begins_name {c : Char} (hc : Template.IsNameChar c) (t : Text) :
    ∃ s rest, Begins ('$' :: c :: t) s rest := by
  rw [← List.takeWhile_append_dropWhile (p := Template.isNameChar) (l := t)]
  refine ⟨_, _, .named hc ?_ ?_⟩
  · intro d hd
    exact Template.isNameChar_iff.mp (List.all_eq_true.mp List.all_takeWhile d hd)
  · intro d hd
    have hhead := List.head?_dropWhile_not Template.isNameChar t
    rw [hd] at hhead
    simpa [← Template.isNameChar_iff] using hhead

theorem exists_begins (hne : t ≠ []) : ∃ s rest, Begins t s rest := by
  obtain ⟨c, t, rfl⟩ := List.exists_cons_of_ne_nil hne
  by_cases hc : c ≠ '$'
  · exact ⟨_, _, .literal hc⟩
  obtain rfl : c = '$' := Decidable.not_not.mp hc
  cases t with
  | nil => exact ⟨_, _, .lone (by simp)⟩
  | cons d rest =>
      by_cases hdoubled : d = '$'
      · subst hdoubled
        exact ⟨_, _, .doubled⟩
      by_cases hbrace : d = '\x7b'
      · subst hbrace
        exact exists_begins_brace rest
      by_cases hname : Template.IsNameChar d
      · exact exists_begins_name hname rest
      refine ⟨_, _, .lone ?_⟩
      rintro e ⟨⟩
      exact ⟨hdoubled, hbrace, hname⟩

theorem length_dropWhile_le (p : Char → Bool) (t : Text) : (t.dropWhile p).length ≤ t.length := by
  induction t with
  | nil => simp
  | cons c rest ih =>
      rw [List.dropWhile_cons]
      split
      · exact Nat.le_succ_of_le ih
      · exact Nat.le_refl _

/-- All segments of a template. -/
def ofTemplate (t : Text) : List Segment :=
  match t with
  | [] => []
  | '$' :: '$' :: rest => .literal '$' :: ofTemplate rest
  | '$' :: '\x7b' :: rest =>
    if rest.contains '\x7d' then
      .reference (rest.takeWhile (· != '\x7d')) ::
        ofTemplate ((rest.dropWhile (· != '\x7d')).drop 1)
    else .literal '$' :: ofTemplate ('\x7b' :: rest)
  | '$' :: c :: rest =>
    if Template.isNameChar c then
      .reference (c :: rest.takeWhile Template.isNameChar) ::
        ofTemplate (rest.dropWhile Template.isNameChar)
    else .literal '$' :: ofTemplate (c :: rest)
  | c :: rest => .literal c :: ofTemplate rest
termination_by t.length
decreasing_by
  · simp only [List.length_cons]; omega
  · have := length_dropWhile_le (· != '\x7d') rest
    simp only [List.length_cons, List.length_drop]; omega
  · simp only [List.length_cons]; omega
  · have := length_dropWhile_le Template.isNameChar rest
    simp only [List.length_cons]; omega
  · simp only [List.length_cons]; omega
  · simp only [List.length_cons]; omega

@[simp] theorem ofTemplate_nil : ofTemplate [] = [] := by
  rw [ofTemplate]

theorem ofTemplate_cons_of_ne {c : Char} (rest : Text) (h : c ≠ '$') :
    ofTemplate (c :: rest) = .literal c :: ofTemplate rest := by
  rw [ofTemplate]
  all_goals
    intros
    exact absurd ‹c = '$'› h

theorem ofTemplate_brace (t : Text) :
    ofTemplate ('$' :: '\x7b' :: t) =
      if t.contains '\x7d' then
        .reference (t.takeWhile (· != '\x7d')) ::
          ofTemplate ((t.dropWhile (· != '\x7d')).drop 1)
      else .literal '$' :: ofTemplate ('\x7b' :: t) := by
  rw [ofTemplate]

theorem ofTemplate_dollar {c : Char} (t : Text) (hdoubled : c ≠ '$') (hbrace : c ≠ '\x7b') :
    ofTemplate ('$' :: c :: t) =
      if Template.isNameChar c then
        .reference (c :: t.takeWhile Template.isNameChar) ::
          ofTemplate (t.dropWhile Template.isNameChar)
      else .literal '$' :: ofTemplate (c :: t) := by
  rw [ofTemplate]
  · exact fun h => hdoubled h
  · exact fun h => hbrace h

theorem ofTemplate_of_begins (h : Begins t s rest) : ofTemplate t = s :: ofTemplate rest := by
  cases h with
  | literal hc => exact ofTemplate_cons_of_ne rest hc
  | doubled => rw [ofTemplate]
  | braced hname =>
      rename_i name
      have hinside : ∀ c ∈ name, (c != '\x7d') = true := fun c hc =>
        bne_iff_ne.mpr (ne_of_mem_of_not_mem hc hname)
      have hbrace : ∀ c, ('\x7d' :: rest).head? = some c → (c != '\x7d') = false := by
        rintro c ⟨⟩
        rfl
      rw [ofTemplate_brace, if_pos (by simp), Text.takeWhile_append_of_head? hinside hbrace,
        Text.dropWhile_append_of_head? hinside hbrace, List.drop_one, List.tail_cons]
  | unclosed hrest =>
      rename_i rest
      rw [ofTemplate_brace, if_neg (by simpa using hrest)]
  | named hc hname hrest =>
      rename_i c name
      simp only [← Template.isNameChar_iff, Bool.not_eq_true] at hc hname hrest
      have hdoubled : c ≠ '$' := by
        rintro rfl
        cases hc
      have hbrace : c ≠ '\x7b' := by
        rintro rfl
        cases hc
      rw [ofTemplate_dollar (name ++ rest) hdoubled hbrace, if_pos hc,
        Text.takeWhile_append_of_head? hname hrest, Text.dropWhile_append_of_head? hname hrest]
  | lone hrest =>
      cases rest with
      | nil => simp [ofTemplate]
      | cons c rest =>
          obtain ⟨hdoubled, hbrace, hname⟩ := hrest c rfl
          rw [ofTemplate_dollar rest hdoubled hbrace,
            if_neg (mt Template.isNameChar_iff.mp hname)]

theorem ofTemplate_of_not_mem (h : '$' ∉ t) : ofTemplate t = t.map .literal := by
  induction t with
  | nil => simp
  | cons c rest ih =>
      obtain ⟨hc, hrest⟩ := not_or.mp (mt List.mem_cons.mpr h)
      rw [ofTemplate_cons_of_ne rest (Ne.symm hc), ih hrest, List.map_cons]

@[simp] theorem flatMap_value_literal (values : Text → Text) (t : Text) :
    (t.map literal).flatMap (value values) = t := by
  rw [List.flatMap_map]
  exact List.flatMap_singleton' t

end Segment

end Gatekeeper
