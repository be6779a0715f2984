import Gatekeeper.Proofs.Template.Segment
import Gatekeeper.Proofs.Text.Bytes

/-!
# The loop that renders a template

The state of the loop is given by the part of the template that the cursor has gone past and the
part that is still to come. One turn writes the value of the segment that the second part begins
with, and no cut is made inside of a character.
-/

namespace Gatekeeper

namespace Cursor

/-- The cursor in front of the second of two texts, in a template that they make up. -/
def behind (before after : Text) : Cursor :=
  ofText (Text.byteLength before) after

variable {before after : Text} {c : Char}

@[simp] theorem behind_nil : behind before [] = [] :=
  rfl

theorem behind_cons :
    behind before (c :: after) = (Text.byteLength before, c) :: behind (before ++ [c]) after := by
  simp [behind, ofText]

theorem head?_behind :
    (behind before after).head? = after.head?.map (Text.byteLength before, ·) := by
  cases after with
  | nil => rfl
  | cons c after => simp [behind_cons]

theorem drop_behind (before front after : Text) :
    (behind before (front ++ after)).drop front.length = behind (before ++ front) after := by
  induction front generalizing before with
  | nil => simp
  | cons c front ih => simp [behind_cons, ih]

end Cursor

namespace Template

open Cursor (behind)

variable {values : Text → Text} {template before name rest out written : Text} {c : Char}
  {cursor later : Cursor} {offset : Nat} {s : Segment}

theorem readName_behind (before read : Text) (hname : ∀ d ∈ name, IsNameChar d)
    (hrest : ∀ d, rest.head? = some d → ¬IsNameChar d) :
    readName read (behind before (name ++ rest)) =
      (read ++ name, behind (before ++ name) rest) := by
  induction name generalizing before read with
  | nil =>
      cases rest with
      | nil => simp [readName]
      | cons d rest =>
          have hd : ¬isNameChar d = true := mt isNameChar_iff.mp (hrest d rfl)
          simp [Cursor.behind_cons, readName, hd]
  | cons d name ih =>
      obtain ⟨hd, hname⟩ := List.forall_mem_cons.mp hname
      simp [Cursor.behind_cons, readName, isNameChar_iff.mpr hd, ih _ _ hname]

theorem readDollar?_doubled :
    readDollar? values template (behind before ('$' :: rest)) =
      some (['$'], behind (before ++ ['$']) rest) := by
  simp [readDollar?, Cursor.behind_cons]

theorem dropBytes?_brace (before rest : Text) :
    Text.dropBytes? (Text.byteLength before + 1) (before ++ '\x7b' :: rest) = some rest := by
  have hbrace : '\x7b'.utf8Size = 1 := rfl
  have h := Text.dropBytes?_append (before ++ ['\x7b']) rest
  simpa [hbrace] using h

theorem takeBytes?_brace (name rest : Text) :
    Text.takeBytes? (Text.byteLength name + 1) (name ++ '\x7d' :: rest) =
      some (name ++ ['\x7d']) := by
  have hbrace : '\x7d'.utf8Size = 1 := rfl
  have h := Text.takeBytes?_append (name ++ ['\x7d']) rest
  simpa [hbrace] using h

theorem readDollar?_braced (values : Text → Text) (before rest : Text) (hname : '\x7d' ∉ name) :
    readDollar? values (before ++ '\x7b' :: (name ++ '\x7d' :: rest))
        (behind before ('\x7b' :: (name ++ '\x7d' :: rest))) =
      some (values name, behind (before ++ '\x7b' :: (name ++ ['\x7d'])) rest) := by
  have hlater : (behind before ('\x7b' :: (name ++ '\x7d' :: rest))).drop (name.length + 1 + 1) =
      behind (before ++ '\x7b' :: (name ++ ['\x7d'])) rest := by
    have h := Cursor.drop_behind before ('\x7b' :: (name ++ ['\x7d'])) rest
    simpa using h
  simp [readDollar?, Cursor.head?_behind, dropBytes?_brace, Text.byteIndex?_append_cons hname,
    Text.takeBytes?_append, takeBytes?_brace, hlater]

theorem readDollar?_unclosed (values : Text → Text) (before : Text) (hrest : '\x7d' ∉ rest) :
    readDollar? values (before ++ '\x7b' :: rest) (behind before ('\x7b' :: rest)) =
      some (['$'], behind before ('\x7b' :: rest)) := by
  simp [readDollar?, Cursor.head?_behind, dropBytes?_brace, Text.byteIndex?_eq_none hrest]

theorem readDollar?_name (hhead : ∀ c, rest.head? = some c → c ≠ '$' ∧ c ≠ '\x7b') :
    readDollar? values template (behind before rest) =
      some (if (readName [] (behind before rest)).1.isEmpty then ['$']
        else values (readName [] (behind before rest)).1,
        (readName [] (behind before rest)).2) := by
  cases rest with
  | nil => rfl
  | cons c rest =>
      obtain ⟨hdoubled, hbrace⟩ := hhead c rfl
      rw [readDollar?, Cursor.head?_behind]
      split
      · rename_i h
        cases h
        exact absurd rfl hdoubled
      · rename_i h
        cases h
        exact absurd rfl hbrace
      · rfl

theorem readDollar?_named (hc : IsNameChar c) (hname : ∀ d ∈ name, IsNameChar d)
    (hrest : ∀ d, rest.head? = some d → ¬IsNameChar d) :
    readDollar? values template (behind before (c :: (name ++ rest))) =
      some (values (c :: name), behind (before ++ c :: name) rest) := by
  have hhead : ∀ d, (c :: (name ++ rest)).head? = some d → d ≠ '$' ∧ d ≠ '\x7b' := by
    rintro d ⟨⟩
    constructor
    all_goals
      rintro rfl
      exact absurd hc (by decide)
  have hread := readName_behind before [] (List.forall_mem_cons.mpr ⟨hc, hname⟩) hrest
  rw [readDollar?_name hhead, ← List.cons_append, hread]
  simp

theorem readDollar?_lone
    (hrest : ∀ c, rest.head? = some c → c ≠ '$' ∧ c ≠ '\x7b' ∧ ¬IsNameChar c) :
    readDollar? values template (behind before rest) = some (['$'], behind before rest) := by
  have hread := readName_behind before [] (List.forall_mem_nil _) fun c hc => (hrest c hc).2.2
  rw [readDollar?_name fun c hc => ⟨(hrest c hc).1, (hrest c hc).2.1⟩]
  rw [List.nil_append] at hread
  simp [hread]

theorem scan?_nil : scan? values template out [] = some out := by
  rw [scan?]

theorem scan?_of_ne (hc : c ≠ '$') :
    scan? values template out ((offset, c) :: cursor) =
      scan? values template (out ++ [c]) cursor := by
  rw [scan?, if_neg hc]

theorem scan?_dollar (h : readDollar? values template cursor = some (written, later)) :
    scan? values template out ((offset, '$') :: cursor) =
      scan? values template (out ++ written) later := by
  rw [scan?, if_pos rfl]
  split
  · rename_i hnone
    rw [h] at hnone
    cases hnone
  · rename_i hsome
    rw [h] at hsome
    cases hsome
    rfl

/-- One turn of the loop. It writes what the next segment stands for and goes past that segment. -/
theorem scan?_of_begins (values : Text → Text) (before out : Text) {after : Text}
    (h : Segment.Begins after s rest) :
    ∃ taken, after = taken ++ rest ∧
      scan? values (before ++ after) out (behind before after) =
        scan? values (before ++ after) (out ++ s.value values) (behind (before ++ taken) rest) := by
  cases h with
  | literal hc =>
      rename_i c
      refine ⟨[c], rfl, ?_⟩
      rw [Cursor.behind_cons, scan?_of_ne hc]
      rfl
  | doubled =>
      refine ⟨['$', '$'], rfl, ?_⟩
      rw [Cursor.behind_cons, scan?_dollar readDollar?_doubled]
      simp [Segment.value]
  | braced hname =>
      rename_i name
      refine ⟨'$' :: '\x7b' :: (name ++ ['\x7d']), by simp, ?_⟩
      have hread := readDollar?_braced values (before ++ ['$']) rest hname
      rw [List.append_assoc, List.singleton_append] at hread
      rw [Cursor.behind_cons, scan?_dollar hread]
      simp [Segment.value]
  | unclosed hrest =>
      rename_i rest
      refine ⟨['$'], rfl, ?_⟩
      have hread := readDollar?_unclosed values (before ++ ['$']) hrest
      rw [List.append_assoc, List.singleton_append] at hread
      rw [Cursor.behind_cons, scan?_dollar hread]
      rfl
  | named hc hname hrest =>
      rename_i c name
      refine ⟨'$' :: c :: name, by simp, ?_⟩
      rw [Cursor.behind_cons, scan?_dollar (readDollar?_named hc hname hrest)]
      simp [Segment.value]
  | lone hrest =>
      refine ⟨['$'], rfl, ?_⟩
      rw [Cursor.behind_cons, scan?_dollar (readDollar?_lone hrest)]
      rfl

/-- The loop writes what the segments that are still to come stand for. -/
theorem scan?_behind (before after out : Text) :
    scan? values (before ++ after) out (behind before after) =
      some (out ++ (Segment.ofTemplate after).flatMap (Segment.value values)) := by
  -- One turn may go past any number of characters, so the induction is on how many are to come.
  induction hlength : after.length using Nat.strongRecOn generalizing before after out with
  | ind n ih =>
      by_cases hne : after = []
      · subst hne
        rw [Cursor.behind_nil, scan?_nil]
        simp
      · obtain ⟨s, rest, hbegins⟩ := Segment.exists_begins hne
        obtain ⟨taken, htaken, hturn⟩ := scan?_of_begins values before out hbegins
        have hrun := ih rest.length (hlength ▸ hbegins.length_lt) (before ++ taken) rest
          (out ++ s.value values) rfl
        rw [List.append_assoc, ← htaken] at hrun
        rw [hturn, hrun, Segment.ofTemplate_of_begins hbegins, List.flatMap_cons, List.append_assoc]

theorem render?_eq (values : Text → Text) (template : Text) :
    render? values template =
      some ((Segment.ofTemplate template).flatMap (Segment.value values)) :=
  scan?_behind [] template []

theorem render_eq (values : Text → Text) (template : Text) :
    render values template = (Segment.ofTemplate template).flatMap (Segment.value values) := by
  rw [render, render?_eq, Option.getD_some]

theorem render?_eq_some_render (values : Text → Text) (template : Text) :
    render? values template = some (render values template) := by
  rw [render?_eq, render_eq]

end Template

end Gatekeeper
