import Gatekeeper.Proofs.Template.Scanner
import Gatekeeper.Template.RequestValues

namespace Gatekeeper

namespace Template

/-- What becomes of each beginning of a template: a dollar sign is written by two, a name stands
for its value, and everything else for itself. -/
structure Substitutes (values : Text → Text) (f : Text → Text) : Prop where
  nil : f [] = []
  literal : ∀ c t, c ≠ '$' → f (c :: t) = c :: f t
  doubled : ∀ t, f ('$' :: '$' :: t) = '$' :: f t
  braced : ∀ name t, '\x7d' ∉ name →
    f ('$' :: '\x7b' :: (name ++ '\x7d' :: t)) = values name ++ f t
  unclosed : ∀ t, '\x7d' ∉ t → f ('$' :: '\x7b' :: t) = '$' :: '\x7b' :: f t
  named : ∀ name t, name ≠ [] → (∀ c ∈ name, IsNameChar c) →
    (∀ c, t.head? = some c → ¬IsNameChar c) →
    f ('$' :: (name ++ t)) = values name ++ f t
  lone : ∀ t, (∀ c, t.head? = some c → c ≠ '$' ∧ c ≠ '\x7b' ∧ ¬IsNameChar c) →
    f ('$' :: t) = '$' :: f t

variable {values f : Text → Text} {t rest : Text} {s : Segment}

theorem Substitutes.of_begins (h : Substitutes values f) (hbegins : Segment.Begins t s rest) :
    f t = s.value values ++ f rest := by
  cases hbegins with
  | literal hc => exact h.literal _ _ hc
  | doubled => exact h.doubled _
  | braced hname => exact h.braced _ _ hname
  | unclosed hrest =>
      rw [h.unclosed _ hrest, h.literal _ _ (by decide)]
      rfl
  | named hc hname hrest =>
      exact h.named _ _ (List.cons_ne_nil _ _) (List.forall_mem_cons.mpr ⟨hc, hname⟩) hrest
  | lone hrest => exact h.lone _ hrest

theorem Substitutes.eq {g : Text → Text} (hf : Substitutes values f) (hg : Substitutes values g) :
    f = g := by
  funext t
  -- A segment may be of any length, so the induction is on the length of the template.
  induction hlength : t.length using Nat.strongRecOn generalizing t with
  | ind n ih =>
      by_cases hne : t = []
      · rw [hne, hf.nil, hg.nil]
      · obtain ⟨s, rest, hbegins⟩ := Segment.exists_begins hne
        have hrest : f rest = g rest := ih rest.length (hlength ▸ hbegins.length_lt) rest rfl
        rw [hf.of_begins hbegins, hg.of_begins hbegins, hrest]

@[simp] theorem render_nil (values : Text → Text) : render values [] = [] := by
  simp [render_eq]

theorem render_of_begins (h : Segment.Begins t s rest) :
    render values t = s.value values ++ render values rest := by
  simp only [render_eq, Segment.ofTemplate_of_begins h, List.flatMap_cons]

@[simp] theorem render_cons_of_ne {c : Char} (hc : c ≠ '$') (t : Text) :
    render values (c :: t) = c :: render values t :=
  render_of_begins (.literal hc)

@[simp] theorem render_doubled (t : Text) :
    render values ('$' :: '$' :: t) = '$' :: render values t :=
  render_of_begins .doubled

theorem render_braced {name : Text} (hname : '\x7d' ∉ name) (t : Text) :
    render values ('$' :: '\x7b' :: (name ++ '\x7d' :: t)) = values name ++ render values t :=
  render_of_begins (.braced hname)

theorem substitutes_render (values : Text → Text) : Substitutes values (render values) where
  nil := render_nil values
  literal c t hc := render_cons_of_ne hc t
  doubled := render_doubled
  braced name t hname := render_braced hname t
  unclosed t ht := by
    rw [render_of_begins (.unclosed ht), render_cons_of_ne (by decide)]
    rfl
  named name t hne hname ht := by
    obtain ⟨c, rest, rfl⟩ := List.exists_cons_of_ne_nil hne
    obtain ⟨hc, hrest⟩ := List.forall_mem_cons.mp hname
    exact render_of_begins (.named hc hrest ht)
  lone t ht := render_of_begins (.lone ht)

end Template

/-- Rendering a template with the values of a request reaches the end of every template. It obeys
the equations of a substitution, and no other function does. How a template is divided is the same
for all requests, so nothing in a value is taken for a reference. -/
theorem rendering_is_the_substitution (v : RequestValues) :
    (∀ template, Template.render? v.value template = some (v.render template)) ∧
      (∀ f : Text → Text, Template.Substitutes v.value f ↔ f = v.render) ∧
      ∀ template, ∃ segments : List Segment, ∀ other : RequestValues,
        other.render template = segments.flatMap (Segment.value other.value) := by
  have hrender : Template.Substitutes v.value v.render := Template.substitutes_render v.value
  refine ⟨?_, ?_, ?_⟩
  · intro template
    exact Template.render?_eq_some_render v.value template
  · intro f
    constructor
    · exact fun hf => hf.eq hrender
    · rintro rfl
      exact hrender
  · intro template
    exact ⟨Segment.ofTemplate template, fun other => Template.render_eq other.value template⟩

/-- Names may hold characters of any kind, and what a value is made of does not count. -/
example : Template.render (fun name => '$' :: name) "né$a$$$\x7bü$\x7d$ß$\x7b".toList =
    "né$a$$ü$$ß$\x7b".toList := by
  decide +kernel

end Gatekeeper
