import Gatekeeper.Proofs.Template.Constant
import Gatekeeper.Proofs.Text.Blank

namespace Gatekeeper

theorem Text.isEmpty_trim (t : Text) : (trim t).isEmpty = isBlank t := by
  rw [Bool.eq_iff_iff, List.isEmpty_iff, trim_eq_nil_iff]

namespace Templates

variable {t : Templates} {s : Setting}

/-- The template of a setting, unless nothing is left of it after trimming. -/
def stated? (t : Templates) (s : Setting) : Option Text :=
  (t.of? s).filter fun template => !(Text.trim template).isEmpty

/-- The template of a setting is blank without being empty. -/
def HasBlank (t : Templates) (s : Setting) : Prop :=
  ∃ template, t.of? s = some template ∧ Text.trim template = [] ∧ template ≠ []

instance decidableHasBlank (t : Templates) (s : Setting) : Decidable (t.HasBlank s) :=
  decidable_of_iff
    ((t.of? s).any (fun template => (Text.trim template).isEmpty && !template.isEmpty) = true) (by
      simp [HasBlank, Option.any_eq_true])

theorem stated?_eq_some_iff {template : Text} :
    t.stated? s = some template ↔ t.of? s = some template ∧ Text.trim template ≠ [] := by
  rw [stated?, Option.filter_eq_some_iff, Bool.not_eq_true', ← Bool.not_eq_true, List.isEmpty_iff]

theorem stated?_eq_none_iff :
    t.stated? s = none ↔ ∀ template, t.of? s = some template → Text.trim template = [] := by
  simp only [stated?, Option.filter_eq_none_iff, Bool.not_eq_true', Bool.not_eq_false,
    List.isEmpty_iff]

theorem ne_nil_of_stated? {template : Text} (h : t.stated? s = some template) :
    template ≠ [] := by
  rintro rfl
  exact (stated?_eq_some_iff.mp h).2 rfl

theorem declares_of_isConstant (h : t.IsConstant s) : t.declares s = (t.stated? s).isSome := by
  rw [declares, stated?]
  cases htemplate : t.of? s with
  | none => rfl
  | some template =>
      cases hblank : Text.isBlank template <;>
        simp [h template htemplate, Text.isEmpty_trim, hblank, Option.filter]

theorem fixes_of_isConstant (h : t.IsConstant s) : t.fixes s = (t.stated? s).isSome := by
  rw [fixes, stated?]
  cases htemplate : t.of? s with
  | none => rfl
  | some template =>
      cases hblank : Text.isBlank template <;>
        simp [h template htemplate, Text.isEmpty_trim, hblank, Option.filter]

end Templates

end Gatekeeper
