import Gatekeeper.Config.Rules
import Gatekeeper.Proofs.Template.Scanner
import Gatekeeper.Proxy.Dispatch

namespace Gatekeeper

namespace Template

theorem isDynamic_iff {template : Text} : isDynamic template = true ↔ '$' ∈ template := by
  rw [isDynamic, List.contains_iff_mem]

theorem isDynamic_eq_false_iff {template : Text} :
    isDynamic template = false ↔ '$' ∉ template := by
  rw [← Bool.not_eq_true, isDynamic_iff]

theorem render_of_isDynamic_eq_false {template : Text} (h : isDynamic template = false)
    (values : Text → Text) : render values template = template := by
  rw [render_eq, Segment.ofTemplate_of_not_mem (isDynamic_eq_false_iff.mp h),
    Segment.flatMap_value_literal]

end Template

/-- The setting is absent, or its template does not refer to the request. -/
def Templates.IsConstant (t : Templates) (s : Setting) : Prop :=
  ∀ template, t.of? s = some template → Template.isDynamic template = false

instance (t : Templates) (s : Setting) : Decidable (t.IsConstant s) :=
  decidable_of_iff ((t.of? s).all (!Template.isDynamic ·) = true) (by
    simp [Templates.IsConstant, Option.all_eq_true])

theorem Route.scope_of_isConstant {route : Route} {s : Setting}
    (h : route.templates.IsConstant s) (values : RequestValues) :
    route.scope values s = route.templates.of? s := by
  rw [Route.scope]
  cases htemplate : route.templates.of? s with
  | none => rfl
  | some template =>
      exact congrArg some (Template.render_of_isDynamic_eq_false (h template htemplate) _)

end Gatekeeper
