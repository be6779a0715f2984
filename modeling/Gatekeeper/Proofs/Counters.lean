import Gatekeeper.Counters
import Gatekeeper.Http.Message

namespace Gatekeeper

namespace Counters

variable {c : Counters} {checks forwards checks' forwards' : List Request}

/-- The counters when these checks and requests have been handed over as well. -/
def after (c : Counters) (checks forwards : List Request) : Counters where
  checks := c.checks + UInt64.ofNat checks.length
  forwarded := c.forwarded + UInt64.ofNat forwards.length

@[simp] theorem after_nil (c : Counters) : c.after [] [] = c := by
  simp [after]

@[simp] theorem after_check (c : Counters) (r : Request) : c.after [r] [] = c.addCheck := by
  simp [after, addCheck]

@[simp] theorem after_forward (c : Counters) (r : Request) : c.after [] [r] = c.addForward := by
  simp [after, addForward]

theorem after_append (c : Counters) (checks forwards checks' forwards' : List Request) :
    c.after (checks ++ checks') (forwards ++ forwards') =
      (c.after checks forwards).after checks' forwards' := by
  simp [after, UInt64.add_assoc]

theorem after_of_perm (hchecks : checks.Perm checks') (hforwards : forwards.Perm forwards') :
    c.after checks forwards = c.after checks' forwards' := by
  simp [after, hchecks.length_eq, hforwards.length_eq]

end Counters

end Gatekeeper
