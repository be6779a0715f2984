namespace Gatekeeper.Except

variable {ε α β : Type} {x : Except ε α}

theorem bind_eq_ok_iff {f : α → Except ε β} {b : β} :
    x >>= f = .ok b ↔ ∃ a, x = .ok a ∧ f a = .ok b := by
  cases x with
  | error cause => simp [bind, Except.bind]
  | ok a => simp [bind, Except.bind]

theorem map_eq_map_iff {f : α → β} {x y : Except ε α} :
    x.map f = y.map f ↔ (∃ cause, x = .error cause ∧ y = .error cause) ∨
      ∃ a b, x = .ok a ∧ y = .ok b ∧ f a = f b := by
  cases x with
  | error cause =>
      cases y with
      | error cause' => simp [Except.map, eq_comm]
      | ok b => simp [Except.map]
  | ok a =>
      cases y with
      | error cause' => simp [Except.map]
      | ok b => simp [Except.map]

/-- A property of what a computation gives can be tested by running it. -/
instance decidableExistsOk {P : α → Prop} [DecidablePred P] :
    Decidable (∃ a, x = .ok a ∧ P a) :=
  match x with
  | .ok a => decidable_of_iff (P a) (by simp)
  | .error _ => isFalse (by simp)

end Gatekeeper.Except
