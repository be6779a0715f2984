namespace Gatekeeper

/-- How many checks and requests were sent, modulo 2 ^ 64. -/
structure Counters where
  checks : UInt64
  forwarded : UInt64
deriving DecidableEq, Repr

namespace Counters

def zero : Counters :=
  ⟨0, 0⟩

/-- One more check is handed over to be sent. -/
def addCheck (c : Counters) : Counters :=
  { c with checks := c.checks + 1 }

/-- One more request is handed over to be sent on. -/
def addForward (c : Counters) : Counters :=
  { c with forwarded := c.forwarded + 1 }

end Counters

/-- A computation that counts what it sends. -/
abbrev Counted := StateM Counters

namespace Counted

variable {α β : Type}

/-- What a computation comes to, if nothing has been counted before. -/
def result (x : Counted α) : α :=
  (x.run .zero).1

@[simp 1100] theorem run_pure (a : α) (c : Counters) : StateT.run (pure a : Counted α) c = (a, c) :=
  rfl

@[simp 1100] theorem run_map (f : α → β) (x : Counted α) (c : Counters) :
    StateT.run (f <$> x : Counted β) c = (f (x.run c).1, (x.run c).2) :=
  rfl

@[simp 1100] theorem run_bind (x : Counted α) (f : α → Counted β) (c : Counters) :
    StateT.run (x >>= f) c = (f (x.run c).1).run (x.run c).2 :=
  rfl

@[simp 1100] theorem run_modify (f : Counters → Counters) (c : Counters) :
    StateT.run (modify f : Counted PUnit) c = (⟨⟩, f c) :=
  rfl

end Counted

end Gatekeeper
