import Gatekeeper.Proofs.Proxy.FailClosed
import Gatekeeper.Proofs.Proxy.World

/-!
# What is counted among requests

Requests that are under way side by side share the counters. Each message counts in the step that
hands it over, so after any steps of any requests the counters tell how many messages there were.
-/

namespace Gatekeeper

namespace World

/-- All checks that were handed over. -/
def checks (w : World) : List Request :=
  w.flights.flatMap Flight.checks

/-- All requests that were handed over to be sent on. -/
def forwards (w : World) : List Request :=
  w.flights.flatMap Flight.forwards

/-- The counters have gone up by the numbers of messages that were handed over. -/
def HasCounted (w : World) (before : Counters) : Prop :=
  w.counters = before.after w.checks w.forwards

variable {limits : Limits} {w : World} {before : Counters} {i : Nat} {f f' : Flight}

theorem flatMap_set_perm {flights : List Flight} {field : Flight → List Request}
    {sent : List Request} (h : flights[i]? = some f) (hfield : field f' = field f ++ sent) :
    ((flights.set i f').flatMap field).Perm (flights.flatMap field ++ sent) := by
  obtain ⟨hi, rfl⟩ := List.getElem?_eq_some_iff.mp h
  obtain ⟨front, back, hflights, -, (hset : flights.set i f' = front ++ f' :: back)⟩ :=
    List.exists_of_set hi
  have hflat : flights.flatMap field =
      front.flatMap field ++ (field flights[i] ++ back.flatMap field) := by
    conv_lhs => rw [hflights]
    simp
  rw [hset, hflat]
  simp [hfield, List.perm_append_left_iff, List.perm_append_comm]

theorem HasCounted.step (h : w.HasCounted before) (event : Event) :
    (w.step limits event).HasCounted before := by
  cases event with
  | arrive r freshId client =>
      simpa [HasCounted, checks, forwards, World.step, Flight.start] using h
  | advance i peers =>
      cases hflight : w.flights[i]? with
      | none =>
          rw [step_advance_of_none hflight]
          exact h
      | some f =>
          obtain ⟨sentChecks, sentForwards, hchecks, hforwards, hstep⟩ :=
            exists_step_advance limits peers hflight
          rw [HasCounted, hstep, h, ← Counters.after_append]
          apply Counters.after_of_perm
          · exact (flatMap_set_perm hflight hchecks).symm
          · exact (flatMap_set_perm hflight hforwards).symm
  | reload c hvalid => exact h
  | load content => exact h

theorem HasCounted.run (limits : Limits) (h : w.HasCounted before) (events : List Event) :
    (w.run limits events).HasCounted before := by
  induction events generalizing w with
  | nil => exact h
  | cons event rest ih => exact ih (h.step event)

theorem exists_run_alone (limits : Limits) (t : Table) (counters : Counters) (f : Flight)
    (p : Peers) (n : Nat) :
    ∃ counters', (⟨t, counters, [f]⟩ : World).run limits (List.replicate n (.advance 0 p)) =
      ⟨t, counters', [f.run limits (List.replicate n ⟨t, p⟩)]⟩ := by
  induction n generalizing counters f with
  | zero => exact ⟨counters, rfl⟩
  | succ n ih =>
      obtain ⟨checks, forwards, -, -, hstep⟩ := exists_step_advance limits p
        (show (⟨t, counters, [f]⟩ : World).flights[0]? = some f from rfl)
      rw [List.replicate_succ, run_cons, hstep]
      exact ih _ _

end World

theorem Flight.toList_handled (limits : Limits) (first : Moment) (rest : List Moment)
    (r : Request) (freshId : Text) (client : IpAddress) :
    let f := (Flight.start r freshId client).run limits (first :: rest)
    f.handled.check.toList = f.checks ∧ f.handled.forwarded.toList = f.forwards := by
  intro f
  by_cases hunasked : first.table.Unasked r client
  · obtain ⟨response, hf⟩ : ∃ response, f = ⟨.answered response, [], []⟩ :=
      Flight.run_start_of_unasked hunasked rest
    rw [hf]
    exact ⟨rfl, rfl⟩
  · obtain ⟨e, he⟩ : ∃ e, first.table.errand r freshId client = .ok e :=
      Table.exists_errand_iff.mpr hunasked
    have hfollows : e.Follows limits.check rest f := Flight.follows_run_start he rest
    rw [handled, hfollows.checks_eq]
    refine ⟨rfl, ?_⟩
    have hlength := hfollows.length_forwards_le
    cases hforwards : f.forwards with
    | nil => rfl
    | cons sent others =>
        simp [hforwards] at hlength
        simp [hlength]

/-- Handling a request at one go counts what its steps count. -/
theorem World.counters_run_alone (limits : Limits) (t : Table) (p : Peers) (r : Request)
    (freshId : Text) (client : IpAddress) (counters : Counters) (n : Nat) :
    ((⟨t, counters, []⟩ : World).run limits
      (.arrive r freshId client :: List.replicate (n + 4) (.advance 0 p))).counters =
      ((t.serve limits (p.within limits) freshId client r).run counters).2 := by
  obtain ⟨counters', hrun⟩ := exists_run_alone limits t counters
    (.start r freshId client) p (n + 4)
  have hstart : (⟨t, counters, []⟩ : World).HasCounted counters := counters.after_nil.symm
  have hcounted := hstart.run limits
    (.arrive r freshId client :: List.replicate (n + 4) (.advance 0 p))
  obtain ⟨hchecks, hforwards⟩ := Flight.toList_handled limits ⟨t, p⟩
    (List.replicate (n + 3) ⟨t, p⟩) r freshId client
  rw [← List.replicate_succ, Flight.handled_run_start] at hchecks hforwards
  have harrive : (⟨t, counters, []⟩ : World).run limits
      (.arrive r freshId client :: List.replicate (n + 4) (.advance 0 p)) =
      ⟨t, counters', [(Flight.start r freshId client).run limits
        (List.replicate (n + 4) ⟨t, p⟩)]⟩ := hrun
  rw [harrive] at hcounted ⊢
  rw [Table.run_serve_eq, hchecks, hforwards, hcounted]
  simp [checks, forwards]

end Gatekeeper
