import Mathlib.Data.Finset.Card
import Gatekeeper.Proofs.Config.RuleSet

/-!
# What the rules report

The report has one fault for each backend, clashing host and route that has one, in the order of
their names. Hosts clash when they differ only in case; of several such hosts each one but the first
is told with the one before it.
-/

namespace Gatekeeper

/-- One fault of each key of which there is any, in the order of the keys. -/
inductive OneForEach (tells : Text → ConfigFault → Prop) : List Text → List ConfigFault → Prop where
  | nil : OneForEach tells [] []
  | told {key : Text} {fault : ConfigFault} {keys : List Text} {faults : List ConfigFault}
      (hfault : tells key fault) (hrest : OneForEach tells keys faults) :
      OneForEach tells (key :: keys) (fault :: faults)
  | passed {key : Text} {keys : List Text} {faults : List ConfigFault}
      (hnone : ∀ fault, ¬tells key fault) (hrest : OneForEach tells keys faults) :
      OneForEach tells (key :: keys) faults

theorem oneForEach_filterMap {α : Type} {tells : Text → ConfigFault → Prop}
    {fault? : Text × α → Option ConfigFault} {entries : List (Text × α)}
    (hsome : ∀ e ∈ entries, ∀ fault, fault? e = some fault → tells e.1 fault)
    (hnone : ∀ e ∈ entries, fault? e = none → ∀ fault, ¬tells e.1 fault) :
    OneForEach tells (entries.map Prod.fst) (entries.filterMap fault?) := by
  induction entries with
  | nil => exact .nil
  | cons e rest ih =>
      have hrest := ih (fun e he => hsome e (List.mem_cons_of_mem _ he))
        (fun e he => hnone e (List.mem_cons_of_mem _ he))
      rw [List.map_cons]
      cases hfault : fault? e with
      | none =>
          rw [List.filterMap_cons_none hfault]
          exact .passed (hnone e List.mem_cons_self hfault) hrest
      | some fault =>
          rw [List.filterMap_cons_some hfault]
          exact .told (hsome e List.mem_cons_self fault hfault) hrest

namespace Config

variable {c : Config} {keys visited hosts : List Text} {host : Text} {fault : ConfigFault}

/-- The backend has an address that cannot be one. -/
inductive TellsBackend (c : Config) (name : Text) : ConfigFault → Prop where
  | bad {address : Text} (haddress : c.backends.get? name = some address)
      (hparse : ∀ authority, Authority.parse address ≠ .ok authority) :
      TellsBackend c name (.badBackend name address)

/-- An earlier host has the same lower-case form; the last such one is named. -/
inductive TellsClash (keys : List Text) (host : Text) : ConfigFault → Prop where
  | differsInCase {earlier : Text} (hearlier : earlier ∈ keys) (hbefore : earlier < host)
      (hlower : Text.lower earlier = Text.lower host)
      (hlast : ∀ other ∈ keys, other < host → Text.lower other = Text.lower host →
        ¬earlier < other) :
      TellsClash keys host (.hostClash earlier host)

/-- The merged templates of the route have a fault. -/
inductive TellsRoute (c : Config) (host : Text) : ConfigFault → Prop where
  | breaks {own merged : Templates} {cause : RouteFault}
      (hown : c.routes.get? host = some own) (hmerged : merged.Merges own c.defaults)
      (hcause : merged.Breaks c.backends cause) :
      TellsRoute c host (.route host cause)

theorem oneForEach_backendFaults (c : Config) :
    OneForEach c.TellsBackend c.backends.keys c.backendFaults := by
  refine oneForEach_filterMap ?_ ?_
  · rintro ⟨name, address⟩ hmem fault hfault
    dsimp only at hfault
    split at hfault
    · cases hfault
    · rename_i hparse
      cases hfault
      refine .bad (Dict.get?_eq_some_iff.mpr hmem) fun authority hauthority => ?_
      cases hparse.symm.trans hauthority
  · rintro ⟨name, address⟩ hmem hpassed _ ⟨haddress, hparse⟩
    cases haddress.symm.trans (Dict.get?_eq_some_iff.mpr hmem)
    dsimp only at hpassed
    split at hpassed
    · rename_i hauthority
      exact hparse _ hauthority
    · cases hpassed

theorem oneForEach_routeFaults (c : Config) :
    OneForEach c.TellsRoute c.routes.keys c.routeFaults := by
  rw [← c.keys_templates]
  refine oneForEach_filterMap ?_ ?_
  · rintro ⟨host, merged⟩ hmem fault hfault
    obtain ⟨own, hown, hmerged⟩ := mem_entries_templates_iff.mp hmem
    obtain ⟨cause, hcause, rfl⟩ := Option.map_eq_some_iff.mp hfault
    exact .breaks hown hmerged (Templates.breaks_of_fault? hcause)
  · rintro ⟨host, merged⟩ hmem hpassed _ ⟨hother, hmerges, hbreaks⟩
    obtain ⟨own, hown, hmerged⟩ := mem_entries_templates_iff.mp hmem
    cases hown.symm.trans hother
    cases hmerged.eq hmerges
    exact (Templates.obeys_iff.mpr (Option.map_eq_none_iff.mp hpassed)).not_breaks hbreaks

/-! ## Hosts that differ only in case -/

/-- What the scan keeps of the hosts that it has been at, the last one first. -/
def folded (visited : List Text) : List (Text × Text) :=
  visited.map fun host => (Text.lower host, host)

theorem clashes_folded_cons (visited : List Text) (host : Text) (rest : List Text) :
    clashes (folded visited) (host :: rest) =
      ((visited.find? (Text.lower · = Text.lower host)).map (.hostClash · host)).toList ++
        clashes (folded (host :: visited)) rest := by
  rw [clashes, folded, List.find?_map]
  simp only [Function.comp_def]
  cases visited.find? (Text.lower · = Text.lower host) with
  | none => rfl
  | some earlier => rfl

theorem find?_eq_some_iff_greatest {p : Text → Bool} {t : Text}
    (hdescending : visited.Pairwise fun a b => b < a) :
    visited.find? p = some t ↔
      t ∈ visited ∧ p t = true ∧ ∀ other ∈ visited, p other = true → ¬t < other := by
  induction visited with
  | nil => simp
  | cons head rest ih =>
      obtain ⟨hhead, hrest⟩ := List.pairwise_cons.mp hdescending
      cases hp : p head with
      | false =>
          rw [List.find?_cons_of_neg (by simp [hp]), ih hrest]
          have hne : p t = true → t ≠ head := by
            rintro ht rfl
            cases hp.symm.trans ht
          constructor
          · rintro ⟨hmem, ht, hgreatest⟩
            refine ⟨List.mem_cons_of_mem _ hmem, ht, List.forall_mem_cons.mpr ⟨?_, hgreatest⟩⟩
            exact fun hother => by cases hp.symm.trans hother
          · rintro ⟨hmem, ht, hgreatest⟩
            exact ⟨List.mem_of_ne_of_mem (hne ht) hmem, ht, (List.forall_mem_cons.mp hgreatest).2⟩
      | true =>
          rw [List.find?_cons_of_pos hp, Option.some.injEq]
          constructor
          · rintro rfl
            refine ⟨List.mem_cons_self, hp, List.forall_mem_cons.mpr ⟨?_, ?_⟩⟩
            · exact fun _ => List.lt_irrefl head
            · exact fun other hother _ => List.lt_asymm (hhead other hother)
          · rintro ⟨hmem, -, hgreatest⟩
            rcases List.mem_cons.mp hmem with rfl | hlater
            · rfl
            · exact absurd (hhead t hlater) (hgreatest head List.mem_cons_self hp)

section

variable {rest : List Text} (hascending : (visited.reverse ++ host :: rest).Pairwise (· < ·))

include hascending

theorem mem_visited_iff {other : Text} :
    other ∈ visited ↔ other ∈ visited.reverse ++ host :: rest ∧ other < host := by
  obtain ⟨-, hrest, hbefore⟩ := List.pairwise_append.mp hascending
  constructor
  · intro hother
    have hreverse := List.mem_reverse.mpr hother
    exact ⟨List.mem_append_left _ hreverse, hbefore other hreverse host List.mem_cons_self⟩
  · rintro ⟨hother, hlt⟩
    rcases List.mem_append.mp hother with hreverse | hlater
    · exact List.mem_reverse.mp hreverse
    · rcases List.mem_cons.mp hlater with rfl | hafter
      · exact absurd hlt (List.lt_irrefl other)
      · exact absurd hlt (List.lt_asymm ((List.pairwise_cons.mp hrest).1 other hafter))

/-- The scan has been at the hosts that come before, so what it finds is the last of those. -/
theorem tellsClash_iff :
    TellsClash (visited.reverse ++ host :: rest) host fault ↔
      ∃ earlier, visited.find? (Text.lower · = Text.lower host) = some earlier ∧
        fault = .hostClash earlier host := by
  have hdescending := List.pairwise_reverse.mp (List.pairwise_append.mp hascending).1
  simp only [find?_eq_some_iff_greatest hdescending, mem_visited_iff hascending,
    decide_eq_true_eq, and_imp]
  constructor
  · rintro ⟨hearlier, hlt, hlower, hlast⟩
    exact ⟨_, ⟨⟨hearlier, hlt⟩, hlower, hlast⟩, rfl⟩
  · rintro ⟨earlier, ⟨⟨hearlier, hlt⟩, hlower, hlast⟩, rfl⟩
    exact .differsInCase hearlier hlt hlower hlast

end

theorem oneForEach_clashes (visited : List Text) (hkeys : keys = visited.reverse ++ hosts)
    (hascending : keys.Pairwise (· < ·)) :
    OneForEach (TellsClash keys) hosts (clashes (folded visited) hosts) := by
  -- The hosts that were visited and those that are left are all keys at each point of the scan.
  induction hosts generalizing visited with
  | nil => exact .nil
  | cons host rest ih =>
      have hrest := ih (host :: visited) (by rw [hkeys]; simp)
      rw [clashes_folded_cons]
      subst hkeys
      cases hfind : visited.find? (Text.lower · = Text.lower host) with
      | none =>
          refine .passed (fun fault hfault => ?_) hrest
          obtain ⟨earlier, hearlier, -⟩ := (tellsClash_iff hascending).mp hfault
          cases hfind.symm.trans hearlier
      | some earlier => exact .told ((tellsClash_iff hascending).mpr ⟨earlier, hfind, rfl⟩) hrest

/-- Each host is told or the first with its lower-case form. -/
theorem length_clashes_add (visited hosts : List Text) :
    (clashes (folded visited) hosts).length +
        ((hosts.map Text.lower).toFinset \ (visited.map Text.lower).toFinset).card =
      hosts.length := by
  induction hosts generalizing visited with
  | nil => simp [clashes]
  | cons host rest ih =>
      have hrest := ih (host :: visited)
      rw [clashes_folded_cons, List.length_append, List.length_cons]
      simp only [List.map_cons, List.toFinset_cons] at hrest ⊢
      -- A new lower-case form adds to the second number, a known one to the first.
      cases hfind : visited.find? (Text.lower · = Text.lower host) with
      | none =>
          have hnew : Text.lower host ∉ (visited.map Text.lower).toFinset := by
            simpa using List.find?_eq_none.mp hfind
          have hcard := Finset.card_erase_add_one (Finset.mem_insert_self (Text.lower host)
            ((rest.map Text.lower).toFinset \ (visited.map Text.lower).toFinset))
          rw [Finset.erase_insert_eq_erase, ← Finset.sdiff_insert] at hcard
          rw [Finset.insert_sdiff_of_notMem _ hnew]
          simp only [Option.map_none, Option.toList_none, List.length_nil]
          omega
      | some earlier =>
          have hknown : Text.lower host ∈ (visited.map Text.lower).toFinset := by
            rw [List.mem_toFinset, List.mem_map]
            have hlower := List.find?_some hfind
            exact ⟨earlier, List.mem_of_find?_eq_some hfind, of_decide_eq_true hlower⟩
          rw [Finset.insert_eq_self.mpr hknown] at hrest
          rw [Finset.insert_sdiff_of_mem _ hknown]
          simp only [Option.map_some, Option.toList_some, List.length_singleton]
          omega

end Config

/-- The faults of a configuration by what they are about. -/
structure Report where
  control : List ConfigFault
  backends : List ConfigFault
  clashes : List ConfigFault
  routes : List ConfigFault

/-- All parts of a report, one behind the other. -/
def Report.all (r : Report) : List ConfigFault :=
  r.control ++ r.backends ++ r.clashes ++ r.routes

/-- The reports differ at most in the order of the faults of backends. -/
structure Report.Agrees (r other : Report) : Prop where
  control : r.control = other.control
  backends : r.backends.Perm other.backends
  clashes : r.clashes = other.clashes
  routes : r.routes = other.routes

namespace Config

/-- The report has all faults of the configuration, and each of them once. -/
structure Reports (c : Config) (r : Report) : Prop where
  control_good : Uri.IsHttpUrl c.controlUrl → r.control = []
  control_bad : ¬Uri.IsHttpUrl c.controlUrl → r.control = [.badControlUrl c.controlUrl]
  backends : OneForEach c.TellsBackend c.backends.keys r.backends
  clashes : OneForEach (TellsClash c.routes.keys) c.routes.keys r.clashes
  length_clashes :
    r.clashes.length = c.routes.keys.length - (c.routes.keys.map Text.lower).toFinset.card
  routes : OneForEach c.TellsRoute c.routes.keys r.routes

/-- What the rules report of a configuration. -/
def report (c : Config) : Report where
  control := c.controlFaults
  backends := c.backendFaults
  clashes := Config.clashes [] c.routes.keys
  routes := c.routeFaults

theorem faults_eq_all (c : Config) : c.faults = c.report.all :=
  rfl

theorem reports_report (c : Config) : c.Reports c.report where
  control_good hcontrol := controlFaults_eq_nil_iff.mpr (Uri.isPlainHttpText_iff.mpr hcontrol)
  control_bad hcontrol := by
    rw [← Uri.isPlainHttpText_iff] at hcontrol
    exact if_neg hcontrol
  backends := c.oneForEach_backendFaults
  clashes := oneForEach_clashes [] rfl c.routes.ascending_keys
  length_clashes := by
    have hlength := length_clashes_add [] c.routes.keys
    rw [List.map_nil, List.toFinset_nil, Finset.sdiff_empty] at hlength
    exact Nat.eq_sub_of_add_eq hlength
  routes := c.oneForEach_routeFaults

end Config

end Gatekeeper
