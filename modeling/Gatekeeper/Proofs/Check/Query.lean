import Gatekeeper.Proofs.Form
import Gatekeeper.Proofs.Proxy.Check

namespace Gatekeeper

namespace Settings

/-- There are names or a group. -/
def HasTarget (s : Settings) : Prop :=
  s.names.getD [] ≠ [] ∨ s.group.getD [] ≠ []

instance (s : Settings) : Decidable s.HasTarget :=
  inferInstanceAs (Decidable (_ ∨ _))

/-- Names are stated one by one, without the white space around them, and hide a group. -/
def targetPairs (s : Settings) : List (Text × Text) :=
  if s.names.getD [] = [] then [("group".toList, s.group.getD [])]
  else (Text.pieces ',' (s.names.getD [])).map fun name => ("names".toList, Text.trim name)

/-- How the waiting page looks, or else how long the reply may be held back. -/
def replyPairs (s : Settings) : List (Text × Text) :=
  if s.blockingTimeout.getD [] = [] then
    [("display_name".toList, s.displayName), ("theme".toList, s.theme),
      ("refresh_frequency".toList, s.refreshFrequency), ("show_details".toList, s.showDetails)]
  else [("timeout".toList, s.blockingTimeout.getD [])]

/-- All that a check states, in order. -/
def checkPairs (s : Settings) : List (Text × Text) :=
  s.targetPairs ++ ("session_duration".toList, s.sessionDuration) :: s.replyPairs

end Settings

variable {s : Settings}

theorem Selector.exists_ofSettings (h : s.HasTarget) :
    ∃ selector, ofSettings s = .ok selector ∧ selector.parameters = s.targetPairs := by
  rw [Settings.targetPairs]
  by_cases hnames : s.names.getD [] = []
  · have hgroup := h.resolve_left fun hne => hne hnames
    cases hsome : s.group with
    | none => exact absurd (by rw [hsome]; rfl) hgroup
    | some group =>
        rw [hsome, Option.getD_some] at hgroup
        have hempty : ∀ names, s.names = some names → names = [] := by
          intro names hsomeNames
          rw [hsomeNames] at hnames
          exact hnames
        exact ⟨.group group, ofSettings_of_group hempty hsome hgroup, by rw [if_pos hnames]; rfl⟩
  · cases hsome : s.names with
    | none => exact absurd (by rw [hsome]; rfl) hnames
    | some names =>
        rw [hsome, Option.getD_some] at hnames
        refine ⟨.names _, ofSettings_of_names hsome hnames, ?_⟩
        rw [Option.getD_some, if_neg hnames, parameters, List.map_map]
        rfl

theorem Check.exists_ofSettings (h : s.HasTarget) : ∃ c, ofSettings s = .ok c := by
  obtain ⟨selector, hselector, -⟩ := Selector.exists_ofSettings h
  exact ⟨_, ofSettings_eq_ok_iff.mpr ⟨selector, hselector, rfl⟩⟩

theorem Check.parameters_select (selector : Selector) (s : Settings) :
    parameters (.select s.blockingTimeout) selector s =
      selector.parameters ++ ("session_duration".toList, s.sessionDuration) :: s.replyPairs := by
  rcases htimeout : s.blockingTimeout with _ | _ | ⟨first, rest⟩ <;>
    simp [parameters, Strategy.select, Settings.replyPairs, htimeout]

/-- Settings with a target make up a check. Its query is made of few characters and is read as what
the settings state: nothing is lost, and nothing in a value can add to it. -/
theorem check_query_reads_back (h : s.HasTarget) :
    ∃ c, Check.ofSettings s = .ok c ∧ Form.decode c.query = s.checkPairs ∧
      ∀ char ∈ c.query, Form.isFormChar char = true := by
  obtain ⟨selector, hselector, hparameters⟩ := Selector.exists_ofSettings h
  refine ⟨_, Check.ofSettings_eq_ok_iff.mpr ⟨selector, hselector, rfl⟩, ?_, ?_⟩
  · rw [Form.decode_encode, Check.parameters_select, hparameters]
    rfl
  · exact Form.isFormChar_of_mem_encode

/-- Separators of all kinds stand in the values of these settings. -/
def Settings.ofNames (names : Text) : Settings where
  controlUrl := "http://control".toList
  names := some names
  group := some "web".toList
  sessionDuration := "5m&timeout=1s".toList
  redirect := "@app".toList
  displayName := []
  theme := []
  refreshFrequency := []
  showDetails := []
  blockingTimeout := some "+%2B#".toList

theorem separators_in_names_read_back :
    ∃ c, Check.ofSettings (.ofNames " b ,ä&group=c,, b".toList) = .ok c ∧
      Form.decode c.query =
        [("names".toList, "b".toList), ("names".toList, "ä&group=c".toList),
          ("names".toList, []), ("names".toList, "b".toList),
          ("session_duration".toList, "5m&timeout=1s".toList),
          ("timeout".toList, "+%2B#".toList)] := by
  obtain ⟨c, hc, hquery, -⟩ :=
    check_query_reads_back (s := .ofNames " b ,ä&group=c,, b".toList) (by decide)
  refine ⟨c, hc, hquery.trans ?_⟩
  decide +kernel

end Gatekeeper
