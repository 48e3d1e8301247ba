import NetOpsBench.Scenario.Cleanup

/-!
# A successful cleanup is clean

When the cleanup succeeds, no fault is tracked, the last recovery round recovered all that it tried,
and the checks that the executor has passed after it.

`cleanup_sound` is this result, for every executor and every sequence of rounds. `Consistent` relates the
variables of the loop to the log, and `cleanupLoop_sound` carries it to the round that succeeds.
`unchecked_cleanup` is a cleanup that succeeds without checks, because the executor has none to make.
-/

namespace NetOpsBench.Scenario
open Faults

/-! ## The log -/

def CleanupEvent.recovery? : CleanupEvent → Option (Except String (List RecoveryResult))
  | .recovery outcome => some outcome
  | _ => none

/-- How the last recovery round ended. -/
def lastRecovery (log : List CleanupEvent) : Option (Except String (List RecoveryResult)) :=
  (log.filterMap (·.recovery?)).getLast?

theorem lastRecovery_append {log events : List CleanupEvent}
    (h : ∀ event ∈ events, event.recovery? = none) :
    lastRecovery (log ++ events) = lastRecovery log := by
  rw [lastRecovery, List.filterMap_append, List.filterMap_eq_nil_iff.mpr h, List.append_nil]
  rfl

/-- The last recovery is the one that was logged last. -/
theorem lastRecovery_concat (log : List CleanupEvent)
    (outcome : Except String (List RecoveryResult)) :
    lastRecovery (log ++ [.recovery outcome]) = some outcome := by
  rw [lastRecovery, List.filterMap_append]
  exact List.getLast?_concat

/-- A check that passes, if it is made. -/
def passed (made : Prop) [Decidable made] (event : CleanupEvent) : List CleanupEvent :=
  if made then [event] else []

theorem recovery?_of_mem_passed {made : Prop} [Decidable made] {event : CleanupEvent}
    (h : event.recovery? = none) : ∀ other ∈ passed made event, other.recovery? = none := by
  unfold passed
  split
  · exact List.forall_mem_singleton.mpr h
  · nofun

/-! ## One round -/

/-- What the variables of the loop say about the log. -/
structure Consistent (prior : Option (List RecoveryResult)) (state : CleanupState) : Prop where
  attempted : state.recoveryAttempted ↔ lastRecovery state.log ≠ none
  unrecovered : lastRecovery state.log = none → state.recoveryResults = prior
  recovered : ∀ results, lastRecovery state.log = some (.ok results) →
    state.recoveryResults = some results
  raised : ∀ error, lastRecovery state.log = some (.error error) → ¬ state.recoveryComplete

/-- Before the first round the variables say what was recorded. -/
theorem consistent_init (tracker : FaultTracker) (prior : Option (List RecoveryResult)) :
    Consistent prior { tracker, recoveryResults := prior } where
  attempted := iff_of_false Bool.false_ne_true fun h => h rfl
  unrecovered _ := rfl
  recovered _ h := by cases h
  raised _ h := by cases h

variable {executor : Executor} {round : CleanupRound} {state next : CleanupState}
  {prior : Option (List RecoveryResult)} {baselineWindow : Option Window}

/-- Events of checks and new errors change nothing that the log is read for. -/
theorem Consistent.of_log (h : Consistent prior state) {events : List CleanupEvent}
    (hevents : ∀ event ∈ events, event.recovery? = none) (hlog : next.log = state.log ++ events)
    (htracker : next.tracker = state.tracker)
    (hresults : next.recoveryResults = state.recoveryResults)
    (hattempted : next.recoveryAttempted = state.recoveryAttempted) : Consistent prior next := by
  have hlast : lastRecovery next.log = lastRecovery state.log := by
    rw [hlog, lastRecovery_append hevents]
  have hcomplete : next.recoveryComplete = state.recoveryComplete := by
    rw [CleanupState.recoveryComplete, htracker, hresults]
    rfl
  obtain ⟨h₁, h₂, h₃, h₄⟩ := h
  rw [← hlast] at h₁ h₂ h₃ h₄
  rw [← hattempted] at h₁
  rw [← hresults] at h₂ h₃
  rw [← hcomplete] at h₄
  exact ⟨h₁, h₂, h₃, h₄⟩

variable (executor round) in
theorem recover_consistent (h : Consistent prior state) :
    Consistent prior (state.recover executor round).1 ∧
      ((state.recover executor round).2 → (state.recover executor round).1.recoveryComplete) := by
  unfold CleanupState.recover
  by_cases hcomplete : state.recoveryComplete
  · rw [if_pos hcomplete]
    exact ⟨h, fun _ => hcomplete⟩
  · rw [if_neg hcomplete]
    dsimp only
    cases round.recovery with
    | error error =>
      have hlast := lastRecovery_concat state.log (.error error)
      refine ⟨⟨⟨fun _ => ?_, fun _ => rfl⟩, fun hnone => ?_, fun results hsome => ?_,
        fun _ _ => hcomplete⟩, nofun⟩
      · exact ne_of_eq_of_ne hlast nofun
      · cases hlast.symm.trans hnone
      · cases hlast.symm.trans hsome
    | ok attempts =>
      dsimp only
      set results := (recoverAll executor.known attempts state.tracker).2
      have hlast := lastRecovery_concat state.log (.ok results)
      split
      · rename_i hrecovered
        refine ⟨⟨⟨fun _ => ?_, fun _ => rfl⟩, fun hnone => ?_, fun other hsome => ?_,
          fun error hsome => ?_⟩, fun _ => hrecovered⟩
        · exact ne_of_eq_of_ne hlast nofun
        · cases hlast.symm.trans hnone
        · cases hlast.symm.trans hsome
          rfl
        · cases hlast.symm.trans hsome
      · refine ⟨⟨⟨fun _ => ?_, fun _ => rfl⟩, fun hnone => ?_, fun other hsome => ?_,
          fun error hsome => ?_⟩, nofun⟩
        · exact ne_of_eq_of_ne hlast nofun
        · cases hlast.symm.trans hnone
        · cases hlast.symm.trans hsome
          rfl
        · cases hlast.symm.trans hsome

/-- `next` is the state with the events of checks. -/
def Checked (state next : CleanupState) (events : List CleanupEvent) : Prop :=
  next = { state with log := state.log ++ events } ∧ ∀ event ∈ events, event.recovery? = none

/-- The check of the traffic is logged, and made when there is a controller. -/
theorem checkTraffic_eq {errors : List String}
    (h : state.checkTraffic executor round = (next, .ok errors)) :
    ∃ events, Checked state next events ∧
      (errors = [] → events = passed executor.trafficController (.traffic true)) := by
  unfold CleanupState.checkTraffic at h
  unfold passed
  split at h
  · rename_i hcontroller
    rw [if_pos hcontroller]
    split at h
    · cases h
    · rename_i ready _
      cases h
      refine ⟨[.traffic ready], ⟨rfl, List.forall_mem_singleton.mpr rfl⟩, fun hnil => ?_⟩
      cases ready
      · cases hnil
      · rfl
  · rename_i hcontroller
    rw [if_neg hcontroller]
    cases h
    exact ⟨[], ⟨by rw [List.append_nil], nofun⟩, fun _ => rfl⟩

/-- The check of the health is logged, and made when there is a worker. -/
theorem checkHealth_eq {errors : List String}
    (h : state.checkHealth executor round = (next, .ok errors)) :
    ∃ events, Checked state next events ∧
      (errors = [] → events = passed executor.runtimeWorker (.health [])) := by
  unfold CleanupState.checkHealth at h
  unfold passed
  split at h
  · rename_i hworker
    rw [if_pos hworker]
    split at h
    · cases h
    · cases h
      exact ⟨[.health errors], ⟨rfl, List.forall_mem_singleton.mpr rfl⟩, fun hnil => by rw [hnil]⟩
  · rename_i hworker
    rw [if_neg hworker]
    cases h
    exact ⟨[], ⟨by rw [List.append_nil], nofun⟩, fun _ => rfl⟩

theorem converge_eq {errors : List String}
    (h : state.converge executor round = (next, .ok errors)) :
    ∃ events, Checked state next events ∧
      (errors = [] → events = passed executor.trafficController (.traffic true) ++
        passed executor.runtimeWorker (.health [])) := by
  unfold CleanupState.converge at h
  split at h
  · cases h
  · rename_i traffic htraffic
    obtain ⟨seen, ⟨rfl, hseen⟩, htrafficEvents⟩ := checkTraffic_eq htraffic
    split at h
    · cases h
    · rename_i hhealth
      cases h
      obtain ⟨events, ⟨rfl, hevents⟩, hhealthEvents⟩ := checkHealth_eq hhealth
      refine ⟨seen ++ events, ⟨?_, List.forall_mem_append.mpr ⟨hseen, hevents⟩⟩, fun hnil => ?_⟩
      · dsimp only
        rw [List.append_assoc]
      · obtain ⟨htrafficNil, hhealthNil⟩ := List.append_eq_nil_iff.mp hnil
        rw [htrafficEvents htrafficNil, hhealthEvents hhealthNil]

/-- The baseline passes when the cleanup succeeds after observing it. -/
theorem validate_eq {result : CleanupResult}
    (h : state.validate round baselineWindow = (next, .ok result)) (hsuccess : result.success) :
    next = { state with log :=
      state.log ++ passed (state.recoveryAttempted ∧ baselineWindow.isSome) (.baseline []) } := by
  unfold CleanupState.validate at h
  unfold passed
  split at h
  · rename_i hobserved
    rw [if_pos hobserved]
    cases hobservation : round.observation with
    | error error => simp [hobservation] at h
    | ok validation =>
      rw [hobservation] at h
      dsimp only at h
      split at h
      · rename_i hgate
        cases h
        rw [CleanupState.noteEvent, hgate]
      · cases h
        cases hsuccess
  · rename_i hobserved
    cases h
    rw [if_neg hobserved, List.append_nil]

/-! ## The whole cleanup -/

/-- What holds after a successful cleanup: `log` is what it did. -/
structure CleanedUp (executor : Executor) (prior : Option (List RecoveryResult))
    (baselineWindow : Option Window) (tracker : FaultTracker) (log : List CleanupEvent) : Prop where
  noFaults : tracker.activeFaults = []
  recovered : ∀ outcome, lastRecovery log = some outcome →
    ∃ results, outcome = .ok results ∧ ∀ result ∈ results, result.recovered = .bool true
  unattempted : lastRecovery log = none → ∀ results ∈ prior, ∀ result ∈ results,
    result.recovered = .bool true
  checks : ∃ before, lastRecovery before = lastRecovery log ∧
    log = before ++ (passed executor.trafficController (.traffic true) ++
      passed executor.runtimeWorker (.health [])) ++
      passed (lastRecovery log ≠ none ∧ baselineWindow.isSome) (.baseline [])

theorem recoveryResultsSucceeded_iff {results : List RecoveryResult} :
    recoveryResultsSucceeded results ↔ ∀ result ∈ results, result.recovered = .bool true := by
  rw [recoveryResultsSucceeded, List.all_eq_true]
  exact forall₂_congr fun result _ => decide_eq_true_iff

/-- A recovery is complete when no fault is tracked and all results are good. -/
theorem recoveryComplete_iff : state.recoveryComplete ↔ state.tracker.activeFaults = [] ∧
    ∀ results ∈ state.recoveryResults, recoveryResultsSucceeded results := by
  rw [CleanupState.recoveryComplete, Bool.and_eq_true, List.isEmpty_iff, Option.all_eq_true]
  rfl

/-- A round that ends the cleanup well. -/
theorem cleanedUp_of_round {result : CleanupResult} (h : Consistent prior state)
    (hcomplete : state.recoveryComplete)
    (hconverge : state.converge executor round = (next, .ok []))
    {last : CleanupState} (hvalidate : next.validate round baselineWindow = (last, .ok result))
    (hsuccess : result.success) :
    CleanedUp executor prior baselineWindow last.tracker last.log := by
  obtain ⟨events, ⟨rfl, hevents⟩, hchecks⟩ := converge_eq hconverge
  rw [hchecks rfl] at hevents hvalidate
  rw [validate_eq hvalidate hsuccess]
  obtain ⟨hnone, hresults⟩ := recoveryComplete_iff.mp hcomplete
  have hlast : lastRecovery (state.log ++ (passed executor.trafficController (.traffic true) ++
      passed executor.runtimeWorker (.health [])) ++
      passed (state.recoveryAttempted ∧ baselineWindow.isSome) (.baseline [])) =
      lastRecovery state.log := by
    rw [lastRecovery_append (recovery?_of_mem_passed rfl), lastRecovery_append hevents]
  refine ⟨hnone, fun outcome hsome => ?_, fun hunattempted results hmem => ?_, state.log,
    hlast.symm, ?_⟩
  · rw [hlast] at hsome
    cases outcome with
    | error error => exact absurd hcomplete (h.raised error hsome)
    | ok results =>
      exact ⟨results, rfl, recoveryResultsSucceeded_iff.mp (hresults results (h.recovered _ hsome))⟩
  · rw [hlast] at hunattempted
    rw [← h.unrecovered hunattempted] at hmem
    exact recoveryResultsSucceeded_iff.mp (hresults results hmem)
  · have hobserved := and_congr_left' (c := baselineWindow.isSome) h.attempted
    simp only [hobserved] at hlast ⊢
    simp only [hlast]

/-- The round that succeeds leaves everything clean. -/
theorem cleanupLoop_sound {rounds : List CleanupRound} {result : CleanupResult}
    (hstate : Consistent prior state)
    (h : cleanupLoop executor baselineWindow rounds state = some (next, .ok result))
    (hsuccess : result.success) :
    CleanedUp executor prior baselineWindow next.tracker next.log := by
  induction rounds generalizing state with
  | nil => cases h
  | cons round rounds ih =>
    rw [cleanupLoop] at h
    split at h
    · cases h
      cases hsuccess
    · dsimp only at h
      have hnone : ∀ event ∈ ([] : List CleanupEvent), event.recovery? = none := nofun
      have hround : Consistent prior { state with attempts := state.attempts + 1 } :=
        hstate.of_log hnone (List.append_nil _).symm rfl rfl rfl
      obtain ⟨hrecover, hcomplete⟩ := recover_consistent executor round hround
      split at h
      · rename_i recovered heq
        rw [heq] at hrecover
        split at h
        · cases h
          cases hsuccess
        · exact ih hrecover h
      · rename_i recovered heq
        rw [heq] at hrecover hcomplete
        split at h
        · cases h
        · rename_i converged hconverge
          exact cleanedUp_of_round hrecover (hcomplete rfl) hconverge (Option.some.inj h) hsuccess
        · rename_i converged errors _ hconverge
          obtain ⟨events, ⟨rfl, hevents⟩, -⟩ := converge_eq hconverge
          split at h
          · cases h
            cases hsuccess
          · refine ih ?_ h
            exact hrecover.of_log hevents rfl rfl rfl rfl

/-- A recovery round has one result for each fault and keeps those that it does not recover. When a
cleanup succeeds, everything is recovered, and the checks that the executor has passed. -/
theorem cleanup_sound (executor : Executor) (tracker : FaultTracker)
    (prior : Option (List RecoveryResult)) (baselineWindow : Option Window)
    (rounds : List CleanupRound) :
    (∀ attempts, Recovered tracker.activeFaults (recoverAll executor.known attempts tracker).2
      (recoverAll executor.known attempts tracker).1.activeFaults) ∧
    ∀ state result,
      cleanupAfterScenario executor tracker prior baselineWindow rounds = some (state, .ok result) →
      result.success → CleanedUp executor prior baselineWindow state.tracker state.log := by
  refine ⟨fun attempts => recoverAll_recovered executor.known attempts tracker, ?_⟩
  intro state result h hsuccess
  exact cleanupLoop_sound (consistent_init tracker prior) h hsuccess

/-! ### An executor without checks -/

def linkDown : ActiveFault where
  type := "link_down"
  device := "leaf1"
  interface := "Ethernet0"

def linkDownRecovered : RecoveryResult where
  type := "link_down"
  recovered := .bool true

def recoveringRound : CleanupRound where
  inTime := true
  recovery := .ok fun _ => { outcome := .ok linkDownRecovered }
  activeFlows := true
  verifyActiveFlows := .ok true
  workerHealth := .ok []
  observation := .ok { window := ⟨"t0", "t1", 60⟩, gateErrors := [] }
  timeLeft := true

/-- The log of a cleanup that succeeds. -/
def successfulLog (executor : Executor) (baselineWindow : Option Window) :
    Option (List CleanupEvent) :=
  match cleanupAfterScenario executor { activeFaults := [linkDown] } none baselineWindow
    [recoveringRound] with
  | some (state, .ok result) => if result.success then state.log else none
  | _ => none

/-- Without a controller, a worker and a baseline window, the cleanup succeeds unchecked. -/
theorem unchecked_cleanup :
    successfulLog ⟨fun _ => true, false, false, 60⟩ none =
      some [.recovery (.ok [linkDownRecovered])] := by
  rfl

theorem checked_cleanup_sound :
    ∃ state result, cleanupAfterScenario ⟨fun _ => true, true, true, 60⟩
        { activeFaults := [linkDown] } none (some ⟨"t0", "t1", 60⟩) [recoveringRound] =
      some (state, .ok result) ∧ result.success ∧
      CleanedUp ⟨fun _ => true, true, true, 60⟩ none (some ⟨"t0", "t1", 60⟩) state.tracker
        state.log := by
  obtain ⟨state, result, h, hsuccess⟩ :
      ∃ state result, cleanupAfterScenario ⟨fun _ => true, true, true, 60⟩
        { activeFaults := [linkDown] } none (some ⟨"t0", "t1", 60⟩) [recoveringRound] =
      some (state, .ok result) ∧ result.success := ⟨_, _, rfl, rfl⟩
  have hsound := cleanup_sound ⟨fun _ => true, true, true, 60⟩ { activeFaults := [linkDown] } none
    (some ⟨"t0", "t1", 60⟩) [recoveringRound]
  exact ⟨state, result, h, hsuccess, hsound.2 state result h hsuccess⟩

end NetOpsBench.Scenario
