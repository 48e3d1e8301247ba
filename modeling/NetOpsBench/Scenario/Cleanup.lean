import NetOpsBench.Data.Python
import NetOpsBench.Faults.Injector

/-!
# Cleanup after a scenario

Recovery is retried until the faults are gone, the traffic flows and the network is healthy, or
until the deadline; after a recovery the baseline is observed again. What each round meets is an
input. The log has what the cleanup did and saw.

`cleanupAfterScenario` is the whole, and `cleanupLoop` the loop over its rounds; the variables of the loop
are a `CleanupState`.
-/

namespace NetOpsBench.Scenario
open Faults

/-! ## What a round meets -/

structure Window where
  startTime : String
  endTime : String
  durationSeconds : Nat
deriving DecidableEq, Repr

/-- An observed window, with its `baseline_gate_errors`. -/
structure Validation where
  window : Window
  gateErrors : List String
deriving DecidableEq, Repr

/-- `recovery` is an error when `_recover_fault` raises, which leaves the tracked faults alone. -/
structure CleanupRound where
  inTime : Bool
  recovery : Except String (Nat → RecoveryAttempt)
  activeFlows : Bool
  verifyActiveFlows : Except String Bool
  workerHealth : Except String (List String)
  observation : Except String Validation
  timeLeft : Bool

/-- What the executor has. -/
structure Executor where
  known : String → Bool
  trafficController : Bool
  runtimeWorker : Bool
  healthTimeoutSeconds : Nat

inductive CleanupEvent where
  | recovery (outcome : Except String (List RecoveryResult))
  | traffic (ready : Bool)
  | health (errors : List String)
  | baseline (errors : List String)

/-! ## The result -/

inductive CleanupStatus where
  | clean
  | recoveredAfterRetry
  | postRecoveryBaselineFailed
  | terminalRecoveryFailure
  | postRecoveryConvergenceTimeout
  | recoveryTimeout
deriving DecidableEq, Repr

structure CleanupResult where
  success : Bool
  status : CleanupStatus
  attempts : Nat
  errors : List String
  recovery : Option (List RecoveryResult) := none
  validatedBaseline : Option Window := none
  timeoutSeconds : Option Nat := none
  remainingFaults : Option Nat := none
deriving DecidableEq, Repr

/-! ## The loop -/

def recoveryResultsSucceeded (results : List RecoveryResult) : Bool :=
  results.all (·.recovered.isTrue)

def recoveryHasTerminalFailure (results : List RecoveryResult) : Bool :=
  results.any fun item => !item.recovered.isTrue && item.retryable.isFalse

/-- The variables of the loop. -/
structure CleanupState where
  tracker : FaultTracker
  recoveryResults : Option (List RecoveryResult)
  attempts : Nat := 0
  errors : List String := []
  recoveryAttempted : Bool := false
  convergencePending : Bool := false
  terminalRecoveryFailure : Bool := false
  log : List CleanupEvent := []

namespace CleanupState

variable (executor : Executor) (round : CleanupRound) (state : CleanupState)

def recoveryComplete : Bool :=
  state.tracker.activeFaults.isEmpty && state.recoveryResults.all recoveryResultsSucceeded

def noteErrors (errors : List String) : CleanupState :=
  { state with errors := state.errors ++ errors }

def noteEvent (event : CleanupEvent) : CleanupState :=
  { state with log := state.log ++ [event] }

def remainingText (results : List RecoveryResult) : String :=
  "fault_recovery: remaining_faults=" ++ toString state.tracker.activeFaults.length ++
    " results=[" ++ ", ".intercalate (results.map (·.text)) ++ "]"

/-- The recovery of a round, and whether it is complete. -/
def recover : CleanupState × Bool :=
  if state.recoveryComplete then
    (state, true)
  else
    let state := { state with recoveryAttempted := true }
    match round.recovery with
    | .error error =>
      ((state.noteEvent (.recovery (.error error))).noteErrors ["fault_recovery: " ++ error], false)
    | .ok attempts =>
      let (tracker, results) := recoverAll executor.known attempts state.tracker
      let state :=
        { state with tracker, recoveryResults := results }.noteEvent (.recovery (.ok results))
      if state.recoveryComplete then
        (state, true)
      else
        ({ state.noteErrors [state.remainingText results] with
            terminalRecoveryFailure := recoveryHasTerminalFailure results }, false)

/-- The check of the background traffic, and the errors that it finds. -/
def checkTraffic : CleanupState × Except String (List String) :=
  if executor.trafficController then
    match if round.activeFlows then round.verifyActiveFlows else .ok false with
    | .error error => (state, .error error)
    | .ok ready =>
      (state.noteEvent (.traffic ready),
        .ok (if ready then [] else ["background traffic is not fully ready"]))
  else
    (state, .ok [])

/-- The check of the worker's health, and the errors that it finds. -/
def checkHealth : CleanupState × Except String (List String) :=
  if executor.runtimeWorker then
    match round.workerHealth with
    | .error error => (state, .error error)
    | .ok errors => (state.noteEvent (.health errors), .ok errors)
  else
    (state, .ok [])

/-- Both checks of a round. -/
def converge : CleanupState × Except String (List String) :=
  match state.checkTraffic executor round with
  | (state, .error error) => (state, .error error)
  | (state, .ok traffic) =>
    match state.checkHealth executor round with
    | (state, .error error) => (state, .error error)
    | (state, .ok health) => (state, .ok (traffic ++ health))

/-- The result after the loop. -/
def expired : CleanupResult where
  success := false
  status :=
    if state.terminalRecoveryFailure then .terminalRecoveryFailure
    else if state.convergencePending then .postRecoveryConvergenceTimeout
    else .recoveryTimeout
  attempts := state.attempts
  errors := Python.fromkeys [] state.errors
  timeoutSeconds := executor.healthTimeoutSeconds
  remainingFaults := state.tracker.activeFaults.length

def succeeded (validatedBaseline : Option Window) : CleanupResult where
  success := true
  status := if state.attempts = 1 then .clean else .recoveredAfterRetry
  attempts := state.attempts
  errors := Python.fromkeys [] state.errors
  recovery := state.recoveryResults
  validatedBaseline

/-- The observation of the baseline after a recovery, and the result. -/
def validate (baselineWindow : Option Window) : CleanupState × Except String CleanupResult :=
  if state.recoveryAttempted ∧ baselineWindow.isSome then
    match round.observation with
    | .error error => (state, .error error)
    | .ok validation =>
      let state := state.noteEvent (.baseline validation.gateErrors)
      if validation.gateErrors = [] then
        (state, .ok (state.succeeded (some validation.window)))
      else
        (state, .ok
          { success := false
            status := .postRecoveryBaselineFailed
            attempts := state.attempts
            errors := Python.fromkeys []
              (state.errors ++ validation.gateErrors.map ("post_recovery_baseline: " ++ ·)) })
  else
    (state, .ok (state.succeeded none))

end CleanupState

/-- The loop of `_cleanup_after_scenario` over the rounds, and its state when it returns or raises;
`none` when it has not ended. -/
def cleanupLoop (executor : Executor) (baselineWindow : Option Window) :
    List CleanupRound → CleanupState → Option (CleanupState × Except String CleanupResult)
  | [], _ => none
  | round :: rounds, state =>
    if state.attempts ≠ 0 ∧ !round.inTime then
      some (state, .ok (state.expired executor))
    else
      let state := { state with attempts := state.attempts + 1 }
      match state.recover executor round with
      | (state, false) =>
        if state.terminalRecoveryFailure ∨ !round.timeLeft then
          some (state, .ok (state.expired executor))
        else
          cleanupLoop executor baselineWindow rounds state
      | (state, true) =>
        match state.converge executor round with
        | (state, .error error) => some (state, .error error)
        | (state, .ok []) => some (state.validate round baselineWindow)
        | (state, .ok errors) =>
          let state := { state with convergencePending := true }.noteErrors
            (errors.map ("post_recovery: " ++ ·))
          if !round.timeLeft then
            some (state, .ok (state.expired executor))
          else
            cleanupLoop executor baselineWindow rounds state

/-- `_cleanup_after_scenario`, where `recovery` is what the episode recorded. -/
def cleanupAfterScenario (executor : Executor) (tracker : FaultTracker)
    (recovery : Option (List RecoveryResult)) (baselineWindow : Option Window)
    (rounds : List CleanupRound) : Option (CleanupState × Except String CleanupResult) :=
  cleanupLoop executor baselineWindow rounds { tracker, recoveryResults := recovery }

end NetOpsBench.Scenario
