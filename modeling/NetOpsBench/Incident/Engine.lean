import NetOpsBench.Simulator.EpisodeBackend

/-!
# A prepared incident

An incident prepares its backend, hosts the calls of its sessions and finishes the backend once,
whoever closes it and however often.

The calls on an incident are `IncidentCall`s, and `PreparedIncident.run` takes them in any order. What an
incident does to its backend and its owner goes to a log, which `LeasePairing` is about.
-/

namespace NetOpsBench.Incident

open Simulator (Raised Entry RuntimeEpisodeBackend FinishOutcome PrepareOutcome)

inductive IncidentState where
  | created | preparing | active | closing | closed | broken
deriving DecidableEq, Repr

def IncidentState.value : IncidentState → String
  | .created => "created"
  | .preparing => "preparing"
  | .active => "active"
  | .closing => "closing"
  | .closed => "closed"
  | .broken => "broken"

inductive FailureDomain where
  | infrastructure | agent | protocol | toolExecution | cleanup
deriving DecidableEq, Repr

inductive CleanupStatus where
  | notStarted | succeeded | failed
deriving DecidableEq, Repr

structure ExecutionFailure where
  domain : FailureDomain
  phase : String
  message : String
  errorType : Option String := none
deriving DecidableEq, Repr

/-- `notifies` says that an `on_close` was given. -/
structure PreparedIncident where
  notifies : Bool
  backend : RuntimeEpisodeBackend := {}
  state : IncidentState := .created
  failure : Option ExecutionFailure := none
  cleanupFailure : Option ExecutionFailure := none
  cleanupStatus : CleanupStatus := .notStarted
  closeNotified : Bool := false
  log : List Entry := []
deriving DecidableEq, Repr

/-- How the calls that finish an incident end. -/
structure CloseOutcome extends FinishOutcome where
  onClose : Except Raised Unit

namespace PreparedIncident

variable (incident : PreparedIncident)

/-- `_notify_close` -/
def notifyClose (onClose : Except Raised Unit) : PreparedIncident × Except Raised Unit :=
  if !incident.closeNotified && incident.notifies then
    ({ incident with closeNotified := true, log := incident.log ++ [.onClose] }, onClose)
  else
    (incident, .ok ())

/-- `_finish_backend` -/
def finishBackend (outcome : CloseOutcome) (broken : Bool) :
    PreparedIncident × Except Raised Unit :=
  let declared : List Entry := if broken then [.broken] else []
  match incident.backend.finish outcome.toFinishOutcome broken with
  | (backend, entries, .error error) =>
    { incident with
      backend
      log := incident.log ++ declared ++ entries ++ [Entry.finished]
      cleanupStatus := .failed
      cleanupFailure := some ⟨.cleanup, "cleanup", error.message, some error.errorType⟩
      state := .broken }.notifyClose outcome.onClose
  | (backend, entries, .ok ()) =>
    { incident with
      backend
      log := incident.log ++ declared ++ entries ++ [Entry.finished]
      cleanupStatus := .succeeded
      state := if broken then .broken else .closed }.notifyClose outcome.onClose

def prepare (outcome : PrepareOutcome) (close : CloseOutcome) :
    PreparedIncident × Except Raised Unit :=
  if incident.state ≠ .created then
    (incident, .error ⟨"RuntimeError", "Incident cannot prepare from " ++ incident.state.value⟩)
  else
    match incident.backend.prepare outcome with
    | (backend, entries, .error error) =>
      { incident with
        backend
        log := incident.log ++ entries
        failure := some ⟨.infrastructure, "prepare", error.message, some error.errorType⟩
        state := .broken }.finishBackend close true
    | (backend, entries, .ok ()) =>
      ({ incident with backend, log := incident.log ++ entries, state := .active }, .ok ())

/-- `_refresh_lease` -/
def refreshLease : PreparedIncident :=
  { incident with log := incident.log ++ incident.backend.refresh }

def notActive : Raised :=
  ⟨"RuntimeError", "Incident is not active: " ++ incident.state.value⟩

/-- `configured` says that there is a session config, given or by default. -/
def openSession (configured : Bool) : PreparedIncident × Except Raised Unit :=
  if incident.state ≠ .active then
    (incident, .error incident.notActive)
  else if !configured then
    (incident, .error ⟨"ValueError",
      "A SimulatorConfig is required when the incident has no default session config"⟩)
  else
    (incident.refreshLease, .ok ())

/-- `valid` is whether the registry of tools accepts the call. -/
def callTool (name : String) (valid : Bool) (tool : Except Raised Unit) :
    PreparedIncident × Except Raised Unit :=
  if incident.state ≠ .active then
    (incident, .error incident.notActive)
  else if !valid then
    (incident, .error ⟨"ValueError", "Invalid tool action: " ++ name⟩)
  else
    let refreshed := incident.refreshLease
    match refreshed.backend.callTool tool with
    | .error error => (refreshed, .error error)
    | .ok () => (refreshed.refreshLease, .ok ())

/-- The lifecycle of `evaluate`; what it computes is an input. -/
def evaluate (evaluation : Except Raised Unit) : PreparedIncident × Except Raised Unit :=
  if incident.state ≠ .active then
    (incident, .error incident.notActive)
  else
    (incident.refreshLease, evaluation)

def close (outcome : CloseOutcome) : PreparedIncident × Except Raised Unit :=
  if incident.state = .closed ∨ incident.cleanupStatus ≠ .notStarted then
    (incident, .ok ())
  else if incident.state = .broken then
    incident.finishBackend outcome true
  else
    { incident with state := .closing }.finishBackend outcome false

end PreparedIncident

/-! ## Runs -/

inductive IncidentCall where
  | prepare (outcome : PrepareOutcome) (close : CloseOutcome)
  | openSession (configured : Bool)
  | callTool (name : String) (valid : Bool) (tool : Except Raised Unit)
  | evaluate (evaluation : Except Raised Unit)
  | close (outcome : CloseOutcome)

namespace PreparedIncident

variable (incident : PreparedIncident)

def call : IncidentCall → PreparedIncident × Except Raised Unit
  | .prepare outcome close => incident.prepare outcome close
  | .openSession configured => incident.openSession configured
  | .callTool name valid tool => incident.callTool name valid tool
  | .evaluate evaluation => incident.evaluate evaluation
  | .close outcome => incident.close outcome

/-- The calls come in any order, whether or not they raise. -/
def run (calls : List IncidentCall) : PreparedIncident :=
  calls.foldl (fun incident call => (incident.call call).1) incident

end PreparedIncident

end NetOpsBench.Incident
