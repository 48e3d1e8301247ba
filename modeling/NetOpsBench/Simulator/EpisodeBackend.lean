import NetOpsBench.Data.Python

/-!
# The backend of an episode

An episode leases a runtime and works on it through a delegate. Each call that leaves the backend
may raise an exception: how it ends is an input. What the backend does to its lease and its delegate
goes to a history.

`RuntimeEpisodeBackend.prepare` takes the lease and `RuntimeEpisodeBackend.finish` settles it; in between
the backend hands the calls on to its delegate.
-/

namespace NetOpsBench.Simulator

/-- An exception, with the name of its type. -/
structure Raised where
  errorType : String
  message : String
deriving DecidableEq, Repr

inductive Entry where
  | acquired (lease : Nat)
  | refreshed (lease : Nat)
  | released (lease : Nat)
  | quarantined (lease : Nat)
  /-- The caller, or a cleanup that raises, declares the runtime broken. -/
  | broken
  | delegateFinished
  /-- `finish` of the backend has ended. -/
  | finished
  | onClose
deriving DecidableEq, Repr

/-! ## The delegate -/

/-- `prepared` says that `prepare` has begun, and so the scenario is set. -/
structure ExecutorIncidentBackend where
  prepared : Bool := false
  finished : Bool := false
deriving DecidableEq, Repr

structure CleanupResult where
  success : Bool
  text : String
deriving DecidableEq, Repr

namespace ExecutorIncidentBackend

def finish (cleanup : Except Raised CleanupResult) (delegate : ExecutorIncidentBackend) :
    ExecutorIncidentBackend × Except Raised Unit :=
  if delegate.finished then
    (delegate, .ok ())
  else if delegate.prepared then
    ({ delegate with finished := true },
      match cleanup with
      | .error error => .error error
      | .ok result =>
        if result.success then .ok ()
        else .error ⟨"RuntimeError", "Scenario cleanup failed: " ++ result.text⟩)
  else
    ({ delegate with finished := true }, .ok ())

end ExecutorIncidentBackend

/-! ## The backend -/

structure RuntimeEpisodeBackend where
  record : Option Nat := none
  delegate : Option ExecutorIncidentBackend := none
deriving DecidableEq, Repr

/-- How the cleanup of the delegate and the teardown of a quarantine end. -/
structure FinishOutcome where
  cleanup : Except Raised CleanupResult
  teardown : Except Raised Unit

/-- How the calls of `prepare` end, in their order. `recovery` says of each fault whether it was
recovered, and `health` are the errors of the worker. -/
structure PrepareOutcome where
  acquire : Except Raised Nat
  worker : Except Raised Unit
  topology : Except Raised Unit
  recovery : Except Raised (List Bool)
  health : Except Raised (List String)
  traffic : Except Raised Unit
  baseline : Except Raised Unit
  observation : Except Raised Unit
  finish : FinishOutcome

namespace PrepareOutcome

/-- The part of `prepare` between the lease and the delegate. -/
def readyRuntime (outcome : PrepareOutcome) : Except Raised Unit := do
  let recovery ← outcome.recovery
  if recovery.any (!·) then
    throw ⟨"RuntimeError", "Runtime recovery failed"⟩
  let errors ← outcome.health
  if errors ≠ [] then
    throw ⟨"RuntimeError", "Runtime health check failed: " ++ "; ".intercalate errors⟩
  outcome.traffic
  outcome.baseline

end PrepareOutcome

namespace RuntimeEpisodeBackend

variable (backend : RuntimeEpisodeBackend)

/-- The `finish` of the delegate, if there is one, and whether it raises. -/
def finishDelegate (cleanup : Except Raised CleanupResult) : List Entry × Option Raised :=
  match backend.delegate with
  | none => ([], none)
  | some delegate =>
    match (delegate.finish cleanup).2 with
    | .ok () => ([.delegateFinished], none)
    | .error error => ([.delegateFinished, .broken], some error)

def finish (outcome : FinishOutcome) (broken : Bool) :
    RuntimeEpisodeBackend × List Entry × Except Raised Unit :=
  match backend.record with
  | none => (backend, [], .ok ())
  | some lease =>
    match backend.finishDelegate outcome.cleanup, broken with
    | (entries, none), false => ({}, entries ++ [.released lease], .ok ())
    | (entries, none), true => ({}, entries ++ [.quarantined lease], outcome.teardown)
    | (entries, some _), true => ({}, entries ++ [.quarantined lease], outcome.teardown)
    | (entries, some error), false =>
      ({}, entries ++ [.quarantined lease], do
        outcome.teardown
        throw ⟨"RuntimeError", error.errorType ++ ": " ++ error.message⟩)

/-- The part of `prepare` that works on the leased runtime. -/
def prepareLeased (outcome : PrepareOutcome) (lease : Nat) :
    RuntimeEpisodeBackend × Except Raised Unit :=
  match outcome.readyRuntime with
  | .error error => ({ backend with record := some lease }, .error error)
  | .ok () => ({ record := some lease, delegate := some { prepared := true } }, outcome.observation)

def prepare (outcome : PrepareOutcome) :
    RuntimeEpisodeBackend × List Entry × Except Raised Unit :=
  match outcome.acquire with
  | .error error => (backend, [], .error error)
  | .ok lease =>
    match outcome.worker, outcome.topology with
    | .error error, _ => ({ backend with record := some lease }, [.acquired lease], .error error)
    | .ok (), .error error =>
      ({ backend with record := none }, [.acquired lease, .released lease], .error error)
    | .ok (), .ok () =>
      match backend.prepareLeased outcome lease with
      | (backend, .ok ()) => (backend, [.acquired lease], .ok ())
      | (backend, .error error) =>
        -- A healthy runtime whose baseline is not ready yet is kept for a retry.
        if error.errorType = "_BaselineNotReadyError" then
          match backend.finish outcome.finish false with
          | (backend, entries, .ok ()) => (backend, .acquired lease :: entries, .error error)
          | (backend, entries, .error failure) => (backend, .acquired lease :: entries, .error failure)
        else
          (backend, [.acquired lease], .error error)

def callTool (tool : Except Raised Unit) : Except Raised Unit :=
  match backend.delegate with
  | none => .error ⟨"RuntimeError", "Incident backend is not prepared"⟩
  | some _ => tool

def refresh : List Entry :=
  match backend.record with
  | none => []
  | some lease => [.refreshed lease]

end RuntimeEpisodeBackend

end NetOpsBench.Simulator
