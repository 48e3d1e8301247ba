import NetOpsBench.Models.Scenario
import NetOpsBench.Runtime.Pool
import NetOpsBench.Data.Dict

/-!
# Running a session on the workers of a runtime

The scenarios are dealt round-robin to the workers. Each worker runs its own in order, and stops
after one whose cleanup failed; the workers run side by side, and their results are merged at the
end. What the world does is an input: how each run, write, score and close ends. `ε` is the type of
the evaluations.

`runWorker` is the run of one worker, `dispatchWorkers` the merge of all, and `executeOnRuntimePool` the
session, which also decides about the quarantine of the runtime.
-/

namespace NetOpsBench.Session
open Models NetOpsBench.Runtime

variable {ε : Type}

/-! ## What happens to a case -/

/-- What `run_scenario` reports; a missing `cleanup` is `none`. -/
structure ScenarioResult where
  caseValid : Option Bool
  success : Bool
  cleanup : Option Bool
deriving DecidableEq, Repr

namespace ScenarioResult

variable (result : ScenarioResult)

/-- `scenario_result.get("case_valid", scenario_result.get("success"))` -/
def isValid : Bool := result.caseValid.getD result.success

def cleanupSuccess : Bool := result.cleanup.getD true

def succeeded : Bool := result.isValid && result.success && result.cleanupSuccess

end ScenarioResult

/-- A run that raises may have cleaned up before. -/
inductive RunOutcome where
  | returned (result : ScenarioResult)
  | raised (error : String) (cleanup : Option Bool)
deriving DecidableEq, Repr

/-- How the steps of one case end on a worker, if they are reached. -/
structure CaseRun (ε : Type) where
  callback : Except String Unit
  run : RunOutcome
  persist : Except String String
  score : Except String (List ε)

/-- How everything ends on a worker: its preparation, each of its cases, and `runner.close()`. -/
structure WorkerRun (ε : Type) where
  prepare : Except String Unit
  cases : Nat → CaseRun ε
  close : Except String Unit

/-- A call of `run_scenario` that happened, and what became of its cleanup. -/
structure Execution where
  workerId : String
  scenario : ScenarioSpec
  cleanup : Option Bool
deriving DecidableEq

def Execution.CleanupFailed (execution : Execution) : Prop := execution.cleanup = some false

instance (execution : Execution) : Decidable execution.CleanupFailed :=
  inferInstanceAs (Decidable (_ = _))

/-! ## Summaries -/

inductive ScenarioStatus where
  | invalid
  | completed
  | failed
  | skippedInfrastructureFailure
deriving DecidableEq, Repr

structure ScenarioSummary where
  scenarioId : String
  status : ScenarioStatus
  scale : String
  worker : String
  caseValid : Option Bool := none
  rawResultPath : Option String := none
  cleanupFailed : Option Bool := none
  failureStage : Option String := none
deriving DecidableEq, Repr

structure WorkerSummary where
  workerId : String
  workerName : String
  labName : String
  scenarioCount : Nat
  executedCount : Nat
  skippedCount : Nat
  success : Bool
deriving DecidableEq, Repr, Inhabited

structure WorkerRunResult (ε : Type) where
  evaluations : List ε
  scenarios : List ScenarioSummary
  summary : WorkerSummary
deriving Inhabited

structure PoolDispatchResult (ε : Type) where
  evaluations : List ε
  scenarios : List ScenarioSummary
  workers : List WorkerSummary

/-! ## A worker -/

/-- The variables of the loop of `_run_worker`. -/
structure LoopState (ε : Type) where
  evaluations : List ε := []
  summaries : List ScenarioSummary := []
  success : Bool := true
  executed : Nat := 0

def runSummary (worker : RuntimeIdentity) (scenario : ScenarioSpec) (result : ScenarioResult)
    (rawResultPath : String) : ScenarioSummary where
  scenarioId := scenario.scenarioId
  status :=
    if !result.isValid then .invalid
    else if result.succeeded then .completed
    else .failed
  scale := scenario.topologyScale
  worker := worker.workerId
  caseValid := result.isValid
  rawResultPath := rawResultPath
  cleanupFailed := !result.cleanupSuccess
  failureStage :=
    if !result.isValid then "infrastructure"
    else if result.succeeded then none
    else if !result.cleanupSuccess then "cleanup"
    else "execution"

def skippedSummary (worker : RuntimeIdentity) (scenario : ScenarioSpec) : ScenarioSummary where
  scenarioId := scenario.scenarioId
  status := .skippedInfrastructureFailure
  scale := scenario.topologyScale
  worker := worker.workerId
  failureStage := "prior_case_cleanup"

/-- From the result of a run to the summary of its case. -/
def finishCase (worker : RuntimeIdentity) (scenario : ScenarioSpec) (case : CaseRun ε)
    (result : ScenarioResult) (state : LoopState ε) : Except String (LoopState ε) :=
  match case.persist with
  | .error error => .error error
  | .ok path =>
    match if result.isValid then case.score else .ok [] with
    | .error error => .error error
    | .ok scored =>
      .ok
        { evaluations := state.evaluations ++ scored
          summaries := state.summaries ++ [runSummary worker scenario result path]
          success := state.success && result.succeeded
          executed := state.executed + 1 }

/-- The loop over the cases from number `index` on. The log has the runs that happened, also when
the loop raises. -/
def runCases (worker : RuntimeIdentity) (cases : Nat → CaseRun ε) (index : Nat) :
    List ScenarioSpec → LoopState ε → List Execution × Except String (LoopState ε)
  | [], state => ([], .ok state)
  | scenario :: scenarios, state =>
    match (cases index).callback with
    | .error error => ([], .error error)
    | .ok () =>
      match (cases index).run with
      | .raised error cleanup =>
        ([{ workerId := worker.workerId, scenario, cleanup }], .error error)
      | .returned result =>
        let execution :=
          { workerId := worker.workerId, scenario, cleanup := some result.cleanupSuccess }
        match finishCase worker scenario (cases index) result state with
        | .error error => ([execution], .error error)
        | .ok state =>
          if result.cleanupSuccess then
            let (log, outcome) := runCases worker cases (index + 1) scenarios state
            (execution :: log, outcome)
          else
            ([execution], .ok { state with
              summaries := state.summaries ++ scenarios.map (skippedSummary worker) })

/-- `_run_worker` -/
def runWorker (worker : RuntimeIdentity) (run : WorkerRun ε) (scenarios : List ScenarioSpec) :
    List Execution × Except String (WorkerRunResult ε) :=
  match run.prepare with
  | .error error => ([], .error error)
  | .ok () =>
    let (log, outcome) := runCases worker run.cases 0 scenarios {}
    match run.close, outcome with
    | .error error, _ => (log, .error error)
    | .ok (), .error error => (log, .error error)
    | .ok (), .ok state =>
      (log, .ok
        { evaluations := state.evaluations
          scenarios := state.summaries
          summary :=
            { workerId := worker.workerId
              workerName := worker.workerId
              labName := worker.labName
              scenarioCount := scenarios.length
              executedCount := state.executed
              skippedCount := scenarios.length - state.executed
              success := state.success } })

/-! ## The pool -/

/-- `assignments[workers[index % len(workers)].worker_id].append(scenario)` -/
def assignScenario (workers : List RuntimeIdentity)
    (assignments : Dict String (List ScenarioSpec)) (item : ScenarioSpec × Nat) :
    Dict String (List ScenarioSpec) :=
  match workers[item.2 % workers.length]? with
  | some worker =>
    assignments.insert worker.workerId
      ((assignments.lookup worker.workerId).getD [] ++ [item.1])
  | none => assignments

def assignScenariosToWorkers (scenarios : List ScenarioSpec) (workers : List RuntimeIdentity) :
    Except String (Dict String (List ScenarioSpec)) :=
  if workers = [] then
    .error "runtime pool must contain at least one worker"
  else
    .ok (scenarios.zipIdx.foldl (assignScenario workers)
      (.ofItems (workers.map fun worker => (worker.workerId, []))))

/-- The results of the workers, in the order of the workers. They finish in the order of `finish`, and
the first failure among them is raised. -/
def mergeResults (orderedWorkers : List RuntimeIdentity) (finish : RuntimeIdentity → Nat)
    (runs : List (RuntimeIdentity × Except String (WorkerRunResult ε))) :
    Except String (PoolDispatchResult ε) := do
  let completed := runs.insertionSort fun a b => finish a.1 ≤ finish b.1
  let results ← completed.mapM fun run => run.2.map fun result => (run.1.workerIndex, result)
  let merged := orderedWorkers.filterMap fun worker =>
    (Dict.ofItems results).lookup worker.workerIndex
  return {
    evaluations := merged.flatMap (·.evaluations)
    scenarios := merged.flatMap (·.scenarios)
    workers := merged.map (·.summary) }

def orderWorkers (workers : List RuntimeIdentity) : List RuntimeIdentity :=
  workers.insertionSort fun a b => a.workerIndex ≤ b.workerIndex

/-- `_dispatch_workers` -/
def dispatchWorkers (workers : List RuntimeIdentity) (scenarios : List ScenarioSpec)
    (runWorker : RuntimeIdentity → List ScenarioSpec →
      List Execution × Except String (WorkerRunResult ε))
    (finish : RuntimeIdentity → Nat) : List Execution × Except String (PoolDispatchResult ε) :=
  if workers = [] then
    ([], .error "runtime must contain at least one worker")
  else
    match assignScenariosToWorkers scenarios (orderWorkers workers) with
    | .error error => ([], .error error)
    | .ok assignments =>
      let runs := (orderWorkers workers).map fun worker =>
        (worker, runWorker worker ((assignments.lookup worker.workerId).getD []))
      (runs.flatMap (·.2.1),
        mergeResults (orderWorkers workers) finish (runs.map fun run => (run.1, run.2.2)))

def mismatched (runtime : RuntimePool) (scenarios : List ScenarioSpec) : List String :=
  (scenarios.filter (·.topologyScale ≠ runtime.scale)).map (·.scenarioId)

/-- `execute_on_runtime_pool`: the runtime that it leaves, the runs that happened and the result.
`write` is how `_write_metadata` ends. -/
def executeOnRuntimePool (runtime : RuntimePool) (scenarios : List ScenarioSpec)
    (runs : RuntimeIdentity → WorkerRun ε) (finish : RuntimeIdentity → Nat)
    (write : Except String Unit) :
    RuntimePool × List Execution × Except String (PoolDispatchResult ε) :=
  if runtime.state ≠ .warm ∨ runtime.metadata.quarantined then
    (runtime, [], .error ("Runtime '" ++ runtime.id ++ "' is not eligible for execution: state='" ++
      runtime.state.value ++ "', quarantined=" ++
      (if runtime.metadata.quarantined then "True" else "False")))
  else if mismatched runtime scenarios ≠ [] then
    (runtime, [], .error ("Scenario scale does not match runtime scale '" ++ runtime.scale ++
      "': " ++ ", ".intercalate (mismatched runtime scenarios)))
  else
    let (log, outcome) := dispatchWorkers runtime.workers.items scenarios
      (fun worker => runWorker worker (runs worker)) finish
    match outcome with
    | .error error => (runtime, log, .error error)
    | .ok result =>
      let cleanupFailures := ((result.scenarios.filter fun item =>
        item.cleanupFailed = some true ∧ item.worker ≠ "").map (·.worker)).dedup.insertionSort
          (· ≤ ·)
      if cleanupFailures = [] then
        (runtime, log, .ok result)
      else
        ({ runtime with
            state := .quarantined
            metadata := { runtime.metadata with
              quarantined := true
              quarantineReason := "scenario_cleanup_failure"
              quarantinedWorkers := cleanupFailures } },
          log, write.map fun () => result)

end NetOpsBench.Session
