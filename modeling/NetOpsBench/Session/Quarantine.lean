import NetOpsBench.Session.Accounting

/-!
# Quarantine after a failed cleanup

A runtime on which a cleanup failed is quarantined, so that no later session runs on it. The merged
summaries decide this, so it happens only when no worker raises.

`quarantineKept_iff` is the equivalence: a session keeps the promise unless, on an eligible runtime, a
cleanup fails and a worker raises. `unscored_not_quarantined` is a session in which the score of a case
raises whose cleanup failed.
-/

namespace NetOpsBench.Session
open Models NetOpsBench.Runtime

variable {ε : Type} {worker : RuntimeIdentity} {scenarios : List ScenarioSpec}

/-! ## A cleanup that fails -/

theorem exists_mem_singleton {α : Type} {p : α → Prop} {a : α} : (∃ x ∈ [a], p x) ↔ p a := by
  rw [List.exists_mem_cons_iff]
  exact ⟨fun h => h.resolve_right nofun, .inl⟩

/-- The cleanup of one of the cases from number `index` on fails. -/
def CleanupFails (cases : Nat → CaseRun ε) (index : Nat) : List ScenarioSpec → Prop
  | [] => False
  | _ :: scenarios =>
    (cases index).callback = .ok () ∧
    match (cases index).run with
    | .raised _ cleanup => cleanup = some false
    | .returned result =>
      result.cleanupSuccess = false ∨
      ((∀ error, (cases index).persist ≠ .error error) ∧
        ¬ (result.isValid ∧ ∃ error, (cases index).score = .error error) ∧
        CleanupFails cases (index + 1) scenarios)

/-- The cleanup of a case that the worker runs fails. -/
def Contaminates (run : WorkerRun ε) (queue : List ScenarioSpec) : Prop :=
  run.prepare = .ok () ∧ CleanupFails run.cases 0 queue

theorem exists_cleanupFailed_runCases (worker : RuntimeIdentity) (cases : Nat → CaseRun ε)
    (index : Nat) (queue : List ScenarioSpec) (state : LoopState ε) :
    (∃ execution ∈ (runCases worker cases index queue state).1, execution.CleanupFailed) ↔
      CleanupFails cases index queue := by
  induction queue generalizing index state with
  | nil => simp [runCases, CleanupFails]
  | cons scenario queue ih =>
    rw [runCases, CleanupFails]
    cases hcallback : (cases index).callback with
    | error error => simp
    | ok _ =>
      cases hrun : (cases index).run with
      | raised error cleanup =>
        dsimp only
        rw [exists_mem_singleton]
        exact ⟨fun h => ⟨rfl, h⟩, fun h => h.2⟩
      | returned result =>
        dsimp only
        have hhere : Execution.CleanupFailed
            { workerId := worker.workerId, scenario, cleanup := some result.cleanupSuccess } ↔
              result.cleanupSuccess = false := Option.some_inj
        rcases finishCase_eq worker scenario (cases index) result state with
          ⟨next, path, hfinish, -, -, hpersist, hscore⟩ | ⟨⟨error, hfinish⟩, hfails⟩
        · rw [hfinish]
          dsimp only
          by_cases hcleanup : result.cleanupSuccess
          · rw [if_pos hcleanup, List.exists_mem_cons_iff, ih, hhere]
            exact ⟨fun h => ⟨rfl, h.imp_right fun h => ⟨hpersist, hscore, h⟩⟩,
              fun h => h.2.imp_right fun h => h.2.2⟩
          · rw [if_neg hcleanup, exists_mem_singleton, hhere]
            exact ⟨fun h => ⟨rfl, .inl h⟩, fun _ => Bool.eq_false_iff.mpr hcleanup⟩
        · rw [hfinish]
          dsimp only
          rw [exists_mem_singleton, hhere]
          refine ⟨fun h => ⟨rfl, .inl h⟩, fun h => h.2.resolve_right ?_⟩
          rintro ⟨hpersist, hscore, -⟩
          rcases hfails with ⟨error, h⟩ | h
          · exact hpersist error h
          · exact hscore h

/-- A worker has a run whose cleanup failed just when it is contaminated. -/
theorem exists_cleanupFailed_runWorker (worker : RuntimeIdentity) (run : WorkerRun ε)
    (queue : List ScenarioSpec) :
    (∃ execution ∈ (runWorker worker run queue).1, execution.CleanupFailed) ↔
      Contaminates run queue := by
  have hlog := exists_cleanupFailed_runCases worker run.cases 0 queue {}
  unfold runWorker Contaminates
  cases hprepare : run.prepare with
  | error error => exact ⟨nofun, nofun⟩
  | ok _ =>
    rw [← hlog]
    rcases runCases worker run.cases 0 queue {} with ⟨log, outcome⟩
    dsimp only
    cases run.close with
    | error error => exact ⟨fun h => ⟨rfl, h⟩, fun h => h.2⟩
    | ok _ => cases outcome <;> exact ⟨fun h => ⟨rfl, h⟩, fun h => h.2⟩

/-! ## The runtime that is left -/

/-- The runtime is one that the session may use. -/
def Eligible (runtime : RuntimePool) (scenarios : List ScenarioSpec) : Prop :=
  runtime.state = .warm ∧ ¬ runtime.metadata.quarantined ∧ mismatched runtime scenarios = []

/-- If a cleanup failed then the runtime is quarantined, and no later session runs on it. -/
def QuarantineKept
    (outcome : RuntimePool × List Execution × Except String (PoolDispatchResult ε)) : Prop :=
  (∃ execution ∈ outcome.2.1, execution.CleanupFailed) →
    outcome.1.state = .quarantined ∧ outcome.1.metadata.quarantined ∧
    ∀ scenarios (runs : RuntimeIdentity → WorkerRun ε) finish write,
      (executeOnRuntimePool outcome.1 scenarios runs finish write).2.1 = []

variable {runtime : RuntimePool} {runs : RuntimeIdentity → WorkerRun ε}
  {finish : RuntimeIdentity → Nat} {write : Except String Unit}

/-- A runtime that is not eligible runs nothing, and stays as it is. -/
theorem executeOnRuntimePool_of_not_eligible (h : ¬ Eligible runtime scenarios)
    (runs : RuntimeIdentity → WorkerRun ε) (finish : RuntimeIdentity → Nat)
    (write : Except String Unit) :
    ∃ error, executeOnRuntimePool runtime scenarios runs finish write =
      (runtime, [], .error error) := by
  unfold executeOnRuntimePool
  split
  · exact ⟨_, rfl⟩
  · split
    · exact ⟨_, rfl⟩
    · rename_i hstate hscale
      obtain ⟨hwarm, hquarantined⟩ := not_or.mp hstate
      exact absurd ⟨not_not.mp hwarm, hquarantined, not_not.mp hscale⟩ h

variable (write) in
/-- On an eligible runtime the merged summaries decide. -/
theorem executeOnRuntimePool_of_eligible (h : Eligible runtime scenarios) {log : List Execution}
    {outcome : Except String (PoolDispatchResult ε)}
    (hdispatch : dispatchWorkers runtime.workers.items scenarios
      (fun worker => runWorker worker (runs worker)) finish = (log, outcome)) :
    (executeOnRuntimePool runtime scenarios runs finish write).2.1 = log ∧
    (∀ error, outcome = .error error →
      (executeOnRuntimePool runtime scenarios runs finish write).1 = runtime) ∧
    ∀ result, outcome = .ok result →
      (∃ entry ∈ result.scenarios, entry.cleanupFailed = some true ∧ entry.worker ≠ "") →
      (executeOnRuntimePool runtime scenarios runs finish write).1.state = .quarantined ∧
      (executeOnRuntimePool runtime scenarios runs finish write).1.metadata.quarantined := by
  obtain ⟨hwarm, hquarantined, hscale⟩ := h
  unfold executeOnRuntimePool
  rw [if_neg (not_or.mpr ⟨not_not.mpr hwarm, hquarantined⟩), if_neg (not_not.mpr hscale), hdispatch]
  cases outcome with
  | error error => exact ⟨rfl, fun _ _ => rfl, nofun⟩
  | ok result =>
    refine ⟨?_, nofun, ?_⟩
    · dsimp only
      split <;> rfl
    · rintro _ ⟨⟩ ⟨entry, hentry, hfailed⟩
      have hne : ((result.scenarios.filter fun item =>
          item.cleanupFailed = some true ∧ item.worker ≠ "").map (·.worker)).dedup.insertionSort
            (· ≤ ·) ≠ [] := by
        refine List.ne_nil_of_mem (a := entry.worker) ?_
        rw [List.mem_insertionSort, List.mem_dedup]
        exact List.mem_map_of_mem (List.mem_filter.mpr ⟨hentry, decide_eq_true hfailed⟩)
      dsimp only
      rw [if_neg hne]
      exact ⟨rfl, rfl⟩

theorem not_eligible_of_quarantined (h : runtime.state = .quarantined)
    (scenarios : List ScenarioSpec) : ¬ Eligible runtime scenarios := fun heligible => by
  rw [heligible.1] at h
  cases h

theorem quarantineKept_of_quarantined
    {outcome : RuntimePool × List Execution × Except String (PoolDispatchResult ε)}
    (hstate : outcome.1.state = .quarantined) (hmetadata : outcome.1.metadata.quarantined) :
    QuarantineKept outcome := fun _ => by
  refine ⟨hstate, hmetadata, fun scenarios runs finish write => ?_⟩
  obtain ⟨error, h⟩ := executeOnRuntimePool_of_not_eligible
    (not_eligible_of_quarantined hstate scenarios) runs finish write
  rw [h]

theorem exists_cleanupFailed_dispatch {workers : List RuntimeIdentity} (hne : workers ≠ [])
    (scenarios : List ScenarioSpec) (runs : RuntimeIdentity → WorkerRun ε)
    (finish : RuntimeIdentity → Nat) :
    (∃ execution ∈ (dispatchWorkers workers scenarios
      (fun worker => runWorker worker (runs worker)) finish).1, execution.CleanupFailed) ↔
      ∃ worker ∈ workers, Contaminates (runs worker)
        (queueOf (orderWorkers workers) scenarios worker) := by
  rw [dispatchWorkers_eq hne]
  constructor
  · rintro ⟨execution, hmem, hfailed⟩
    obtain ⟨worker, hworker, hmem⟩ := List.mem_flatMap.mp hmem
    refine ⟨worker, mem_orderWorkers.mp hworker, ?_⟩
    exact (exists_cleanupFailed_runWorker worker (runs worker) _).mp ⟨execution, hmem, hfailed⟩
  · rintro ⟨worker, hworker, h⟩
    obtain ⟨execution, hmem, hfailed⟩ := (exists_cleanupFailed_runWorker worker (runs worker) _).mpr h
    exact ⟨execution, List.mem_flatMap.mpr ⟨worker, mem_orderWorkers.mpr hworker, hmem⟩, hfailed⟩

/-- The merge raises when a worker does. -/
theorem dispatchWorkers_error {workers : List RuntimeIdentity} (scenarios : List ScenarioSpec)
    (runs : RuntimeIdentity → WorkerRun ε) (finish : RuntimeIdentity → Nat)
    (hraise : ∃ worker ∈ workers, Raises (runs worker)
      (queueOf (orderWorkers workers) scenarios worker)) :
    ∃ error, (dispatchWorkers workers scenarios (fun worker => runWorker worker (runs worker))
      finish).2 = .error error := by
  obtain ⟨worker, hworker, hraise⟩ := hraise
  rw [dispatchWorkers_eq (List.ne_nil_of_mem hworker)]
  refine mergeResults_error finish ⟨(worker, _), List.mem_map.mpr
    ⟨worker, mem_orderWorkers.mpr hworker, rfl⟩, ?_⟩
  rcases runWorker_cases worker (runs worker) (queueOf (orderWorkers workers) scenarios worker) with
    ⟨log, result, ran, skipped, -, -, h⟩ | ⟨log, error, hrun, -⟩
  · exact absurd hraise h
  · exact ⟨error, by rw [hrun]⟩

theorem Account.exists_entry {ran skipped : List ScenarioSpec} {log : List Execution}
    {entries : List ScenarioSummary} (h : Account worker ran skipped log entries)
    {execution : Execution} (hmem : execution ∈ log) :
    ∃ entry ∈ entries, Reports execution entry := by
  obtain ⟨reports, rfl, hreports⟩ := h.entries_eq
  obtain ⟨entry, hentry, hreport⟩ := hreports.exists_of_mem hmem
  exact ⟨entry, List.mem_append_left _ hentry, hreport⟩

/-- When no worker raises, the merged summary reports the failed cleanups. -/
theorem exists_entry_of_cleanupFailed {workers : Workers} {runs : RuntimeIdentity → WorkerRun ε}
    {finish : RuntimeIdentity → Nat}
    (hraise : ∀ worker ∈ workers.items, ¬ Raises (runs worker)
      (queueOf (orderWorkers workers.items) scenarios worker))
    {log : List Execution} {result : PoolDispatchResult ε}
    (hdispatch : dispatchWorkers workers.items scenarios
      (fun worker => runWorker worker (runs worker)) finish = (log, .ok result))
    (hfailed : ∃ execution ∈ log, execution.CleanupFailed) :
    ∃ entry ∈ result.scenarios, entry.cleanupFailed = some true ∧ entry.worker ≠ "" := by
  obtain ⟨execution, hmem, hfailed⟩ := hfailed
  have hne : workers.items ≠ [] := by
    intro hnil
    unfold dispatchWorkers at hdispatch
    rw [if_pos hnil] at hdispatch
    cases hdispatch
  have haccounted := dispatch_accounting hne workers.ids_nodup workers.indices_nodup scenarios runs
    finish hraise
  rw [hdispatch] at haccounted
  obtain ⟨_, _, ran, skipped, ⟨⟩, haccounted⟩ := haccounted
  rw [dispatchWorkers_eq hne] at hdispatch
  obtain ⟨hlog, -⟩ := Prod.mk.inj hdispatch
  rw [← hlog] at hmem
  obtain ⟨worker, hworker, hrun⟩ := List.mem_flatMap.mp hmem
  rw [hlog] at hmem
  have hworker := mem_orderWorkers.mp hworker
  have hid : execution.workerId = worker.workerId := by
    rcases runWorker_cases worker (runs worker)
      (queueOf (orderWorkers workers.items) scenarios worker) with
      ⟨log, result, ran, skipped, hcase, h, -⟩ | ⟨log, error, -, h⟩
    · rw [hcase] at hrun
      exact h.account.worker_eq execution hrun
    · exact absurd h (hraise worker hworker)
  obtain ⟨entry, hentry, hreport⟩ := (haccounted.account worker hworker).exists_entry
    (List.mem_filter.mpr ⟨hmem, decide_eq_true hid⟩)
  refine ⟨entry, (List.mem_filter.mp hentry).1, ?_, ?_⟩
  · rw [hreport.cleanupFailed, decide_eq_true hfailed]
  · rw [hreport.worker, hid]
    exact workers.ids_ne worker hworker

/-- The quarantine is kept unless, on an eligible runtime, a cleanup fails and a worker raises. -/
theorem quarantineKept_iff (runtime : RuntimePool) (scenarios : List ScenarioSpec)
    (runs : RuntimeIdentity → WorkerRun ε) (finish : RuntimeIdentity → Nat)
    (write : Except String Unit) :
    QuarantineKept (executeOnRuntimePool runtime scenarios runs finish write) ↔
      ¬ (Eligible runtime scenarios ∧
        (∃ worker ∈ runtime.workers.items, Contaminates (runs worker)
          (queueOf (orderWorkers runtime.workers.items) scenarios worker)) ∧
        ∃ worker ∈ runtime.workers.items, Raises (runs worker)
          (queueOf (orderWorkers runtime.workers.items) scenarios worker)) := by
  by_cases heligible : Eligible runtime scenarios
  · rcases hdispatch : dispatchWorkers runtime.workers.items scenarios
      (fun worker => runWorker worker (runs worker)) finish with ⟨log, outcome⟩
    obtain ⟨hlog, herror, hok⟩ :=
      executeOnRuntimePool_of_eligible write heligible hdispatch
    constructor
    · rintro hkept ⟨-, hcontaminates, hraise⟩
      have hfailed := (exists_cleanupFailed_dispatch
        (List.ne_nil_of_mem hraise.choose_spec.1) scenarios runs finish).mpr hcontaminates
      obtain ⟨error, hmerge⟩ := dispatchWorkers_error scenarios runs finish hraise
      rw [hdispatch] at hfailed hmerge
      have hquarantined := (hkept (hlog ▸ hfailed)).1
      rw [herror error hmerge, heligible.1] at hquarantined
      cases hquarantined
    · intro h hfailed
      rw [hlog] at hfailed
      have hne : runtime.workers.items ≠ [] := by
        intro hnil
        unfold dispatchWorkers at hdispatch
        rw [if_pos hnil] at hdispatch
        cases hdispatch
        obtain ⟨_, hmem, -⟩ := hfailed
        cases hmem
      have hcontaminates := exists_cleanupFailed_dispatch hne scenarios runs finish
      rw [hdispatch] at hcontaminates
      have hraise : ∀ worker ∈ runtime.workers.items, ¬ Raises (runs worker)
          (queueOf (orderWorkers runtime.workers.items) scenarios worker) := fun worker hworker h' =>
        h ⟨heligible, hcontaminates.mp hfailed, worker, hworker, h'⟩
      obtain ⟨_, result, _, _, hresult, -⟩ := dispatch_accounting hne runtime.workers.ids_nodup
        runtime.workers.indices_nodup scenarios runs finish hraise
      rw [hdispatch] at hresult
      cases hresult
      have hentry := exists_entry_of_cleanupFailed hraise hdispatch hfailed
      obtain ⟨hstate, hmetadata⟩ := hok result rfl hentry
      exact quarantineKept_of_quarantined hstate hmetadata (hlog ▸ hfailed)
  · obtain ⟨error, h⟩ := executeOnRuntimePool_of_not_eligible heligible runs finish write
    rw [h]
    refine ⟨fun _ h => heligible h.1, fun _ ⟨_, hmem, _⟩ => ?_⟩
    cases hmem

/-! ### A score that raises -/

def warmRuntime : RuntimePool where
  id := "bench"
  name := "bench"
  scale := "xs"
  workers :=
    { items := [firstWorker]
      ids_nodup := by decide
      indices_nodup := by decide
      ids_ne := by decide }
  state := .warm

/-- The cleanup of a case fails, and then its score raises. -/
def unscoredRun : WorkerRun Unit where
  prepare := .ok ()
  cases _ :=
    { callback := .ok ()
      run := .returned { caseValid := some true, success := true, cleanup := some false }
      persist := .ok "result.json"
      score := .error "diagnosis has no verdict" }
  close := .ok ()

def oneScenario : List ScenarioSpec := [firstScenario]

theorem unscored_not_quarantined :
    ¬ QuarantineKept (executeOnRuntimePool warmRuntime oneScenario (fun _ => unscoredRun)
      (·.workerIndex) (.ok ())) := by
  intro h
  have hfailed : ∃ execution ∈ (executeOnRuntimePool warmRuntime oneScenario (fun _ => unscoredRun)
      (·.workerIndex) (.ok ())).2.1, execution.CleanupFailed := by decide
  have hwarm : (executeOnRuntimePool warmRuntime oneScenario (fun _ => unscoredRun)
      (·.workerIndex) (.ok ())).1.state = .warm := by decide
  rw [(h hfailed).1] at hwarm
  cases hwarm

end NetOpsBench.Session
