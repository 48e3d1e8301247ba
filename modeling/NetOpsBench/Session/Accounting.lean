import NetOpsBench.Data.Fallible
import NetOpsBench.Data.Tiling
import NetOpsBench.Session.Dispatch

/-!
# Accounting for the scenarios of a session

When no worker raises, every scenario is run once or skipped once, by the worker that it was dealt
to, and has one entry in the merged summary.

`dispatch_accounting` says so of every list of scenarios and every set of workers, with the counts of the
summary. What one worker does is an `Account` (`runWorker_cases`), and `filter_zipIdx_mod` says which
scenarios it is dealt.
-/

namespace NetOpsBench.Session
open Models NetOpsBench.Runtime Tiling

variable {ε : Type} {worker : RuntimeIdentity} {scenarios : List ScenarioSpec}

/-! ## A worker that raises -/

/-- One of the cases from number `index` on raises. -/
def CasesRaise (cases : Nat → CaseRun ε) (index : Nat) : List ScenarioSpec → Prop
  | [] => False
  | _ :: scenarios =>
    (∃ error, (cases index).callback = .error error) ∨
    match (cases index).run with
    | .raised _ _ => True
    | .returned result =>
      (∃ error, (cases index).persist = .error error) ∨
      (result.isValid ∧ ∃ error, (cases index).score = .error error) ∨
      (result.cleanupSuccess ∧ CasesRaise cases (index + 1) scenarios)

/-- The worker raises: its preparation, a case that it reaches, or its close does. -/
def Raises (run : WorkerRun ε) (queue : List ScenarioSpec) : Prop :=
  (∃ error, run.prepare = .error error) ∨ CasesRaise run.cases 0 queue ∨
    ∃ error, run.close = .error error

/-! ## The account of a worker -/

/-- The summary entry of a run. -/
structure Reports (execution : Execution) (entry : ScenarioSummary) : Prop where
  scenarioId : entry.scenarioId = execution.scenario.scenarioId
  worker : entry.worker = execution.workerId
  status : entry.status ≠ .skippedInfrastructureFailure
  cleanupFailed : entry.cleanupFailed = some (decide execution.CleanupFailed)

/-- The scenarios that a worker ran, in their order, and those that it skipped after a cleanup
failure. -/
structure Account (worker : RuntimeIdentity) (ran skipped : List ScenarioSpec)
    (log : List Execution) (entries : List ScenarioSummary) : Prop where
  log_eq : log.map (·.scenario) = ran
  worker_eq : ∀ execution ∈ log, execution.workerId = worker.workerId
  entries_eq : ∃ reports, entries = reports ++ skipped.map (skippedSummary worker) ∧
    List.Forall₂ Reports log reports
  clean : ∀ execution ∈ log.dropLast, ¬ execution.CleanupFailed
  stopped : skipped ≠ [] → ∃ execution ∈ log.getLast?, execution.CleanupFailed

theorem finishCase_eq (worker : RuntimeIdentity) (scenario : ScenarioSpec) (case : CaseRun ε)
    (result : ScenarioResult) (state : LoopState ε) :
    (∃ next path, finishCase worker scenario case result state = .ok next ∧
      next.summaries = state.summaries ++ [runSummary worker scenario result path] ∧
      next.executed = state.executed + 1 ∧ (∀ error, case.persist ≠ .error error) ∧
      ¬ (result.isValid ∧ ∃ error, case.score = .error error)) ∨
    ((∃ error, finishCase worker scenario case result state = .error error) ∧
      ((∃ error, case.persist = .error error) ∨
        (result.isValid ∧ ∃ error, case.score = .error error))) := by
  unfold finishCase
  cases hpersist : case.persist with
  | error error => exact .inr ⟨⟨error, rfl⟩, .inl ⟨error, rfl⟩⟩
  | ok path =>
    dsimp only
    by_cases hvalid : result.isValid
    · rw [if_pos hvalid]
      cases hscore : case.score with
      | error error => exact .inr ⟨⟨error, rfl⟩, .inr ⟨hvalid, error, rfl⟩⟩
      | ok scored => exact .inl ⟨_, path, rfl, rfl, rfl, nofun, fun ⟨_, _, h⟩ => nomatch h⟩
    · rw [if_neg hvalid]
      exact .inl ⟨_, path, rfl, rfl, rfl, nofun, fun h => hvalid h.1⟩

theorem reports_runSummary (worker : RuntimeIdentity) (scenario : ScenarioSpec)
    (result : ScenarioResult) (path : String) :
    Reports { workerId := worker.workerId, scenario, cleanup := some result.cleanupSuccess }
      (runSummary worker scenario result path) where
  scenarioId := rfl
  worker := rfl
  status := by
    unfold runSummary
    dsimp only
    split
    · nofun
    · split <;> nofun
  cleanupFailed := by
    cases hcleanup : result.cleanupSuccess <;>
      simp [runSummary, Execution.CleanupFailed, hcleanup]

/-- The account of a worker that goes on after a clean run. -/
theorem Account.cons {ran skipped : List ScenarioSpec} {log : List Execution}
    {entries : List ScenarioSummary} (h : Account worker ran skipped log entries)
    {execution : Execution} {entry : ScenarioSummary}
    (hworker : execution.workerId = worker.workerId) (hclean : ¬ execution.CleanupFailed)
    (hentry : Reports execution entry) :
    Account worker (execution.scenario :: ran) skipped (execution :: log) (entry :: entries) where
  log_eq := by rw [List.map_cons, h.log_eq]
  worker_eq := List.forall_mem_cons.mpr ⟨hworker, h.worker_eq⟩
  entries_eq := by
    obtain ⟨reports, hentries, hreports⟩ := h.entries_eq
    exact ⟨entry :: reports, by rw [hentries, List.cons_append], .cons hentry hreports⟩
  clean := by
    cases log with
    | nil => nofun
    | cons next log =>
      rw [List.dropLast_cons_cons]
      exact List.forall_mem_cons.mpr ⟨hclean, h.clean⟩
  stopped hskipped := by
    obtain ⟨last, hlast, hfailed⟩ := h.stopped hskipped
    cases log with
    | nil => cases hlast
    | cons next log => exact ⟨last, by rwa [List.getLast?_cons_cons], hfailed⟩

/-- A loop either raises, and one of its cases does, or it accounts for its whole queue. -/
theorem runCases_cases (worker : RuntimeIdentity) (cases : Nat → CaseRun ε) (index : Nat)
    (queue : List ScenarioSpec) (state : LoopState ε) :
    (∃ log next ran skipped entries, runCases worker cases index queue state = (log, .ok next) ∧
      queue = ran ++ skipped ∧ Account worker ran skipped log entries ∧
      next.summaries = state.summaries ++ entries ∧ next.executed = state.executed + ran.length ∧
      ¬ CasesRaise cases index queue) ∨
    (∃ log error, runCases worker cases index queue state = (log, .error error) ∧
      CasesRaise cases index queue) := by
  induction queue generalizing index state with
  | nil =>
    refine .inl ⟨[], state, [], [], [], rfl, rfl, ?_, (List.append_nil _).symm, rfl, id⟩
    exact ⟨rfl, nofun, ⟨[], rfl, .nil⟩, nofun, fun h => absurd rfl h⟩
  | cons scenario queue ih =>
    rw [runCases, CasesRaise]
    cases hcallback : (cases index).callback with
    | error error => exact .inr ⟨_, error, rfl, .inl ⟨error, rfl⟩⟩
    | ok _ =>
      cases hrun : (cases index).run with
      | raised error cleanup => exact .inr ⟨_, error, rfl, .inr trivial⟩
      | returned result =>
        dsimp only
        rcases finishCase_eq worker scenario (cases index) result state with
          ⟨next, path, hfinish, hsummaries, hexecuted, hpersist, hscore⟩ | ⟨⟨error, hfinish⟩, hfails⟩
        · rw [hfinish]
          dsimp only
          have hreport := reports_runSummary worker scenario result path
          by_cases hcleanup : result.cleanupSuccess
          · rw [if_pos hcleanup]
            rcases ih (index + 1) next with ⟨log, last, ran, skipped, entries, hrest, hqueue, haccount,
              hentries, hcount, hraise⟩ | ⟨log, error, hrest, hraise⟩
            · rw [hrest]
              have hclean : ¬ Execution.CleanupFailed
                  { workerId := worker.workerId, scenario, cleanup := some result.cleanupSuccess } := by
                simp [Execution.CleanupFailed, hcleanup]
              refine .inl ⟨_, last, scenario :: ran, skipped, _, rfl, by rw [hqueue]; rfl,
                haccount.cons rfl hclean hreport, ?_, ?_, ?_⟩
              · rw [hentries, hsummaries, List.append_assoc]
                rfl
              · rw [hcount, hexecuted, List.length_cons, Nat.add_assoc, Nat.add_comm 1]
              · rintro (⟨error, h⟩ | ⟨error, h⟩ | h | ⟨-, h⟩)
                · cases h
                · exact hpersist error h
                · exact hscore h
                · exact hraise h
            · rw [hrest]
              exact .inr ⟨_, error, rfl, .inr (.inr (.inr ⟨hcleanup, hraise⟩))⟩
          · rw [if_neg hcleanup]
            refine .inl ⟨_, _, [scenario], queue, [runSummary worker scenario result path] ++
              queue.map (skippedSummary worker), rfl, rfl, ?_, ?_, hexecuted, ?_⟩
            · refine ⟨rfl, List.forall_mem_singleton.mpr rfl, ⟨_, rfl, .cons hreport .nil⟩, nofun,
                fun _ => ⟨_, rfl, ?_⟩⟩
              simpa [Execution.CleanupFailed] using hcleanup
            · show next.summaries ++ queue.map (skippedSummary worker) = _
              rw [hsummaries, List.append_assoc]
            · rintro (⟨error, h⟩ | ⟨error, h⟩ | h | ⟨h, -⟩)
              · cases h
              · exact hpersist error h
              · exact hscore h
              · exact hcleanup h
        · rw [hfinish]
          refine .inr ⟨_, error, rfl, .inr ?_⟩
          rcases hfails with h | h
          · exact .inl h
          · exact .inr (.inl h)

/-- The result of a worker that does not raise. -/
structure WorkerAccounted (worker : RuntimeIdentity) (queue ran skipped : List ScenarioSpec)
    (log : List Execution) (result : WorkerRunResult ε) : Prop where
  queue_eq : queue = ran ++ skipped
  account : Account worker ran skipped log result.scenarios
  workerId : result.summary.workerId = worker.workerId
  scenarioCount : result.summary.scenarioCount = queue.length
  executedCount : result.summary.executedCount = ran.length
  skippedCount : result.summary.skippedCount = skipped.length

/-- A worker that does not raise accounts for its queue. -/
theorem runWorker_cases (worker : RuntimeIdentity) (run : WorkerRun ε) (queue : List ScenarioSpec) :
    (∃ log result ran skipped, runWorker worker run queue = (log, .ok result) ∧
      WorkerAccounted worker queue ran skipped log result ∧ ¬ Raises run queue) ∨
    (∃ log error, runWorker worker run queue = (log, .error error) ∧ Raises run queue) := by
  unfold runWorker Raises
  cases hprepare : run.prepare with
  | error error => exact .inr ⟨[], error, rfl, .inl ⟨error, rfl⟩⟩
  | ok _ =>
    dsimp only
    cases hclose : run.close with
    | error error => exact .inr ⟨_, error, rfl, .inr (.inr ⟨error, rfl⟩)⟩
    | ok _ =>
      rcases runCases_cases worker run.cases 0 queue {} with ⟨log, next, ran, skipped, entries, hcases,
        hqueue, haccount, hentries, hcount, hraise⟩ | ⟨log, error, hcases, hraise⟩
      · rw [hcases]
        have hexecuted : next.executed = ran.length := hcount.trans (Nat.zero_add _)
        refine .inl ⟨log, _, ran, skipped, rfl, ⟨hqueue, ?_, rfl, rfl, hexecuted, ?_⟩, ?_⟩
        · dsimp only
          rwa [hentries, List.nil_append]
        · dsimp only
          rw [hexecuted, hqueue, List.length_append, Nat.add_sub_cancel_left]
        · rintro (⟨error, h⟩ | h | ⟨error, h⟩)
          · cases h
          · exact hraise h
          · cases h
      · rw [hcases]
        exact .inr ⟨log, error, rfl, .inr (.inl hraise)⟩

/-! ## Dealing the scenarios -/

/-- The indices of a list that agree with `start + skip` modulo `k` are those of a traversal. -/
theorem filter_zipIdx_mod {α : Type} {k : Nat} (items : List α) (start skip : Nat) (hskip : skip < k) :
    ((items.zipIdx start).filter (fun item => item.2 % k = (start + skip) % k)).map (·.1) =
      stepFrom k skip items := by
  induction items generalizing start skip with
  | nil => rw [stepFrom_nil]; rfl
  | cons item items ih =>
    rw [List.zipIdx_cons, List.filter_cons]
    cases skip with
    | zero =>
      have hwrap : (start + 1 + (k - 1)) % k = (start + 0) % k := by
        rw [show start + 1 + (k - 1) = start + k by omega, Nat.add_mod_right, Nat.add_zero]
      have hrest := ih (start + 1) (k - 1) (by omega)
      rw [hwrap] at hrest
      rw [if_pos (by simp), List.map_cons, hrest]
      rfl
    | succ skip =>
      have hne : start % k ≠ (start + (skip + 1)) % k := fun h => by
        have hmod : start + 0 ≡ start + (skip + 1) [MOD k] := h
        have hzero := (Nat.ModEq.add_left_cancel' start hmod).symm
        rw [Nat.ModEq, Nat.zero_mod, Nat.mod_eq_of_lt hskip] at hzero
        omega
      rw [if_neg (by simpa using hne), ← add_assoc, Nat.add_right_comm]
      exact ih (start + 1) skip (by omega)

theorem lookup_ofItems_const (ids : List String) (id : String) :
    ((Dict.ofItems (ids.map fun id => (id, ([] : List ScenarioSpec)))).lookup id).getD [] = [] := by
  rw [Dict.lookup_ofItems]
  cases hlast : ((ids.map fun id => (id, ([] : List ScenarioSpec))).filter (·.1 = id)).getLast? with
  | none => rfl
  | some item =>
    have hmem := (List.mem_filter.mp (List.mem_of_getLast? hlast)).1
    obtain ⟨other, -, rfl⟩ := List.mem_map.mp hmem
    rfl

/-- The worker at a position is dealt the scenarios whose indices agree with its own. -/
theorem lookup_assign {workers : List RuntimeIdentity} (hids : (workers.map (·.workerId)).Nodup)
    {position : Nat} (hposition : workers[position]? = some worker)
    (items : List (ScenarioSpec × Nat)) :
    ((items.foldl (assignScenario workers)
        (.ofItems (workers.map fun worker => (worker.workerId, [])))).lookup worker.workerId).getD
      [] = (items.filter fun item => item.2 % workers.length = position).map (·.1) := by
  obtain ⟨hlt, hget⟩ := List.getElem?_eq_some_iff.mp hposition
  induction items using List.reverseRecOn with
  | nil =>
    have hconst := lookup_ofItems_const (workers.map (·.workerId)) worker.workerId
    rw [List.map_map] at hconst
    exact hconst
  | append_singleton items item ih =>
    obtain ⟨scenario, index⟩ := item
    have hmod : index % workers.length < workers.length := Nat.mod_lt _ (Nat.zero_lt_of_lt hlt)
    rw [List.foldl_append, List.foldl_cons, List.foldl_nil, List.filter_append, List.map_append,
      assignScenario, List.getElem?_eq_getElem hmod]
    dsimp only
    by_cases hsame : index % workers.length = position
    · have hid : workers[index % workers.length].workerId = worker.workerId := by
        rw [← hget]
        congr 2
      rw [hid, AList.lookup_insert, Option.getD_some, ih]
      simp [hsame]
    · have hid : worker.workerId ≠ workers[index % workers.length].workerId := fun h => by
        rw [← hget] at h
        have hinj := (List.nodup_iff_injective_getElem.mp hids)
        have heq : (⟨position, by simpa using hlt⟩ : Fin (workers.map (·.workerId)).length) =
            ⟨index % workers.length, by simpa using hmod⟩ := hinj (by simpa using h)
        exact hsame (Fin.mk.inj heq).symm
      rw [AList.lookup_insert_ne hid, ih]
      simp [hsame]

/-- The scenarios that are dealt to a worker. -/
def queueOf (workers : List RuntimeIdentity) (scenarios : List ScenarioSpec)
    (worker : RuntimeIdentity) : List ScenarioSpec :=
  match assignScenariosToWorkers scenarios workers with
  | .ok assignments => (assignments.lookup worker.workerId).getD []
  | .error _ => []

/-- The queue of a worker is every so many scenarios, from its own position on. -/
theorem queueOf_eq {workers : List RuntimeIdentity} (hids : (workers.map (·.workerId)).Nodup)
    {position : Nat} (hposition : workers[position]? = some worker) :
    queueOf workers scenarios worker = stepFrom workers.length position scenarios := by
  have hlt := (List.getElem?_eq_some_iff.mp hposition).1
  have hne : workers ≠ [] := by
    rintro rfl
    cases hlt
  rw [queueOf, assignScenariosToWorkers, if_neg hne]
  dsimp only
  rw [lookup_assign hids hposition, ← filter_zipIdx_mod scenarios 0 position hlt, Nat.zero_add,
    Nat.mod_eq_of_lt hlt]

theorem map_queueOf {workers : List RuntimeIdentity} (hids : (workers.map (·.workerId)).Nodup) :
    workers.map (queueOf workers scenarios) =
      (List.range workers.length).map fun position => stepFrom workers.length position scenarios := by
  refine List.ext_getElem (by simp) fun position hlt _ => ?_
  rw [List.getElem_map, List.getElem_map, List.getElem_range]
  exact queueOf_eq hids (List.getElem?_eq_getElem _)

/-- The queues of the workers are a partition of the scenarios. -/
theorem flatMap_queueOf_perm {workers : List RuntimeIdentity} (hne : workers ≠ [])
    (hids : (workers.map (·.workerId)).Nodup) :
    (workers.flatMap (queueOf workers scenarios)).Perm scenarios := by
  rw [List.flatMap_def, map_queueOf hids, ← List.flatMap_def]
  exact flatMap_stepFrom_perm (List.length_pos_iff.mpr hne) scenarios

theorem stepFrom_sublist {α : Type} (k skip : Nat) (items : List α) :
    (stepFrom k skip items).Sublist items := by
  induction items generalizing skip with
  | nil => rw [stepFrom_nil]
  | cons item items ih =>
    cases skip with
    | zero => exact (ih (k - 1)).cons_cons item
    | succ skip => exact (ih skip).cons item

/-! ## The pool -/

theorem mem_orderWorkers {workers : List RuntimeIdentity} :
    worker ∈ orderWorkers workers ↔ worker ∈ workers := List.mem_insertionSort _

theorem orderWorkers_perm (workers : List RuntimeIdentity) :
    (orderWorkers workers).Perm workers := List.perm_insertionSort _ _

theorem orderWorkers_ne_nil {workers : List RuntimeIdentity} (h : workers ≠ []) :
    orderWorkers workers ≠ [] := fun hnil =>
  h (List.perm_nil.mp (hnil ▸ (orderWorkers_perm workers).symm))

theorem orderWorkers_map_nodup {α : Type} {f : RuntimeIdentity → α} {workers : List RuntimeIdentity}
    (h : (workers.map f).Nodup) : ((orderWorkers workers).map f).Nodup :=
  ((orderWorkers_perm workers).map f).nodup_iff.mpr h

/-- The workers run their queues, and the results are merged. -/
theorem dispatchWorkers_eq {workers : List RuntimeIdentity} (hne : workers ≠ [])
    (scenarios : List ScenarioSpec)
    (runWorker : RuntimeIdentity → List ScenarioSpec →
      List Execution × Except String (WorkerRunResult ε)) (finish : RuntimeIdentity → Nat) :
    dispatchWorkers workers scenarios runWorker finish =
      ((orderWorkers workers).flatMap fun worker =>
          (runWorker worker (queueOf (orderWorkers workers) scenarios worker)).1,
        mergeResults (orderWorkers workers) finish ((orderWorkers workers).map fun worker =>
          (worker, (runWorker worker (queueOf (orderWorkers workers) scenarios worker)).2))) := by
  unfold dispatchWorkers queueOf assignScenariosToWorkers
  rw [if_neg hne, if_neg (orderWorkers_ne_nil hne)]
  dsimp only
  rw [List.flatMap_map, List.map_map]
  rfl

/-- What the results of workers that did not raise are merged to. -/
def merged (workers : List RuntimeIdentity) (results : RuntimeIdentity → WorkerRunResult ε) :
    PoolDispatchResult ε where
  evaluations := workers.flatMap fun worker => (results worker).evaluations
  scenarios := workers.flatMap fun worker => (results worker).scenarios
  workers := workers.map fun worker => (results worker).summary

/-- Without errors the merge concatenates in the order of the workers. -/
theorem mergeResults_ok {workers : List RuntimeIdentity}
    (hindices : (workers.map (·.workerIndex)).Nodup) (finish : RuntimeIdentity → Nat)
    (results : RuntimeIdentity → WorkerRunResult ε) :
    mergeResults workers finish (workers.map fun worker => (worker, .ok (results worker))) =
      .ok (merged workers results) := by
  unfold mergeResults merged
  set completed := (workers.map fun worker => (worker, Except.ok (ε := String) (results worker)))
    |>.insertionSort fun a b => finish a.1 ≤ finish b.1
  have hperm : completed.Perm (workers.map fun worker => (worker, .ok (results worker))) :=
    List.perm_insertionSort _ _
  have hloop : completed.mapM (fun run => run.2.map fun result => (run.1.workerIndex, result)) =
      .ok (completed.map fun run => (run.1.workerIndex, results run.1)) := by
    refine Except.mapM_of_forall fun run hrun => ?_
    obtain ⟨worker, -, rfl⟩ := List.mem_map.mp (hperm.mem_iff.mp hrun)
    rfl
  have hitems : (completed.map fun run => (run.1.workerIndex, results run.1)).Perm
      (workers.map fun worker => (worker.workerIndex, results worker)) := by
    have h := hperm.map fun run => (run.1.workerIndex, results run.1)
    rwa [List.map_map] at h
  have hkeys : ((completed.map fun run => (run.1.workerIndex, results run.1)).map (·.1)).Nodup := by
    rw [(hitems.map _).nodup_iff, List.map_map]
    exact hindices
  have hmerged : (workers.filterMap fun worker =>
      (Dict.ofItems (completed.map fun run => (run.1.workerIndex, results run.1))).lookup
        worker.workerIndex) = workers.map results := by
    refine (List.filterMap_congr fun worker hworker => ?_).trans
      (congrFun (List.filterMap_eq_map (f := results)) workers)
    refine Dict.lookup_ofItems_of_mem hkeys (hitems.mem_iff.mpr ?_)
    exact List.mem_map.mpr ⟨worker, hworker, rfl⟩
  dsimp only
  rw [hloop]
  show Except.ok _ = _
  rw [hmerged, List.flatMap_map, List.flatMap_map, List.map_map]
  rfl

theorem mergeResults_error {workers : List RuntimeIdentity} (finish : RuntimeIdentity → Nat)
    {runs : List (RuntimeIdentity × Except String (WorkerRunResult ε))}
    (h : ∃ run ∈ runs, ∃ error, run.2 = .error error) :
    ∃ error, mergeResults workers finish runs = .error error := by
  obtain ⟨run, hmem, error, hrun⟩ := h
  obtain ⟨error, hloop⟩ : ∃ error, (runs.insertionSort fun a b => finish a.1 ≤ finish b.1).mapM
      (fun run => run.2.map fun result => (run.1.workerIndex, result)) = .error error :=
    Except.mapM_eq_error ⟨run, (List.mem_insertionSort _).mpr hmem, error, by rw [hrun]; rfl⟩
  refine ⟨error, ?_⟩
  unfold mergeResults
  dsimp only
  rw [hloop]
  rfl

/-- The part of one key in a list that goes through distinct keys. -/
theorem filter_flatMap_key {α β κ : Type} [DecidableEq κ] {key : α → κ} {tag : β → κ}
    {part : α → List β} {items : List α} (hkeys : (items.map key).Nodup)
    (htag : ∀ item ∈ items, ∀ b ∈ part item, tag b = key item) {item : α} (hmem : item ∈ items) :
    (items.flatMap part).filter (fun b => tag b = key item) = part item := by
  induction items with
  | nil => cases hmem
  | cons head items ih =>
    rw [List.map_cons, List.nodup_cons] at hkeys
    obtain ⟨hhead, htail⟩ := List.forall_mem_cons.mp htag
    rw [List.flatMap_cons, List.filter_append]
    rcases List.mem_cons.mp hmem with rfl | hmem
    · have hrest : (items.flatMap part).filter (fun b => tag b = key item) = [] := by
        rw [List.filter_eq_nil_iff]
        intro b hb htagb
        obtain ⟨other, hother, hb⟩ := List.mem_flatMap.mp hb
        refine hkeys.1 (List.mem_map.mpr ⟨other, hother, ?_⟩)
        exact (htail other hother b hb).symm.trans (of_decide_eq_true htagb)
      rw [hrest, List.append_nil, List.filter_eq_self]
      exact fun b hb => decide_eq_true (hhead b hb)
    · have hskip : (part head).filter (fun b => tag b = key item) = [] := by
        rw [List.filter_eq_nil_iff]
        intro b hb htagb
        refine hkeys.1 (List.mem_map.mpr ⟨item, hmem, ?_⟩)
        exact (of_decide_eq_true htagb).symm.trans (hhead b hb)
      rw [hskip, List.nil_append]
      exact ih hkeys.2 htail hmem

theorem Account.worker_entries {ran skipped : List ScenarioSpec} {log : List Execution}
    {entries : List ScenarioSummary} (h : Account worker ran skipped log entries) :
    ∀ entry ∈ entries, entry.worker = worker.workerId := by
  obtain ⟨reports, rfl, hreports⟩ := h.entries_eq
  have hworker := h.worker_eq
  refine List.forall_mem_append.mpr ⟨?_, ?_⟩
  · clear h
    induction hreports with
    | nil => nofun
    | cons hreport _ ih =>
      obtain ⟨hhead, htail⟩ := List.forall_mem_cons.mp hworker
      exact List.forall_mem_cons.mpr ⟨hreport.worker.trans hhead, ih htail⟩
  · exact List.forall_mem_map.mpr fun _ _ => rfl

/-- The entries name the scenarios of the queue, one each. -/
theorem Account.entries_ids {ran skipped : List ScenarioSpec} {log : List Execution}
    {entries : List ScenarioSummary} (h : Account worker ran skipped log entries) :
    entries.map (·.scenarioId) = (ran ++ skipped).map (·.scenarioId) := by
  obtain ⟨reports, rfl, hreports⟩ := h.entries_eq
  rw [List.map_append, List.map_append, ← h.log_eq, List.map_map, List.map_map]
  congr 1
  clear h
  induction hreports with
  | nil => rfl
  | cons hreport _ ih => rw [List.map_cons, List.map_cons, ih, hreport.scenarioId]; rfl

/-- What the merged result of a session accounts for. Each worker ran the scenarios `ran` and
skipped `skipped`. -/
structure Accounted (workers : List RuntimeIdentity) (scenarios : List ScenarioSpec)
    (log : List Execution) (result : PoolDispatchResult ε)
    (ran skipped : RuntimeIdentity → List ScenarioSpec) : Prop where
  once : ((orderWorkers workers).flatMap fun worker => ran worker ++ skipped worker).Perm scenarios
  log_eq : log.map (·.scenario) = (orderWorkers workers).flatMap ran
  inOrder : ∀ worker ∈ workers, (ran worker ++ skipped worker).Sublist scenarios
  account : ∀ worker ∈ workers, Account worker (ran worker) (skipped worker)
    (log.filter fun execution => execution.workerId = worker.workerId)
    (result.scenarios.filter fun entry => entry.worker = worker.workerId)
  entries : (result.scenarios.map (·.scenarioId)).Perm (scenarios.map (·.scenarioId))
  summaries : List.Forall₂ (fun worker summary => summary.workerId = worker.workerId ∧
      summary.executedCount = (ran worker).length ∧
      summary.skippedCount = (skipped worker).length) (orderWorkers workers) result.workers
  total : (result.workers.map fun summary => summary.executedCount + summary.skippedCount).sum =
    scenarios.length

/-- A worker that does not raise accounts for its queue. -/
theorem exists_accounted {workers : List RuntimeIdentity} {scenarios : List ScenarioSpec}
    {runs : RuntimeIdentity → WorkerRun ε}
    (hraise : ∀ worker ∈ workers,
      ¬ Raises (runs worker) (queueOf (orderWorkers workers) scenarios worker)) :
    ∃ (logs : RuntimeIdentity → List Execution) (results : RuntimeIdentity → WorkerRunResult ε)
      (ran skipped : RuntimeIdentity → List ScenarioSpec), ∀ worker ∈ workers,
      runWorker worker (runs worker) (queueOf (orderWorkers workers) scenarios worker) =
          (logs worker, .ok (results worker)) ∧
        WorkerAccounted worker (queueOf (orderWorkers workers) scenarios worker) (ran worker)
          (skipped worker) (logs worker) (results worker) := by
  have hruns : ∀ worker ∈ workers, ∃ log result ran skipped,
      runWorker worker (runs worker) (queueOf (orderWorkers workers) scenarios worker) =
        (log, .ok result) ∧
      WorkerAccounted worker (queueOf (orderWorkers workers) scenarios worker) ran skipped log
        result := by
    intro worker hworker
    rcases runWorker_cases worker (runs worker)
      (queueOf (orderWorkers workers) scenarios worker) with
      ⟨log, result, ran, skipped, hrun, haccounted, -⟩ | ⟨log, error, -, h⟩
    · exact ⟨log, result, ran, skipped, hrun, haccounted⟩
    · exact absurd h (hraise worker hworker)
  choose! logs results ran skipped hruns using hruns
  exact ⟨logs, results, ran, skipped, hruns⟩

/-- When no worker raises, the pool logs what the workers log, and merges their results. -/
theorem dispatchWorkers_eq_ok {workers : List RuntimeIdentity} (hne : workers ≠ [])
    (hindices : (workers.map (·.workerIndex)).Nodup) {scenarios : List ScenarioSpec}
    {runWorker : RuntimeIdentity → List ScenarioSpec →
      List Execution × Except String (WorkerRunResult ε)} {logs : RuntimeIdentity → List Execution}
    {results : RuntimeIdentity → WorkerRunResult ε}
    (hrun : ∀ worker ∈ workers, runWorker worker (queueOf (orderWorkers workers) scenarios worker) =
      (logs worker, .ok (results worker))) (finish : RuntimeIdentity → Nat) :
    dispatchWorkers workers scenarios runWorker finish =
      ((orderWorkers workers).flatMap logs, .ok (merged (orderWorkers workers) results)) := by
  have hlogs : ((orderWorkers workers).flatMap fun worker =>
      (runWorker worker (queueOf (orderWorkers workers) scenarios worker)).1) =
      (orderWorkers workers).flatMap logs :=
    List.flatMap_congr fun worker hworker => by rw [hrun worker (mem_orderWorkers.mp hworker)]
  have hresults : ((orderWorkers workers).map fun worker => (worker,
      (runWorker worker (queueOf (orderWorkers workers) scenarios worker)).2)) =
      (orderWorkers workers).map fun worker => (worker, .ok (results worker)) :=
    List.map_congr_left fun worker hworker => by rw [hrun worker (mem_orderWorkers.mp hworker)]
  rw [dispatchWorkers_eq hne, hlogs, hresults, mergeResults_ok (orderWorkers_map_nodup hindices)]

section Merged
variable {workers : List RuntimeIdentity} {scenarios : List ScenarioSpec}
  {logs : RuntimeIdentity → List Execution} {results : RuntimeIdentity → WorkerRunResult ε}
  {ran skipped : RuntimeIdentity → List ScenarioSpec}

/-- What the workers ran and skipped is a partition of the scenarios. -/
theorem flatMap_queue_perm (hne : workers ≠ []) (hids : (workers.map (·.workerId)).Nodup)
    (haccounted : ∀ worker ∈ workers,
      WorkerAccounted worker (queueOf (orderWorkers workers) scenarios worker) (ran worker)
        (skipped worker) (logs worker) (results worker)) :
    ((orderWorkers workers).flatMap fun worker => ran worker ++ skipped worker).Perm scenarios := by
  have hqueues : (orderWorkers workers).flatMap (queueOf (orderWorkers workers) scenarios) =
      (orderWorkers workers).flatMap fun worker => ran worker ++ skipped worker :=
    List.flatMap_congr fun worker hworker =>
      (haccounted worker (mem_orderWorkers.mp hworker)).queue_eq
  exact hqueues ▸ flatMap_queueOf_perm (orderWorkers_ne_nil hne) (orderWorkers_map_nodup hids)

/-- The part of one worker in the merged result is what it accounts for by itself. -/
theorem account_merged (hids : (workers.map (·.workerId)).Nodup)
    (haccounted : ∀ worker ∈ workers,
      WorkerAccounted worker (queueOf (orderWorkers workers) scenarios worker) (ran worker)
        (skipped worker) (logs worker) (results worker))
    {worker : RuntimeIdentity} (hworker : worker ∈ workers) :
    Account worker (ran worker) (skipped worker)
      (((orderWorkers workers).flatMap logs).filter
        fun execution => execution.workerId = worker.workerId)
      ((merged (orderWorkers workers) results).scenarios.filter
        fun entry => entry.worker = worker.workerId) := by
  have hordered := orderWorkers_map_nodup hids
  have hmem := mem_orderWorkers.mpr hworker
  have hlog : ((orderWorkers workers).flatMap logs).filter
      (fun execution => execution.workerId = worker.workerId) = logs worker :=
    filter_flatMap_key hordered (fun worker hworker =>
      (haccounted worker (mem_orderWorkers.mp hworker)).account.worker_eq) hmem
  have hentries : (merged (orderWorkers workers) results).scenarios.filter
      (fun entry => entry.worker = worker.workerId) = (results worker).scenarios :=
    filter_flatMap_key hordered (fun worker hworker =>
      (haccounted worker (mem_orderWorkers.mp hworker)).account.worker_entries) hmem
  rw [hlog, hentries]
  exact (haccounted worker hworker).account

/-- What the workers account for adds up to an account of the pool. -/
theorem accounted_merged (hne : workers ≠ []) (hids : (workers.map (·.workerId)).Nodup)
    (haccounted : ∀ worker ∈ workers,
      WorkerAccounted worker (queueOf (orderWorkers workers) scenarios worker) (ran worker)
        (skipped worker) (logs worker) (results worker)) :
    Accounted workers scenarios ((orderWorkers workers).flatMap logs)
      (merged (orderWorkers workers) results) ran skipped where
  once := flatMap_queue_perm hne hids haccounted
  log_eq := by
    rw [List.map_flatMap]
    exact List.flatMap_congr fun worker hworker =>
      (haccounted worker (mem_orderWorkers.mp hworker)).account.log_eq
  inOrder worker hworker := by
    obtain ⟨position, hposition⟩ := List.mem_iff_getElem?.mp (mem_orderWorkers.mpr hworker)
    rw [← (haccounted worker hworker).queue_eq, queueOf_eq (orderWorkers_map_nodup hids) hposition]
    exact stepFrom_sublist _ _ _
  account _ hworker := account_merged hids haccounted hworker
  entries := by
    refine List.Perm.trans ?_ ((flatMap_queue_perm hne hids haccounted).map (·.scenarioId))
    rw [merged, List.map_flatMap, List.map_flatMap]
    refine List.Perm.of_eq (List.flatMap_congr fun worker hworker => ?_)
    exact (haccounted worker (mem_orderWorkers.mp hworker)).account.entries_ids
  summaries := by
    rw [merged, List.forall₂_map_right_iff, List.forall₂_same]
    intro worker hworker
    have haccount := haccounted worker (mem_orderWorkers.mp hworker)
    exact ⟨haccount.workerId, haccount.executedCount, haccount.skippedCount⟩
  total := by
    rw [← (flatMap_queue_perm hne hids haccounted).length_eq, List.length_flatMap, merged,
      List.map_map]
    refine congrArg List.sum (List.map_congr_left fun worker hworker => ?_)
    have haccount := haccounted worker (mem_orderWorkers.mp hworker)
    rw [Function.comp_apply, haccount.executedCount, haccount.skippedCount, List.length_append]

end Merged

/-- When no worker raises, every scenario is run or skipped once and has one entry. -/
theorem dispatch_accounting {workers : List RuntimeIdentity} (hne : workers ≠ [])
    (hids : (workers.map (·.workerId)).Nodup) (hindices : (workers.map (·.workerIndex)).Nodup)
    (scenarios : List ScenarioSpec) (runs : RuntimeIdentity → WorkerRun ε)
    (finish : RuntimeIdentity → Nat)
    (hraise : ∀ worker ∈ workers,
      ¬ Raises (runs worker) (queueOf (orderWorkers workers) scenarios worker)) :
    ∃ log result ran skipped,
      dispatchWorkers workers scenarios (fun worker => runWorker worker (runs worker)) finish =
        (log, .ok result) ∧
      Accounted workers scenarios log result ran skipped := by
  obtain ⟨logs, results, ran, skipped, hruns⟩ := exists_accounted hraise
  exact ⟨_, _, ran, skipped,
    dispatchWorkers_eq_ok hne hindices (fun worker hworker => (hruns worker hworker).1) finish,
    accounted_merged hne hids fun worker hworker => (hruns worker hworker).2⟩

/-! ### Two workers -/

def poolWorker (index : Nat) (hindex : 1 ≤ index) (workerId : String) : RuntimeIdentity where
  runtimeId := "bench"
  workerId
  workerIndex := index
  labName := "bench"
  bucket := "network_data_bench"
  mgmtSubnet := "172.20.20.0/24"
  mgmtNetwork := "clab-mgmt-bench"
  workerIndex_pos := hindex

def firstWorker : RuntimeIdentity := poolWorker 1 le_rfl "worker-1"

def twoWorkers : List RuntimeIdentity :=
  [firstWorker, poolWorker 2 (by decide) "worker-2"]

def benchScenario (scenarioId : String) (h : scenarioId ≠ "") : ScenarioSpec where
  scenarioId
  name := "Link down"
  episode := { episodeId := "ep1" }
  scenarioId_ne := h

def firstScenario : ScenarioSpec := benchScenario "s1" (by decide)

def threeScenarios : List ScenarioSpec :=
  [firstScenario, benchScenario "s2" (by decide), benchScenario "s3" (by decide)]

/-- A worker on which the cleanup of the first case fails. -/
def dirtyRun : WorkerRun Unit where
  prepare := .ok ()
  cases index :=
    { callback := .ok ()
      run := .returned { caseValid := some true, success := true, cleanup := some (index ≠ 0) }
      persist := .ok "result.json"
      score := .ok [()] }
  close := .ok ()

theorem dirtyRun_not_raises (queue : List ScenarioSpec) : ¬ Raises dirtyRun queue := by
  have hcases : ∀ index, ¬ CasesRaise dirtyRun.cases index queue := by
    induction queue with
    | nil => exact fun _ => id
    | cons _ queue ih =>
      rintro index (⟨error, h⟩ | ⟨error, h⟩ | ⟨-, error, h⟩ | ⟨-, h⟩)
      · cases h
      · cases h
      · cases h
      · exact ih (index + 1) h
  rintro (⟨error, h⟩ | h | ⟨error, h⟩)
  · cases h
  · exact hcases 0 h
  · cases h

theorem twoWorkers_accounting :
    ∃ log result ran skipped,
      dispatchWorkers twoWorkers threeScenarios (fun worker => runWorker worker dirtyRun)
        (fun worker => worker.workerIndex) = (log, .ok result) ∧
      Accounted twoWorkers threeScenarios log result ran skipped :=
  dispatch_accounting (by decide) (by decide) (by decide) threeScenarios (fun _ => dirtyRun) _
    fun _ _ => dirtyRun_not_raises _

end NetOpsBench.Session
