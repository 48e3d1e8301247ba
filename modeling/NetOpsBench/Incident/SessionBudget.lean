import NetOpsBench.Data.Run
import NetOpsBench.Incident.Session

/-!
# The budget of a session

One check of the limits serves tool calls and submissions. Before a call it keeps the backend within
the allowance; before a submission it asks for one call less than what is allowed.

`budget_honoured` is the result over every sequence of calls; `step_cases` says once what a call can do,
and `Accounted` is the invariant that the limit on the calls of tools follows from. `lastCall_not_graded`
is a session whose diagnosis is refused because its last call was the last that it may make.
-/

namespace NetOpsBench.Incident

open Simulator (Raised)
open Scorer (EvaluationResult)

inductive SessionEvent where
  | callTool (now : ℚ) (action : ToolAction) (valid : Bool) (tool : Except Raised Payload)
  | submit (now : ℚ) (usage : Option AgentUsage) (accounted : Option ℕ)
    (evaluation : Except Raised EvaluationResult)
  | terminateFailure (now : ℚ) (domain : FailureDomain) (message : String)
    (reason : TerminationReason)
  /-- What others do with the incident. -/
  | incident (call : IncidentCall)

namespace SessionEvent

def isToolCall : SessionEvent → Bool
  | .callTool .. => true
  | _ => false

end SessionEvent

def SessionEffect.isExecuted : SessionEffect → Bool
  | .executed _ => true
  | .graded => false

namespace SessionRun

/-- A new session of the incident. -/
def opened (incident : PreparedIncident) (config : SimulatorConfig) (now : ℚ) : SessionRun :=
  { incident, session := { config, startedAt := now } }

def step (run : SessionRun) : SessionEvent → SessionRun
  | .callTool now action valid tool => (run.callTool now action valid tool).1
  | .submit now usage accounted evaluation => (run.submit now usage accounted evaluation).1
  | .terminateFailure now domain message reason =>
    (run.terminateFailure now domain message reason).1
  | .incident call => { run with incident := (run.incident.call call).1 }

def after (run : SessionRun) (events : List SessionEvent) : SessionRun := events.foldl step run

def executed (run : SessionRun) : ℕ := run.effects.countP (·.isExecuted)

/-- Whether the session takes calls. -/
def Active (run : SessionRun) : Prop :=
  run.session.state = .active ∧ run.incident.state = .active

def InTime (run : SessionRun) (now : ℚ) : Prop :=
  run.session.elapsed now ≤ run.session.config.maxAgentSeconds

instance (run : SessionRun) : Decidable run.Active := inferInstanceAs (Decidable (_ ∧ _))

instance (run : SessionRun) (now : ℚ) : Decidable (run.InTime now) :=
  inferInstanceAs (Decidable (_ ≤ _))

/-- The diagnosis was graded and its score is the reward. -/
def Graded (run : SessionRun) (evaluation : EvaluationResult)
    (result : SessionRun × Except Raised SessionTransition) : Prop :=
  result.1.effects = run.effects ++ [.graded] ∧
    ∃ transition, result.2 = .ok transition ∧
      transition.terminationReason = some .submitted ∧ transition.reward = some evaluation.score

variable {run : SessionRun}

/-! ## One step -/

theorem requireActive_eq_ok_iff :
    run.session.requireActive run.incident = .ok () ↔ run.Active := by
  unfold DiagnosticSession.requireActive Active
  split <;> rename_i hstate
  · exact iff_of_false nofun fun h => hstate h.1
  · split <;> rename_i hincident
    · exact iff_of_false nofun fun h => hincident h.2
    · exact iff_of_true rfl ⟨not_not.mp hstate, not_not.mp hincident⟩

/-- No limit is reached before the time and the calls are used up. -/
theorem limitMessage_eq_none_iff {now : ℚ} :
    run.session.limitMessage (run.session.elapsed now) = none ↔
      run.InTime now ∧ run.session.toolCalls < run.session.config.maxToolCalls := by
  unfold DiagnosticSession.limitMessage InTime
  split <;> rename_i htime
  · exact iff_of_false nofun fun h => htime.not_ge h.1
  · split <;> rename_i hcalls
    · exact iff_of_false nofun fun h => hcalls.not_gt h.2
    · exact iff_of_true rfl ⟨not_lt.mp htime, not_le.mp hcalls⟩

/-- What a step does. A tool call counts itself, and the backend gets it at most once. -/
inductive Step (run : SessionRun) (event : SessionEvent) : SessionRun → Prop where
  | incident (call : IncidentCall) : event.isToolCall = false →
    Step run event { run with incident := (run.incident.call call).1 }
  | refused : ¬ run.Active → Step run event run
  | ended (session : DiagnosticSession) : session.config = run.session.config →
    session.toolCalls = run.session.toolCalls → session.state = .terminal →
    Step run event { run with session }
  | counted (next : SessionRun) : event.isToolCall = true → run.Active →
    run.session.toolCalls < run.session.config.maxToolCalls →
    next.session.config = run.session.config → next.session.state = run.session.state →
    next.session.toolCalls = run.session.toolCalls + 1 →
    next.incident.state = run.incident.state →
    next.executed ≤ run.executed + 1 → Step run event next
  | failed : event.isToolCall = false → run.Active → Step run event
    { run with incident := run.incident.refreshLease, effects := run.effects ++ [.graded] }
  | graded (evaluation : EvaluationResult) : run.Active → Step run event
    { incident := run.incident.refreshLease
      session := { run.session with state := .terminal, evaluationResult := some evaluation }
      effects := run.effects ++ [.graded] }

theorem state_callTool (incident : PreparedIncident) (name : String) (valid : Bool)
    (tool : Except Raised Unit) : (incident.callTool name valid tool).1.state = incident.state := by
  unfold PreparedIncident.callTool
  split
  · rfl
  · split
    · rfl
    · dsimp only
      split <;> rfl

theorem evaluate_of_active (h : run.Active) (evaluation : Except Raised Unit) :
    run.incident.evaluate evaluation = (run.incident.refreshLease, evaluation) :=
  if_neg (not_not.mpr h.2)

theorem active_or_refused (run : SessionRun) : run.Active ∧ run.session.requireActive run.incident = .ok () ∨
    ¬ run.Active ∧ ∃ error, run.session.requireActive run.incident = .error error := by
  cases h : run.session.requireActive run.incident with
  | ok _ => exact .inl ⟨requireActive_eq_ok_iff.mp h, rfl⟩
  | error error =>
    refine .inr ⟨fun hactive => ?_, error, rfl⟩
    rw [requireActive_eq_ok_iff.mpr hactive] at h
    cases h

theorem step_callTool (now : ℚ) (action : ToolAction) (valid : Bool)
    (tool : Except Raised Payload) :
    Step run (.callTool now action valid tool) (run.callTool now action valid tool).1 := by
  unfold callTool
  obtain ⟨hactive, hok⟩ | ⟨hactive, error, herror⟩ := active_or_refused run
  · rw [hok]
    dsimp only
    cases hlimit : run.session.limitMessage (run.session.elapsed now) with
    | some message => exact .ended _ rfl rfl rfl
    | none =>
      have hcalls := (limitMessage_eq_none_iff.mp hlimit).2
      dsimp only
      split
      · exact .counted _ rfl hactive hcalls rfl rfl rfl rfl (Nat.le_succ _)
      · have hexecuted :
            (run.effects ++ [SessionEffect.executed action]).countP (·.isExecuted) ≤
              run.executed + 1 := by
          rw [List.countP_append]
          exact Nat.le_refl _
        split
        all_goals exact .counted _ rfl hactive hcalls rfl rfl rfl (state_callTool ..) hexecuted
  · rw [herror]
    exact .refused hactive

theorem step_submit (now : ℚ) (usage : Option AgentUsage) (accounted : Option ℕ)
    (evaluation : Except Raised EvaluationResult) :
    Step run (.submit now usage accounted evaluation)
      (run.submit now usage accounted evaluation).1 := by
  unfold submit
  obtain ⟨hactive, hok⟩ | ⟨hactive, error, herror⟩ := active_or_refused run
  · rw [hok]
    dsimp only
    cases run.session.limitMessage (run.session.elapsed now) with
    | some message => exact .ended _ rfl rfl rfl
    | none =>
      simp only [evaluate_of_active hactive]
      cases evaluation with
      | error error => exact .failed rfl hactive
      | ok evaluation => exact .graded evaluation hactive
  · rw [herror]
    exact .refused hactive

theorem step_terminateFailure (now : ℚ) (domain : FailureDomain) (message : String)
    (reason : TerminationReason) : Step run (.terminateFailure now domain message reason)
      (run.terminateFailure now domain message reason).1 := by
  unfold terminateFailure
  obtain ⟨-, hok⟩ | ⟨hactive, error, herror⟩ := active_or_refused run
  · rw [hok]
    exact .ended _ rfl rfl rfl
  · rw [herror]
    exact .refused hactive

/-- What any call of a session does, told once. -/
theorem step_cases (run : SessionRun) (event : SessionEvent) : Step run event (run.step event) := by
  cases event with
  | callTool now action valid tool => exact step_callTool now action valid tool
  | submit now usage accounted evaluation => exact step_submit now usage accounted evaluation
  | terminateFailure now domain message reason =>
    exact step_terminateFailure now domain message reason
  | incident call => exact .incident call rfl

/-- A submission in time is graded as long as one more call is allowed. -/
theorem graded_submit_iff (hactive : run.Active) {now : ℚ} (htime : run.InTime now)
    (usage : Option AgentUsage) (accounted : Option ℕ) (evaluation : EvaluationResult) :
    run.Graded evaluation (run.submit now usage accounted (.ok evaluation)) ↔
      run.session.toolCalls < run.session.config.maxToolCalls := by
  unfold submit
  rw [requireActive_eq_ok_iff.mpr hactive]
  dsimp only
  cases hlimit : run.session.limitMessage (run.session.elapsed now) with
  | some message =>
    refine iff_of_false ?_ fun hcalls => ?_
    · rintro ⟨heffects, -⟩
      exact absurd (congrArg List.length heffects) (by simp)
    · rw [limitMessage_eq_none_iff.mpr ⟨htime, hcalls⟩] at hlimit
      cases hlimit
  | none =>
    refine iff_of_true ?_ (limitMessage_eq_none_iff.mp hlimit).2
    rw [evaluate_of_active hactive]
    exact ⟨rfl, _, rfl, rfl, rfl⟩

/-- Nothing happens in a session that has ended. -/
theorem step_of_terminal (h : run.session.state = .terminal) (event : SessionEvent) :
    (run.step event).session.state = .terminal ∧ (run.step event).effects = run.effects := by
  have hactive : ¬ run.Active := fun hactive => nomatch h.symm.trans hactive.1
  have hstep := step_cases run event
  generalize run.step event = next at hstep ⊢
  cases hstep with
  | incident | refused => exact ⟨h, rfl⟩
  | ended session _ _ hstate => exact ⟨hstate, rfl⟩
  | counted | failed | graded => contradiction

/-! ## Runs -/

theorem state_notifyClose (incident : PreparedIncident) (onClose : Except Raised Unit) :
    (incident.notifyClose onClose).1.state = incident.state := by
  unfold PreparedIncident.notifyClose
  split <;> rfl

theorem state_finishBackend (incident : PreparedIncident) (outcome : CloseOutcome)
    (broken : Bool) : (incident.finishBackend outcome broken).1.state = .closed ∨
      (incident.finishBackend outcome broken).1.state = .broken := by
  unfold PreparedIncident.finishBackend
  dsimp only
  obtain ⟨backend, entries, error | _⟩ := incident.backend.finish outcome.toFinishOutcome broken
  · exact .inr (state_notifyClose ..)
  · cases broken
    · exact .inl (state_notifyClose ..)
    · exact .inr (state_notifyClose ..)

/-- An incident that has prepared itself keeps its state or is over. -/
theorem state_call {incident : PreparedIncident} (h : incident.state ≠ .created)
    (call : IncidentCall) : (incident.call call).1.state = incident.state ∨
      (incident.call call).1.state = .closed ∨ (incident.call call).1.state = .broken := by
  cases call with
  | prepare outcome close =>
    exact .inl (congrArg (·.1.state) (if_pos h : incident.prepare outcome close = _))
  | openSession configured =>
    show (incident.openSession configured).1.state = _ ∨ _
    unfold PreparedIncident.openSession
    split
    · exact .inl rfl
    · split <;> exact .inl rfl
  | callTool name valid tool => exact .inl (state_callTool ..)
  | evaluate evaluation =>
    show (incident.evaluate evaluation).1.state = _ ∨ _
    unfold PreparedIncident.evaluate
    split <;> exact .inl rfl
  | close outcome =>
    dsimp only [PreparedIncident.call]
    unfold PreparedIncident.close
    split
    · exact .inl rfl
    · split
      · exact .inr (state_finishBackend ..)
      · exact .inr (state_finishBackend ..)

/-- The backend got no more calls than the session counted, and a session that takes calls has counted
all of them. -/
structure Accounted (limits : SimulatorConfig) (calls : ℕ) (run : SessionRun) : Prop where
  config : run.session.config = limits
  executed : run.executed ≤ run.session.toolCalls
  allowed : run.session.toolCalls ≤ limits.maxToolCalls
  started : run.incident.state ≠ .created
  counted : run.Active → run.session.toolCalls = calls

theorem executed_concat_graded (effects : List SessionEffect) :
    (effects ++ [SessionEffect.graded]).countP (·.isExecuted) = effects.countP (·.isExecuted) := by
  rw [List.countP_append]
  rfl

/-- The account is kept by every call. -/
theorem Accounted.step {limits : SimulatorConfig} {calls : ℕ} (h : Accounted limits calls run)
    (event : SessionEvent) : Accounted limits (calls + event.isToolCall.toNat) (run.step event) := by
  have hstep := step_cases run event
  generalize run.step event = next at hstep ⊢
  cases hstep with
  | incident call hevent =>
    rw [hevent]
    have hstate := state_call h.started call
    refine ⟨h.config, h.executed, h.allowed, ?_, fun hactive => h.counted ⟨hactive.1, ?_⟩⟩
    · dsimp only
      obtain hstate | hstate | hstate := hstate
      · exact hstate ▸ h.started
      · exact hstate ▸ nofun
      · exact hstate ▸ nofun
    · have hincident : (run.incident.call call).1.state = .active := hactive.2
      obtain hstate | hstate | hstate := hstate
      · exact hstate.symm.trans hincident
      · exact nomatch hstate.symm.trans hincident
      · exact nomatch hstate.symm.trans hincident
  | refused hactive => exact { h with counted := fun hnext => absurd hnext hactive }
  | ended session hconfig hcalls hstate =>
    refine ⟨hconfig.trans h.config, hcalls ▸ h.executed, hcalls ▸ h.allowed, h.started, ?_⟩
    exact fun hnext => nomatch hstate.symm.trans hnext.1
  | counted next hevent hactive hcalls hconfig hstate hcount hincident hexecuted =>
    refine ⟨hconfig.trans h.config, ?_, ?_, hincident ▸ h.started, fun _ => ?_⟩
    · rw [hcount]
      exact hexecuted.trans (Nat.succ_le_succ h.executed)
    · rw [hcount]
      exact h.config ▸ hcalls
    · rw [hcount, hevent, h.counted hactive]
      rfl
  | failed hevent hactive =>
    rw [hevent]
    exact ⟨h.config, (executed_concat_graded _).trans_le h.executed, h.allowed, h.started,
      fun _ => h.counted hactive⟩
  | graded evaluation hactive =>
    exact ⟨h.config, (executed_concat_graded _).trans_le h.executed, h.allowed, h.started,
      nofun⟩

/-- So it holds after every sequence of calls. -/
theorem Accounted.after {limits : SimulatorConfig} {calls : ℕ} (h : Accounted limits calls run)
    (events : List SessionEvent) :
    Accounted limits (calls + events.countP (·.isToolCall)) (run.after events) := by
  induction events generalizing run calls with
  | nil => exact h
  | cons event events ih =>
    have hcount : calls + (event :: events).countP (·.isToolCall) =
        calls + event.isToolCall.toNat + events.countP (·.isToolCall) := by
      cases hevent : event.isToolCall
      · rw [List.countP_cons_of_neg (by rw [hevent]; exact nofun)]
        rfl
      · rw [List.countP_cons_of_pos hevent]
        exact (congrArg _ (Nat.add_comm ..)).trans (Nat.add_assoc ..).symm
    rw [hcount]
    exact ih (h.step event)

/-- A session that has ended has no further effects. -/
theorem effects_after_of_terminal (h : run.session.state = .terminal)
    (events : List SessionEvent) : (run.after events).effects = run.effects := by
  induction events generalizing run with
  | nil => rfl
  | cons event events ih =>
    obtain ⟨hstate, heffects⟩ := step_of_terminal h event
    exact (ih hstate).trans heffects

theorem accounted_opened {incident : PreparedIncident} (h : incident.state = .active)
    (config : SimulatorConfig) (now : ℚ) : Accounted config 0 (opened incident config now) where
  config := rfl
  executed := Nat.le_refl _
  allowed := Nat.zero_le _
  started := h ▸ nofun
  counted _ := rfl

/-- The backend runs no more calls than allowed, and nothing happens after the end. A session that
takes calls grades a submission in time as long as fewer calls than allowed came before. -/
theorem budget_honoured {incident : PreparedIncident} (hincident : incident.state = .active)
    (config : SimulatorConfig) (start : ℚ) (events : List SessionEvent) :
    let run := (opened incident config start).after events
    run.executed ≤ config.maxToolCalls ∧
    (run.session.state = .terminal → ∀ later, (run.after later).effects = run.effects) ∧
    (run.Active → events.countP (·.isToolCall) ≤ config.maxToolCalls → ∀ now, run.InTime now →
      ∀ usage accounted evaluation,
        run.Graded evaluation (run.submit now usage accounted (.ok evaluation)) ↔
          events.countP (·.isToolCall) < config.maxToolCalls) := by
  intro run
  have h := (accounted_opened hincident config start).after events
  rw [Nat.zero_add] at h
  refine ⟨h.executed.trans h.allowed, effects_after_of_terminal, ?_⟩
  intro hactive _ now htime usage accounted evaluation
  rw [graded_submit_iff hactive htime, h.counted hactive, h.config]

/-- An incident that has prepared itself on a lease. -/
def activeIncident : PreparedIncident :=
  { notifies := false
    backend := { record := some 0, delegate := some { prepared := true } }
    state := .active }

/-- A call of `get_topology` that the backend answers. -/
def getTopology : SessionEvent :=
  .callTool 1 ⟨"get_topology", []⟩ true
    (.ok (.obj [("success", .bool true), ("data", .obj []), ("error", .null)]))

def healthyVerdict : EvaluationResult :=
  { testcaseId := "case", correctVerdict := true, correctDevice := true, correctInterface := true
    correctFaultType := true, score := 1 }

/-- With two calls allowed, a submission after one call is graded. -/
theorem oneOfTwo_graded :
    let run := (opened activeIncident { maxToolCalls := 2 } 0).after [getTopology]
    run.Graded healthyVerdict (run.submit 2 none none (.ok healthyVerdict)) :=
  ((budget_honoured rfl { maxToolCalls := 2 } 0 [getTopology]).2.2 (by decide +kernel) (by decide)
    2 (by decide +kernel) none none healthyVerdict).mpr (by decide)

/-- With one call allowed, a submission after this call ends the session for the limit of the tool
calls. -/
theorem lastCall_not_graded :
    let run := (opened activeIncident { maxToolCalls := 1 } 0).after [getTopology]
    run.Active ∧ [getTopology].countP (·.isToolCall) ≤ 1 ∧ run.InTime 2 ∧
      ¬ run.Graded healthyVerdict (run.submit 2 none none (.ok healthyVerdict)) ∧
      (run.submit 2 none none (.ok healthyVerdict)).2.toOption.bind (·.error) =
        some "max_tool_calls exceeded" := by
  refine ⟨by decide +kernel, by decide, by decide +kernel, ?_, ?_⟩
  · rw [graded_submit_iff (by decide +kernel) (by decide +kernel)]
    decide +kernel
  · decide +kernel

end SessionRun

end NetOpsBench.Incident
