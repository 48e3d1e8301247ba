import NetOpsBench.Agents.TraceRecorder

/-!
# The tool calls of a trace

However the calls of a diagnosis overlap, every start and every ending of a tool is in the trace
once, and an ending is in the step of its own call.

`tools_recorded` says so of every sequence of events. The invariant is `PendingSound`: the place that is
kept for a pending call is a step of that call, and the step has not ended; `step_sound` preserves it and
`run_sound` carries it over the sequence, together with the starts and endings so far.
-/

namespace NetOpsBench.Agents
open AgentTraceRecorder

/-- How a tool call ended, by the identifier of the call. -/
structure ToolEnding where
  runId : String
  outcome : ToolOutcome
  endedAt : String
deriving DecidableEq, Repr

structure ToolStart where
  name : String
  runId : String
  parentRunId : Option String
  startedAt : String
deriving DecidableEq, Repr

def ToolStep.ending? (step : ToolStep) : Option ToolEnding :=
  step.outcome.bind fun outcome => step.endedAt.map fun endedAt => ⟨step.runId, outcome, endedAt⟩

def ToolStep.start? (step : ToolStep) : Option ToolStart :=
  step.startedAt.map fun startedAt => ⟨step.name, step.runId, step.parentRunId, startedAt⟩

def TraceEvent.ending? : TraceEvent → Option ToolEnding
  | .toolEnd output runId now => some ⟨runId, .observation output, now⟩
  | .toolError text runId now => some ⟨runId, .error text, now⟩
  | _ => none

def TraceEvent.start? : TraceEvent → Option ToolStart
  | .toolStart name runId parentRunId now =>
    some ⟨if name = "" then "tool" else name, runId, Python.truthy parentRunId, now⟩
  | _ => none

def Step.tool? : Step → Option ToolStep
  | .tool step => some step
  | _ => none

/-- The step at the place of a pending call is its own, and has not ended. -/
def AgentTraceRecorder.PendingSound (recorder : AgentTraceRecorder) : Prop :=
  ∀ runId place, recorder.pendingTools.lookup runId = some place →
    ∃ step, recorder.steps[place]? = some (.tool step) ∧ step.runId = runId ∧ step.outcome = none

/-! ## One step -/

section
variable {recorder : AgentTraceRecorder} {event : TraceEvent}

theorem toolCalls_eq (recorder : AgentTraceRecorder) :
    recorder.toolCalls = recorder.steps.filterMap Step.tool? := by
  refine List.filterMap_congr fun step _ => ?_
  cases step <;> rfl

/-- A change of one item that brings a value to light. -/
theorem perm_filterMap_modify {α β : Type} {f : α → Option β} {g : α → α} {items : List α}
    {place : Nat} {item : α} {value : β} (hitem : items[place]? = some item) (hbefore : f item = none)
    (hafter : f (g item) = some value) :
    ((items.modify place g).filterMap f).Perm (value :: items.filterMap f) := by
  induction items generalizing place with
  | nil => simp at hitem
  | cons first items ih =>
    cases place with
    | zero =>
      obtain rfl : first = item := by simpa using hitem
      rw [List.modify_zero_cons, List.filterMap_cons_some hafter, List.filterMap_cons_none hbefore]
    | succ place =>
      have hperm := ih (by simpa using hitem)
      rw [List.modify_succ_cons]
      cases hfirst : f first with
      | none => rwa [List.filterMap_cons_none hfirst, List.filterMap_cons_none hfirst]
      | some other =>
        rw [List.filterMap_cons_some hfirst, List.filterMap_cons_some hfirst]
        exact (hperm.cons other).trans (.swap ..)

/-- Endings and starts, as the steps show them. -/
def AgentTraceRecorder.endings (recorder : AgentTraceRecorder) : List ToolEnding :=
  recorder.toolCalls.filterMap ToolStep.ending?

def AgentTraceRecorder.starts (recorder : AgentTraceRecorder) : List ToolStart :=
  recorder.toolCalls.filterMap ToolStep.start?

theorem endings_eq (recorder : AgentTraceRecorder) :
    recorder.endings = recorder.steps.filterMap fun step => step.tool?.bind ToolStep.ending? := by
  rw [endings, toolCalls_eq, List.filterMap_filterMap]

theorem starts_eq (recorder : AgentTraceRecorder) :
    recorder.starts = recorder.steps.filterMap fun step => step.tool?.bind ToolStep.start? := by
  rw [starts, toolCalls_eq, List.filterMap_filterMap]

theorem lt_of_getElem?_eq_some {steps : List Step} {place : Nat} {step : Step}
    (h : steps[place]? = some step) : place < steps.length :=
  (List.getElem?_eq_some_iff.mp h).1

theorem pendingSound_append {steps : List Step} (h : recorder.PendingSound) :
    ({ recorder with steps := recorder.steps ++ steps } : AgentTraceRecorder).PendingSound := by
  intro runId place hplace
  obtain ⟨step, hstep, hown⟩ := h runId place hplace
  exact ⟨step, (List.getElem?_append_left (lt_of_getElem?_eq_some hstep)).trans hstep, hown⟩

/-- The step of a call that starts is the last one, and has not ended. -/
theorem pendingSound_start {step : ToolStep} (h : recorder.PendingSound) (hopen : step.outcome = none) :
    ({ recorder with
        pendingTools := recorder.pendingTools.insert step.runId recorder.steps.length
        steps := recorder.steps ++ [.tool step] } : AgentTraceRecorder).PendingSound := by
  intro runId place hplace
  by_cases hown : runId = step.runId
  · subst hown
    obtain rfl : recorder.steps.length = place :=
      Option.some.inj ((AList.lookup_insert _).symm.trans hplace)
    exact ⟨step, List.getElem?_concat_length, rfl, hopen⟩
  · rw [AList.lookup_insert_ne hown] at hplace
    exact pendingSound_append h runId place hplace

/-- The end of one call does not touch the steps of the others. -/
theorem pendingSound_finish {runId : String} {place : Nat} {outcome : ToolOutcome} {now : String}
    (h : recorder.PendingSound) (hplace : recorder.pendingTools.lookup runId = some place) :
    ({ recorder with
        pendingTools := recorder.pendingTools.erase runId
        steps := recorder.steps.modify place (Step.finish outcome now) } :
      AgentTraceRecorder).PendingSound := by
  intro other otherPlace hother
  have hne : other ≠ runId := by
    rintro rfl
    rw [AList.lookup_erase] at hother
    cases hother
  rw [AList.lookup_erase_ne hne] at hother
  obtain ⟨step, hstep, hown, hopen⟩ := h other otherPlace hother
  obtain ⟨ended, hended, hendedId, -⟩ := h runId place hplace
  have hplaces : place ≠ otherPlace := by
    rintro rfl
    obtain rfl : ended = step := Step.tool.inj (Option.some.inj (hended.symm.trans hstep))
    exact hne (hown.symm.trans hendedId)
  have hkept : (recorder.steps.modify place (Step.finish outcome now))[otherPlace]? =
      some (.tool step) := by
    rw [List.getElem?_modify_ne _ _ hplaces, hstep]
  exact ⟨step, hkept, hown, hopen⟩

/-- The end of a call goes to the step of its own start; a call that is not pending gets a step of
its own. -/
theorem finishTool_sound (henabled : recorder.enabled) (h : recorder.PendingSound) (runId : String)
    (outcome : ToolOutcome) (now : String) :
    (recorder.finishTool runId outcome now).PendingSound ∧
      (recorder.finishTool runId outcome now).endings.Perm
        (⟨runId, outcome, now⟩ :: recorder.endings) ∧
      (recorder.finishTool runId outcome now).starts = recorder.starts := by
  unfold finishTool
  rw [if_pos henabled]
  cases hplace : recorder.pendingTools.lookup runId with
  | none =>
    refine ⟨pendingSound_append h, ?_, ?_⟩
    · rw [endings_eq, endings_eq, List.filterMap_append]
      exact List.perm_append_singleton ..
    · rw [starts_eq, starts_eq, List.filterMap_append]
      exact List.append_nil _
  | some place =>
    obtain ⟨step, hstep, hown, hopen⟩ := h runId place hplace
    refine ⟨pendingSound_finish h hplace, ?_, ?_⟩
    · rw [endings_eq, endings_eq]
      refine perm_filterMap_modify hstep ?_ ?_
      · simp [Step.tool?, ToolStep.ending?, hopen]
      · simp [Step.finish, Step.tool?, ToolStep.ending?, hown]
    · have hmap (steps : List Step) : steps.filterMap (fun step => step.tool?.bind ToolStep.start?) =
          (steps.map fun step => step.tool?.bind ToolStep.start?).filterMap id := by
        rw [List.filterMap_map]
        rfl
      rw [starts_eq, starts_eq, hmap, hmap, map_modify_finish]
      rintro (step | step | step) <;> rfl

/-- Steps that are no tool calls are added at the end. -/
theorem addSteps_sound {steps : List Step} (htools : steps.filterMap Step.tool? = [])
    (h : recorder.PendingSound) :
    ({ recorder with steps := recorder.steps ++ steps } : AgentTraceRecorder).PendingSound ∧
      ({ recorder with steps := recorder.steps ++ steps } : AgentTraceRecorder).toolCalls =
        recorder.toolCalls := by
  refine ⟨pendingSound_append h, ?_⟩
  rw [toolCalls_eq, toolCalls_eq, List.filterMap_append, htools, List.append_nil]

/-- What an event does to the starts and endings of the trace. -/
theorem step_sound (henabled : recorder.enabled) (h : recorder.PendingSound) (event : TraceEvent) :
    (recorder.step event).PendingSound ∧
      (recorder.step event).endings.Perm (event.ending?.toList ++ recorder.endings) ∧
      (recorder.step event).starts = recorder.starts ++ event.start?.toList := by
  have hquiet (next : AgentTraceRecorder) (hsound : next.PendingSound)
      (hcalls : next.toolCalls = recorder.toolCalls) :
      next.PendingSound ∧ next.endings.Perm ([] ++ recorder.endings) ∧
        next.starts = recorder.starts ++ [] := by
    rw [endings, endings, starts, starts, hcalls, List.nil_append, List.append_nil]
    exact ⟨hsound, .refl _, rfl⟩
  cases event with
  | llmRequest runId parentRunId model provider now =>
    simp only [step, recordLlmRequest]
    rw [if_pos henabled]
    exact hquiet _ h rfl
  | llmResponse response runId parentRunId model provider now =>
    simp only [step, recordLlmResponse]
    rw [if_pos henabled]
    split
    · exact hquiet _ h rfl
    · refine hquiet _ (addSteps_sound ?_ h).1 (addSteps_sound ?_ h).2
      all_goals exact List.filterMap_replicate_of_none rfl
  | toolStart name runId parentRunId now =>
    simp only [step, recordToolStart]
    rw [if_pos henabled]
    refine ⟨pendingSound_start h rfl, ?_, ?_⟩
    · rw [endings_eq, endings_eq, List.filterMap_append]
      exact .of_eq (List.append_nil _)
    · rw [starts_eq, starts_eq, List.filterMap_append]
      rfl
  | toolEnd output runId now =>
    obtain ⟨hsound, hendings, hstarts⟩ := finishTool_sound henabled h runId (.observation output) now
    exact ⟨hsound, hendings, hstarts.trans (List.append_nil _).symm⟩
  | toolError text runId now =>
    obtain ⟨hsound, hendings, hstarts⟩ := finishTool_sound henabled h runId (.error text) now
    exact ⟨hsound, hendings, hstarts.trans (List.append_nil _).symm⟩
  | error stage text runId parentRunId now =>
    simp only [step, recordError]
    rw [if_pos henabled]
    refine hquiet _ (addSteps_sound ?_ h).1 (addSteps_sound ?_ h).2
    all_goals rfl

end

/-! ## Runs -/

/-- The invariant of a recorder after any events, with the endings and the starts in its trace. -/
theorem run_sound (events : List TraceEvent) :
    (events.foldl step (new true)).enabled ∧ (events.foldl step (new true)).PendingSound ∧
      (events.foldl step (new true)).endings.Perm (events.filterMap TraceEvent.ending?) ∧
      (events.foldl step (new true)).starts = events.filterMap TraceEvent.start? := by
  induction events using List.reverseRecOn with
  | nil => exact ⟨rfl, by simp [PendingSound, new], .refl _, rfl⟩
  | append_singleton events event ih =>
    obtain ⟨henabled, hpending, hendings, hstarts⟩ := ih
    obtain ⟨hpending', hendings', hstarts'⟩ := step_sound henabled hpending event
    rw [List.foldl_concat, enabled_step, List.filterMap_append, List.filterMap_append, hstarts', hstarts]
    refine ⟨henabled, hpending', ?_, ?_⟩
    · refine hendings'.trans ((hendings.append_left _).trans ?_)
      refine List.perm_append_comm.trans (.of_eq (congrArg _ ?_))
      cases hevent : event.ending? <;> simp [hevent]
    · cases hevent : event.start? <;> simp [hevent]

/-- Every start of a run is in its trace, in order, and every ending once, in a step of the call that
it names. -/
theorem tools_recorded (events : List TraceEvent) :
    ((events.foldl step (new true)).endings).Perm (events.filterMap TraceEvent.ending?) ∧
      (events.foldl step (new true)).starts = events.filterMap TraceEvent.start? :=
  (run_sound events).2.2

end NetOpsBench.Agents
