import NetOpsBench.Agents.TraceRecorder

/-!
# The tokens of a trace

The totals count the usage of each response once. Its steps count it once each, so the two agree as
long as no response that used tokens has more than one message.

`conserved_iff` is the equivalence, over every sequence of events: the recorder, and the trajectory that
is exported from it, are `Conserved` just when every response is `CountedOnce`. What the steps count
beyond the totals is the `surplus` of a response, which `stepTokens_step` adds up event by event.
`twoChoices_not_conserved` is a response whose tokens are counted twice.
-/

namespace NetOpsBench.Agents
open AgentTraceRecorder

def Step.usage : Step → TokenCounts
  | .llm step => step.usage
  | _ => 0

/-- The tokens of the recorded steps. -/
def AgentTraceRecorder.stepTokens (recorder : AgentTraceRecorder) : TokenCounts :=
  (recorder.steps.map Step.usage).sum

/-- The steps, and their metrics in the exported trajectory, add up to the totals. -/
structure AgentTraceRecorder.Conserved (recorder : AgentTraceRecorder) : Prop where
  recorded : recorder.stepTokens = recorder.tokens
  exported : (recorder.steps.map fun step => (atifStepMetrics step).counts).sum = recorder.tokens

/-- A response with at most one message, or without tokens. -/
def TraceEvent.CountedOnce : TraceEvent → Prop
  | .llmResponse response .. => ∀ messages, responseMessages response = .ok messages →
      ∀ usage, responseTokenUsage response messages = .ok usage → messages.length ≤ 1 ∨ usage = 0
  | _ => True

/-- The tokens that the steps of an event count beyond the totals. -/
def TraceEvent.surplus : TraceEvent → TokenCounts
  | .llmResponse response .. =>
    match responseMessages response with
    | .error _ => 0
    | .ok messages =>
      match responseTokenUsage response messages with
      | .error _ => 0
      | .ok usage => (stepCount messages - 1) • usage
  | _ => 0

/-! ## Steps -/

/-- A count of zero is left out of the metrics, and read back as zero. -/
theorem counts_atifStepMetrics (step : Step) : (atifStepMetrics step).counts = step.usage := by
  have hnonzero (count : Int) : (nonzero count).getD 0 = count := by
    unfold nonzero
    split
    · rfl
    · rename_i h
      exact (not_not.mp h).symm
  funext kind
  cases step with
  | llm step => cases kind <;> simp [atifStepMetrics, AtifStepMetrics.counts, tokenCounts, hnonzero,
      Step.usage]
  | tool step => cases kind <;> rfl
  | error step => cases kind <;> rfl

/-- The exported trajectory adds up to what the steps do, so the steps decide. -/
theorem conserved_iff_stepTokens {recorder : AgentTraceRecorder} :
    recorder.Conserved ↔ recorder.stepTokens = recorder.tokens := by
  constructor
  · exact fun h => h.recorded
  · intro h
    refine ⟨h, ?_⟩
    simp only [counts_atifStepMetrics]
    exact h

theorem usage_finish (outcome : ToolOutcome) (now : String) (step : Step) :
    (Step.finish outcome now step).usage = step.usage := by
  cases step <;> rfl

section
variable (recorder : AgentTraceRecorder)

theorem tokens_finishTool (runId : String) (outcome : ToolOutcome) (now : String) :
    (recorder.finishTool runId outcome now).stepTokens = recorder.stepTokens ∧
      (recorder.finishTool runId outcome now).tokens = recorder.tokens := by
  unfold finishTool stepTokens
  split
  · split
    · rw [map_modify_finish (usage_finish outcome now)]
      exact ⟨rfl, rfl⟩
    · simp [Step.usage]
  · exact ⟨rfl, rfl⟩

/-- What one event adds to the steps and not to the totals. -/
theorem stepTokens_step (h : recorder.enabled) (event : TraceEvent) :
    (recorder.step event).stepTokens - (recorder.step event).tokens =
      recorder.stepTokens - recorder.tokens + event.surplus := by
  cases event with
  | llmRequest runId parentRunId model provider now =>
    simp only [step, recordLlmRequest, h, if_true, TraceEvent.surplus, add_zero]
    rfl
  | llmResponse response runId parentRunId model provider now =>
    simp only [step, recordLlmResponse, h, if_true, TraceEvent.surplus]
    cases hmessages : responseMessages response with
    | error => exact (add_zero _).symm
    | ok messages =>
      cases husage : responseTokenUsage response messages with
      | error => simp [husage, bind, Except.bind, stepTokens, rememberModel]
      | ok usage =>
        have hone : 1 ≤ stepCount messages := by
          unfold stepCount
          split
          · rfl
          · rename_i hfull
            exact List.length_pos_iff.mpr (by simpa using hfull)
        have hsteps : stepCount messages • usage = usage + (stepCount messages - 1) • usage := by
          rw [← succ_nsmul', Nat.sub_add_cancel hone]
        simp only [husage, bind, Except.bind, pure, Except.pure, stepTokens, List.map_append,
          List.map_replicate, List.sum_append, List.sum_replicate, accumulateUsage]
        show _ + stepCount messages • usage - (_ + usage) = _
        rw [hsteps]
        simp only [rememberModel]
        abel
  | toolStart =>
    simp [step, recordToolStart, h, stepTokens, Step.usage, TraceEvent.surplus]
  | toolEnd output runId now =>
    obtain ⟨hsteps, htokens⟩ := tokens_finishTool recorder runId (.observation output) now
    simp only [step, hsteps, htokens, TraceEvent.surplus, add_zero]
  | toolError error runId now =>
    obtain ⟨hsteps, htokens⟩ := tokens_finishTool recorder runId (.error error) now
    simp only [step, hsteps, htokens, TraceEvent.surplus, add_zero]
  | error =>
    simp [step, recordError, h, stepTokens, Step.usage, TraceEvent.surplus]

/-- A response without a surplus is one that is counted once. -/
theorem surplus_eq_zero_iff (event : TraceEvent) : event.surplus = 0 ↔ event.CountedOnce := by
  cases event with
  | llmResponse response =>
    simp only [TraceEvent.surplus, TraceEvent.CountedOnce]
    cases hmessages : responseMessages response with
    | error => simp
    | ok messages =>
      have hcount : stepCount messages - 1 = 0 ↔ messages.length ≤ 1 := by
        unfold stepCount
        cases messages with
        | nil => simp
        | cons message messages => simp
      simp only [Except.ok.injEq, forall_eq']
      cases husage : responseTokenUsage response messages with
      | error => simp
      | ok usage => simp only [Except.ok.injEq, forall_eq', smul_eq_zero, hcount]
  | _ => simp [TraceEvent.surplus, TraceEvent.CountedOnce]

/-! ## Runs -/

/-- The totals are conserved throughout a run exactly when every response is counted once. -/
theorem conserved_iff (events : List TraceEvent) :
    (∀ before, before <+: events → (before.foldl step (new true)).Conserved) ↔
      ∀ event ∈ events, event.CountedOnce := by
  have hrun (recorder : AgentTraceRecorder) (h : recorder.enabled) (hconserved : recorder.Conserved)
      (events : List TraceEvent) :
      (∀ before, before <+: events → (before.foldl step recorder).Conserved) ↔
        ∀ event ∈ events, event.CountedOnce := by
    induction events generalizing recorder with
    | nil =>
      simp only [List.prefix_nil, forall_eq, List.foldl_nil, List.not_mem_nil, false_imp_iff,
        implies_true, iff_true]
      exact hconserved
    | cons event events ih =>
      have hstep : (recorder.step event).Conserved ↔ event.CountedOnce := by
        have hdelta := stepTokens_step recorder h event
        rw [hconserved.recorded, sub_self, zero_add] at hdelta
        rw [conserved_iff_stepTokens, ← sub_eq_zero, hdelta, surplus_eq_zero_iff]
      have henabled : (recorder.step event).enabled := by rwa [enabled_step]
      rw [List.forall_mem_cons]
      constructor
      · intro hall
        have hfirst := hall [event] (List.prefix_append [event] events)
        refine ⟨hstep.mp hfirst, (ih _ henabled hfirst).mp fun before hbefore => ?_⟩
        exact hall (event :: before) (List.cons_prefix_cons.mpr ⟨rfl, hbefore⟩)
      · rintro ⟨hevent, hevents⟩ before hbefore
        cases before with
        | nil => exact hconserved
        | cons first before =>
          obtain ⟨rfl, hrest⟩ := List.cons_prefix_cons.mp hbefore
          exact (ih _ henabled (hstep.mpr hevent)).mpr hevents before hrest
  exact hrun (new true) rfl (conserved_iff_stepTokens.mpr rfl) events

end

/-! ## A response with two messages -/

/-- Two choices, and five tokens in and three out for both together. -/
def twoChoices : Value :=
  .dict [("choices", .list (List.replicate 2 (.dict [("message", .dict [("content", .str "up")])]))),
    ("usage", .dict [("prompt_tokens", .int 5), ("completion_tokens", .int 3)])]

theorem twoChoices_not_conserved :
    ¬ ((new true).step (.llmResponse twoChoices "call-1" none none none "10:00")).Conserved := by
  intro h
  have htokens := congrFun h.recorded .input
  revert htokens
  decide +kernel

end NetOpsBench.Agents
