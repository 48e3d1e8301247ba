import NetOpsBench.Agents.Responses
import NetOpsBench.Data.Dict
import NetOpsBench.Data.Run

/-!
# The trace of a diagnosis

A recorder collects the steps of a diagnosis and counts the tokens of its responses. The totals are
those of the responses; each step of a response carries the usage of the whole response. Times and
identifiers are inputs; the texts of the steps are left out.

The calls of the recorder are `TraceEvent`s, and `AgentTraceRecorder.step` is the recorder after one.
`atifStepMetrics` is what the exported trajectory says of the tokens of a step.
-/

namespace NetOpsBench.Agents

/-! ## Steps -/

structure LlmStep where
  runId : String
  parentRunId : Option String
  startedAt : Option String
  endedAt : String
  usage : TokenCounts
  model : Option String
  provider : Option String

inductive ToolOutcome where
  | observation (output : String)
  | error (text : String)
deriving DecidableEq, Repr

structure ToolStep where
  name : String
  runId : String
  parentRunId : Option String := none
  startedAt : Option String := none
  outcome : Option ToolOutcome := none
  endedAt : Option String := none
deriving DecidableEq, Repr

structure ErrorStep where
  message : String
  runId : Option String
  parentRunId : Option String
  startedAt : Option String
  endedAt : String
  stage : String
deriving DecidableEq, Repr

inductive Step where
  | llm (step : LlmStep)
  | tool (step : ToolStep)
  | error (step : ErrorStep)

/-- A request that waits for its response. -/
structure LlmSpan where
  parentRunId : Option String
  startedAt : String
  model : Option String
  provider : Option String
deriving DecidableEq, Repr

/-! ## The recorder -/

structure AgentTraceRecorder where
  enabled : Bool
  steps : List Step
  pendingLlm : Dict String LlmSpan
  /-- The places of the steps of the tools that are still at work. -/
  pendingTools : Dict String Nat
  tokens : TokenCounts
  llmCallCount : Nat
  model : Option String
  provider : Option String

namespace AgentTraceRecorder

def new (enabled : Bool) : AgentTraceRecorder where
  enabled
  steps := []
  pendingLlm := ∅
  pendingTools := ∅
  tokens := 0
  llmCallCount := 0
  model := none
  provider := none

variable (recorder : AgentTraceRecorder)

def rememberModel (model provider : Option String) : AgentTraceRecorder :=
  { recorder with
    model := (Python.truthy model).or recorder.model
    provider := (Python.truthy provider).or recorder.provider }

def recordLlmRequest (runId : String) (parentRunId model provider : Option String)
    (now : String) : AgentTraceRecorder :=
  if recorder.enabled then
    let recorder := recorder.rememberModel model provider
    let span := { parentRunId := Python.truthy parentRunId, startedAt := now, model, provider }
    { recorder with pendingLlm := recorder.pendingLlm.insert runId span }
  else recorder

/-- `_accumulate_usage` -/
def accumulateUsage (usage : TokenCounts) : AgentTraceRecorder :=
  { recorder with
    tokens := recorder.tokens + usage
    llmCallCount := recorder.llmCallCount + 1 }

/-- The steps of a response without messages is one of its text. -/
def stepCount (messages : List Value) : Nat := if messages.isEmpty then 1 else messages.length

def llmStep (runId : String) (parentRunId model provider : Option String) (endedAt : String)
    (usage : TokenCounts) : LlmStep :=
  let span := recorder.pendingLlm.lookup runId
  { runId
    parentRunId := (Python.truthy parentRunId).or (span.bind (·.parentRunId))
    startedAt := span.map (·.startedAt)
    endedAt
    usage
    model := (Python.truthy model).or
      ((Python.truthy (span.bind (·.model))).or (Python.truthy recorder.model))
    provider := (Python.truthy provider).or
      ((Python.truthy (span.bind (·.provider))).or (Python.truthy recorder.provider)) }

/-- A response that raises leaves nothing but the name of its model. -/
def recordLlmResponse (response : Value) (runId : String)
    (parentRunId model provider : Option String) (now : String) : AgentTraceRecorder :=
  if recorder.enabled then
    let recorder := recorder.rememberModel model provider
    let read := do
      let messages ← responseMessages response
      return (messages, ← responseTokenUsage response messages)
    match read with
    | .error _ => recorder
    | .ok (messages, usage) =>
      let recorder := recorder.accumulateUsage usage
      let step := recorder.llmStep runId parentRunId model provider now usage
      { recorder with
        pendingLlm := recorder.pendingLlm.erase runId
        steps := recorder.steps ++ List.replicate (stepCount messages) (.llm step) }
  else recorder

def recordToolStart (name runId : String) (parentRunId : Option String) (now : String) :
    AgentTraceRecorder :=
  if recorder.enabled then
    let step :=
      { name := if name = "" then "tool" else name
        runId
        parentRunId := Python.truthy parentRunId
        startedAt := some now }
    { recorder with
      pendingTools := recorder.pendingTools.insert runId recorder.steps.length
      steps := recorder.steps ++ [.tool step] }
  else recorder

def Step.finish (outcome : ToolOutcome) (now : String) : Step → Step
  | .tool step => .tool { step with outcome := some outcome, endedAt := some now }
  | step => step

/-- `record_tool_end` and `record_tool_error` -/
def finishTool (runId : String) (outcome : ToolOutcome) (now : String) : AgentTraceRecorder :=
  if recorder.enabled then
    match recorder.pendingTools.lookup runId with
    | some place =>
      { recorder with
        pendingTools := recorder.pendingTools.erase runId
        steps := recorder.steps.modify place (Step.finish outcome now) }
    | none =>
      let step := { name := "tool", runId, outcome := some outcome, endedAt := some now }
      { recorder with steps := recorder.steps ++ [.tool step] }
  else recorder

def recordError (stage error : String) (runId parentRunId : Option String) (now : String) :
    AgentTraceRecorder :=
  if recorder.enabled then
    let callId := Python.truthy runId
    let settled := if stage = "llm" then callId else none
    let span := settled.bind recorder.pendingLlm.lookup
    let step :=
      { message := error
        runId := callId
        parentRunId := (Python.truthy parentRunId).or (span.bind (·.parentRunId))
        startedAt := span.map (·.startedAt)
        endedAt := now
        stage }
    { recorder with
      pendingLlm := settled.elim recorder.pendingLlm recorder.pendingLlm.erase
      steps := recorder.steps ++ [.error step] }
  else recorder

/-- The tool calls among the steps. -/
def toolCalls : List ToolStep :=
  recorder.steps.filterMap fun
    | .tool step => some step
    | _ => none

end AgentTraceRecorder

/-! ## Runs -/

/-- A call of the recorder, with the time of the call. -/
inductive TraceEvent where
  | llmRequest (runId : String) (parentRunId model provider : Option String) (now : String)
  | llmResponse (response : Value) (runId : String) (parentRunId model provider : Option String)
    (now : String)
  | toolStart (name runId : String) (parentRunId : Option String) (now : String)
  | toolEnd (output runId now : String)
  | toolError (error runId now : String)
  | error (stage error : String) (runId parentRunId : Option String) (now : String)

open AgentTraceRecorder

def AgentTraceRecorder.step (recorder : AgentTraceRecorder) : TraceEvent → AgentTraceRecorder
  | .llmRequest runId parentRunId model provider now =>
    recorder.recordLlmRequest runId parentRunId model provider now
  | .llmResponse response runId parentRunId model provider now =>
    recorder.recordLlmResponse response runId parentRunId model provider now
  | .toolStart name runId parentRunId now => recorder.recordToolStart name runId parentRunId now
  | .toolEnd output runId now => recorder.finishTool runId (.observation output) now
  | .toolError error runId now => recorder.finishTool runId (.error error) now
  | .error stage error runId parentRunId now =>
    recorder.recordError stage error runId parentRunId now

theorem enabled_step (recorder : AgentTraceRecorder) (event : TraceEvent) :
    (recorder.step event).enabled = recorder.enabled := by
  cases event with
  | llmRequest => simp only [step, recordLlmRequest]; split <;> rfl
  | llmResponse =>
    simp only [step, recordLlmResponse]
    split
    · split <;> rfl
    · rfl
  | toolStart => simp only [step, recordToolStart]; split <;> rfl
  | toolEnd | toolError =>
    simp only [step, finishTool]
    split
    · split <;> rfl
    · rfl
  | error => simp only [step, recordError]; split <;> rfl

/-- What the end of a tool leaves alone in a step, it leaves alone in all of them. -/
theorem map_modify_finish {α : Type} {f : Step → α} {outcome : ToolOutcome} {now : String}
    (h : ∀ step, f (Step.finish outcome now step) = f step) (steps : List Step) (place : Nat) :
    (steps.modify place (Step.finish outcome now)).map f = steps.map f := by
  induction steps generalizing place with
  | nil => simp
  | cons step steps ih =>
    cases place with
    | zero => simp [h]
    | succ place => simp [ih]

/-! ## The exported trajectory -/

/-- `_atif_step_metrics` of the usage of a step: a count of zero is left out, the total is not. -/
structure AtifStepMetrics where
  promptTokens : Option Int := none
  completionTokens : Option Int := none
  totalTokens : Option Int := none
deriving DecidableEq, Repr

def nonzero (count : Int) : Option Int := if count ≠ 0 then some count else none

def atifStepMetrics : Step → AtifStepMetrics
  | .llm step =>
    { promptTokens := nonzero (step.usage .input)
      completionTokens := nonzero (step.usage .output)
      totalTokens := some (step.usage .total) }
  | _ => {}

def AtifStepMetrics.counts (metrics : AtifStepMetrics) : TokenCounts :=
  tokenCounts (metrics.promptTokens.getD 0) (metrics.completionTokens.getD 0)
    (metrics.totalTokens.getD 0)

end NetOpsBench.Agents
