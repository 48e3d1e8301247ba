import NetOpsBench.Evaluator.Scorer
import NetOpsBench.Incident.Engine
import NetOpsBench.Incident.Payloads

/-!
# A diagnostic session

One agent works on a prepared incident: it calls tools until it submits a diagnosis, and both check
the limits of the session first. Times are in seconds.

A `SessionRun` is a session with the incident that it works on; `SessionRun.callTool` and
`SessionRun.submit` are the calls of an agent. Every call checks the limits first (`limitMessage`).
-/

namespace NetOpsBench.Incident

open Simulator (Raised)
open Scorer (EvaluationResult)

/-- The limits of a session. -/
structure SimulatorConfig where
  maxToolCalls : ℕ := 20
  maxAgentSeconds : ℕ := 300
  maxToolResultBytes : ℕ := 8192
  maxToolCalls_pos : 1 ≤ maxToolCalls := by decide
  maxAgentSeconds_pos : 1 ≤ maxAgentSeconds := by decide
  maxToolResultBytes_ge : 1024 ≤ maxToolResultBytes := by decide

structure ToolAction where
  name : String
  arguments : List (String × Payload)

structure AgentUsage where
  inputTokens : ℕ := 0
  outputTokens : ℕ := 0

inductive SessionState where
  | active | terminal
deriving DecidableEq, Repr

def SessionState.value : SessionState → String
  | .active => "active"
  | .terminal => "terminal"

inductive TerminationReason where
  | submitted | agentError | protocolError | limitExhausted
deriving DecidableEq, Repr

/-- `evaluation` and `usage` are those of a submission. -/
structure SessionMetrics where
  toolCalls : ℕ
  elapsedSeconds : ℚ
  evaluation : Option EvaluationResult := none
  usage : Option AgentUsage := none

structure SessionTransition where
  state : SessionState
  observation : Payload := .obj []
  reward : Option ℚ := none
  metrics : SessionMetrics
  terminationReason : Option TerminationReason := none
  failure : Option ExecutionFailure := none
  error : Option String := none

structure DiagnosticSession where
  config : SimulatorConfig
  startedAt : ℚ
  state : SessionState := .active
  toolCalls : ℕ := 0
  toolCallRecords : List ToolAction := []
  evaluationResult : Option EvaluationResult := none

namespace DiagnosticSession

variable (session : DiagnosticSession)

def elapsed (now : ℚ) : ℚ := max 0 (now - session.startedAt)

/-- `_require_active` -/
def requireActive (incident : PreparedIncident) : Except Raised Unit :=
  if session.state ≠ .active then
    .error ⟨"RuntimeError", "Diagnostic session is not active: " ++ session.state.value⟩
  else if incident.state ≠ .active then
    .error incident.notActive
  else
    .ok ()

def metrics (elapsed : ℚ) : SessionMetrics :=
  { toolCalls := session.toolCalls, elapsedSeconds := elapsed }

def limitMessage (elapsed : ℚ) : Option String :=
  if session.config.maxAgentSeconds < elapsed then
    some "max_agent_seconds exceeded"
  else if session.config.maxToolCalls ≤ session.toolCalls then
    some "max_tool_calls exceeded"
  else
    none

/-- What a session that has reached a limit answers. -/
def limitTransition (elapsed : ℚ) (message : String) : DiagnosticSession × SessionTransition :=
  ({ session with state := .terminal },
    { state := .terminal
      reward := some 0
      metrics := session.metrics elapsed
      terminationReason := some .limitExhausted
      failure := some { domain := .agent, phase := "limits", message }
      error := some message })

/-- `_bounded_tool_observation` -/
def boundedToolObservation (entries : List (String × Payload)) : Payload :=
  match Payload.compactJson (.obj entries) session.config.maxToolResultBytes with
  | .obj bounded => .obj bounded
  | bounded => .obj [("result", bounded)]

/-- The observation of a call that failed. -/
def failedObservation (action : ToolAction) (message : String) : Payload :=
  session.boundedToolObservation
    [("tool", .str action.name), ("success", .bool false), ("error", .str message)]

end DiagnosticSession

/-- What a call of a session does beyond the session. -/
inductive SessionEffect where
  | executed (action : ToolAction)
  | graded

/-- A session on its incident. `effects` are the tool calls that the backend got and the diagnoses
that were graded. -/
structure SessionRun where
  incident : PreparedIncident
  session : DiagnosticSession
  effects : List SessionEffect := []

namespace SessionRun

variable (run : SessionRun)

/-- `valid` is whether the registry of tools accepts the call, `tool` what the backend answers. -/
def callTool (now : ℚ) (action : ToolAction) (valid : Bool) (tool : Except Raised Payload) :
    SessionRun × Except Raised SessionTransition :=
  match run.session.requireActive run.incident with
  | .error error => (run, .error error)
  | .ok () =>
    let elapsed := run.session.elapsed now
    match run.session.limitMessage elapsed with
    | some message =>
      let (session, transition) := run.session.limitTransition elapsed message
      ({ run with session }, .ok transition)
    | none =>
      let session := { run.session with
        toolCalls := run.session.toolCalls + 1
        toolCallRecords := run.session.toolCallRecords ++ [action] }
      if !valid then
        let message := "Invalid tool action: " ++ action.name
        ({ run with session }, .ok
          { state := session.state
            observation := session.failedObservation action message
            failure := some { domain := .protocol, phase := "tool_validation", message }
            error := some message
            metrics := session.metrics elapsed })
      else
        let called := run.incident.callTool action.name valid (tool.map fun _ => ())
        let run := { run with
          incident := called.1, session, effects := run.effects ++ [.executed action] }
        match called.2, tool with
        | .ok (), .ok result =>
          (run, .ok
            { state := session.state
              observation := session.boundedToolObservation
                [("tool", .str action.name), ("result", result)]
              metrics := session.metrics elapsed })
        | .error error, _ | .ok (), .error error =>
          (run, .ok
            { state := session.state
              observation := session.failedObservation action error.message
              failure := some
                { domain := .toolExecution, phase := "tool_execution", message := error.message
                  errorType := some error.errorType }
              error := some error.message
              metrics := session.metrics elapsed })

/-- `accounted` is the number of tool calls that the agent reports instead of the recorded ones, and
`evaluation` what the grading comes to. -/
def submit (now : ℚ) (usage : Option AgentUsage) (accounted : Option ℕ)
    (evaluation : Except Raised EvaluationResult) : SessionRun × Except Raised SessionTransition :=
  match run.session.requireActive run.incident with
  | .error error => (run, .error error)
  | .ok () =>
    let elapsed := run.session.elapsed now
    match run.session.limitMessage elapsed with
    | some message =>
      let (session, transition) := run.session.limitTransition elapsed message
      ({ run with session }, .ok transition)
    | none =>
      let evaluated := run.incident.evaluate (evaluation.map fun _ => ())
      let run := { run with incident := evaluated.1, effects := run.effects ++ [.graded] }
      match evaluated.2, evaluation with
      | .ok (), .ok evaluation =>
        let session := { run.session with
          state := .terminal, evaluationResult := some evaluation }
        let toolCalls := (accounted.filter (· ≠ 0)).getD session.toolCallRecords.length
        ({ run with session }, .ok
          { state := .terminal
            reward := some evaluation.score
            metrics := { session.metrics elapsed with
              toolCalls, evaluation := some evaluation, usage }
            terminationReason := some .submitted })
      | .error error, _ | .ok (), .error error => (run, .error error)

def terminateFailure (now : ℚ) (domain : FailureDomain) (message : String)
    (reason : TerminationReason) : SessionRun × Except Raised SessionTransition :=
  match run.session.requireActive run.incident with
  | .error error => (run, .error error)
  | .ok () =>
    ({ run with session := { run.session with state := .terminal } }, .ok
      { state := .terminal
        reward := some 0
        metrics := run.session.metrics (run.session.elapsed now)
        terminationReason := some reason
        failure := some { domain, phase := "diagnosis", message }
        error := some message })

end SessionRun

end NetOpsBench.Incident
