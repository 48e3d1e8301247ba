import NetOpsBench.Data.Fallible
import NetOpsBench.Data.Python

/-!
# The responses of a model

What the trace recorder reads from the response of a model: its messages, and the tokens that it
used. A client library may hand over dictionaries or objects of its own, so a response is a value of
any shape. An exception leaves the reader as an error.

A `Value` is what Python may hand over, as far as it is looked at. `responseMessages` are the messages
of a response, and `responseTokenUsage` its tokens: those of the response itself, or else the sum over
its messages.
-/

namespace NetOpsBench.Agents

/-! ## Values -/

/-- A value of Python, as far as the recorder looks at it. -/
inductive Value where
  | none
  | bool (value : Bool)
  | int (value : Int)
  | float (value : ℚ)
  | nan
  | infinity (negative : Bool)
  | str (text : String)
  | list (items : List Value)
  | dict (entries : List (String × Value))
  | object (attributes : List (String × Value))

inductive Raised where
  | typeError
  | attributeError
  | overflowError
deriving DecidableEq, Repr

namespace Value

def isNone : Value → Bool
  | none => true
  | _ => false

def isDict : Value → Bool
  | dict _ => true
  | _ => false

/-- `bool(value)` -/
def truthy : Value → Bool
  | none => false
  | bool value => value
  | int value => value ≠ 0
  | float value => value ≠ 0
  | nan => true
  | infinity _ => true
  | str text => text ≠ ""
  | list items => !items.isEmpty
  | dict entries => !entries.isEmpty
  | object _ => true

/-- `value or other` -/
def orElse (value other : Value) : Value := if value.truthy then value else other

/-- `for item in value` -/
def iterate : Value → Except Raised (List Value)
  | list items => .ok items
  | dict entries => .ok (entries.map fun entry => str entry.1)
  | str text => .ok (text.toList.map fun c => str (.singleton c))
  | _ => .error .typeError

/-- `value.get(key, default)` -/
def get (value : Value) (key : String) (default : Value) : Except Raised Value :=
  match value with
  | dict entries => .ok ((entries.lookup key).getD default)
  | _ => .error .attributeError

end Value

/-- `_message_attr` -/
def messageAttr (message : Value) (key : String) : Value :=
  match message with
  | .dict entries => (entries.lookup key).getD .none
  | .object attributes => (attributes.lookup key).getD .none
  | _ => .none

/-- `_safe_int`: what is no number counts as zero, except for the infinities. -/
def safeInt : Value → Except Raised Int
  | .bool value => .ok (if value then 1 else 0)
  | .int value => .ok value
  | .float value => .ok (Python.int value)
  | .infinity _ => .error .overflowError
  | .str text => .ok ((Python.parseInt text).getD 0)
  | _ => .ok 0

/-! ## Messages -/

/-- The message of one generation, or its text as a message. -/
def generationMessage (generation : Value) : Option Value :=
  let message := messageAttr generation "message"
  let text := messageAttr generation "text"
  if !message.isNone then some message
  else if !text.isNone then some (.dict [("role", .str "assistant"), ("content", text)])
  else none

def responseMessages (response : Value) : Except Raised (List Value) := do
  let choices ← ((messageAttr response "choices").orElse (.list [])).iterate
  let messages := (choices.map fun choice => messageAttr choice "message").filter (!·.isNone)
  if !messages.isEmpty then
    return messages
  let groups ← ((messageAttr response "generations").orElse (.list [])).iterate
  let generations ← groups.mapM fun group => (group.orElse (.list [])).iterate
  return generations.flatten.filterMap generationMessage

/-! ## Tokens -/

inductive TokenKind where
  | input
  | output
  | total
deriving DecidableEq, Repr

/-- The counts of the three kinds. -/
abbrev TokenCounts := TokenKind → Int

def tokenCounts (input output total : Int) : TokenCounts
  | .input => input
  | .output => output
  | .total => total

def messageTokenUsage (message : Value) : Except Raised TokenCounts := do
  let usage := (messageAttr message "usage_metadata").orElse (.dict [])
  let metadata := (messageAttr message "response_metadata").orElse (.dict [])
  let tokenUsage ←
    if metadata.isDict then (metadata.get "token_usage" .none).map (·.orElse (.dict []))
    else .ok (.dict [])
  let inputTokens ← safeInt (← usage.get "input_tokens" (← tokenUsage.get "prompt_tokens" (.int 0)))
  let outputTokens ←
    safeInt (← usage.get "output_tokens" (← tokenUsage.get "completion_tokens" (.int 0)))
  let total ← usage.get "total_tokens" (← tokenUsage.get "total_tokens" .none)
  let totalTokens ← if total.isNone then .ok (inputTokens + outputTokens) else safeInt total
  return tokenCounts inputTokens outputTokens totalTokens

/-- The usage of the response itself, or else that of its messages. -/
def responseTokenUsage (response : Value) (messages : List Value) : Except Raised TokenCounts := do
  let usage := messageAttr response "usage"
  if !usage.isNone then
    let inputTokens ←
      safeInt ((messageAttr usage "prompt_tokens").orElse (messageAttr usage "input_tokens"))
    let outputTokens ←
      safeInt ((messageAttr usage "completion_tokens").orElse (messageAttr usage "output_tokens"))
    let totalTokens ← safeInt (messageAttr usage "total_tokens")
    return tokenCounts inputTokens outputTokens
      (if totalTokens ≠ 0 then totalTokens else inputTokens + outputTokens)
  let counts ← messages.mapM messageTokenUsage
  return counts.sum

end NetOpsBench.Agents
