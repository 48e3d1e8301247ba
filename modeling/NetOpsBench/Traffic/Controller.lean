import NetOpsBench.Data.Run
import NetOpsBench.Traffic.Runtime

/-!
# Switching generations

The controller switches the traffic of all clients in rounds: it resets all, loads all, enables all,
and resets all again when something failed. A request is tried twice; a copy that timed out is still
on its way and may reach its agent at any later time, or never.

`System.step` takes one event: the controller starts a round or moves on, sends, or gives up waiting; one
of the copies on their way, in whatever order, is delivered.
-/

namespace NetOpsBench.Traffic

/-! ## Requests -/

/-- What `start_matrix` sends in one round: the digests are those that the controller computed. -/
structure Round where
  generation : UInt64
  plans : String → ClientTrafficPlan
  planDigests : String → String

inductive Operation where
  | reset
  | load
  | enable
  | recover
deriving DecidableEq, Repr

def Round.loadPayload (round : Round) (client : String) : LoadPayload where
  generation := round.generation
  planDigest := round.planDigests client
  plan := round.plans client

def Round.generationPayload (round : Round) (client : String) : GenerationPayload where
  generation := round.generation
  planDigest := round.planDigests client

def Round.request (round : Round) (client : String) : Operation → Request
  | .reset => .reset
  | .load => .loadPlan (.ok (round.loadPayload client))
  | .enable => .enable (.ok (round.generationPayload client))
  | .recover => .reset

/-- A round with its number. -/
structure Started where
  index : Nat
  round : Round

/-- A copy of a request on its way. -/
structure Copy where
  origin : Started
  operation : Operation
  client : String
  attempt : Nat

def Copy.request (copy : Copy) : Request := copy.origin.round.request copy.client copy.operation

/-- The copy makes its agent drop whatever it has. -/
def Copy.Resets (copy : Copy) : Prop := copy.operation = .reset ∨ copy.operation = .recover

instance (copy : Copy) : Decidable copy.Resets := inferInstanceAs (Decidable (_ ∨ _))

/-- A request of `_request_with_retry`: its attempts are number 0 and number 1. -/
inductive Call where
  | unsent (attempt : Nat)
  | waiting (attempt : Nat)
  | answered
  | failed
deriving DecidableEq, Repr

def Call.Concluded (call : Call) : Prop := call = .answered ∨ call = .failed

instance (call : Call) : Decidable call.Concluded := inferInstanceAs (Decidable (_ ∨ _))

/-! ## The system -/

inductive Phase where
  | idle
  | requesting (operation : Operation)
  | polling
deriving DecidableEq, Repr

/-- The controller and its agents. The last three fields record what happened: the latest round whose
reset an agent handled, the latest round that came to load its plans, and the round, if no later one
came to load, whose enable every agent acknowledged. -/
structure System where
  agents : String → TrafficRuntime
  flight : List Copy
  current : Option Started
  phase : Phase
  calls : String → Call
  resets : String → Nat
  loading : Option Started
  acknowledged : Option Started

def System.init (localIps : String → Ipv4.Addr) : System where
  agents client := .fresh (localIps client)
  flight := []
  current := none
  phase := .idle
  calls _ := .unsent 0
  resets _ := 0
  loading := none
  acknowledged := none

inductive SystemEvent where
  | start (round : Round)
  | send (client : String)
  | deliver (position : Nat) (machine : Machine) (answered : Bool)
  | timeout (client : String)
  | advance
  | ready
  | unready
  | sender (client : String) (event : SenderEvent)

namespace System

variable (sha256 : String → List UInt8) (clients : List String) (system : System)

/-- The number of the rounds that have started. -/
def index : Nat := (system.current.map (·.index)).getD 0

def enter (phase : Phase) : System := { system with phase, calls := fun _ => .unsent 0 }

def start (round : Round) : System :=
  if system.phase = .idle then
    { system with current := some { index := system.index + 1, round } }.enter (.requesting .reset)
  else
    system

def send (client : String) : System :=
  match system.phase, system.current, system.calls client with
  | .requesting operation, some origin, .unsent attempt =>
    if client ∈ clients then
      { system with
        flight := system.flight ++ [{ origin, operation, client, attempt }]
        calls := Function.update system.calls client (.waiting attempt) }
    else
      system
  | _, _, _ => system

/-- The controller waits for the answer to this copy. -/
def Awaits (copy : Copy) : Prop :=
  system.phase = .requesting copy.operation ∧ system.index = copy.origin.index ∧
    system.calls copy.client = .waiting copy.attempt

instance (copy : Copy) : Decidable (system.Awaits copy) :=
  inferInstanceAs (Decidable (_ ∧ _ ∧ _))

/-- An agent handles a copy; its answer may come back in time. -/
def deliver (position : Nat) (machine : Machine) (answered : Bool) : System :=
  match system.flight[position]? with
  | none => system
  | some copy =>
    let (runtime, response) :=
      (system.agents copy.client).handleRequest sha256 copy.request machine
    { system with
      agents := Function.update system.agents copy.client runtime
      flight := system.flight.eraseIdx position
      resets :=
        if copy.Resets then
          Function.update system.resets copy.client
            (max (system.resets copy.client) copy.origin.index)
        else
          system.resets
      calls :=
        if answered ∧ system.Awaits copy then
          Function.update system.calls copy.client (if response.ok then .answered else .failed)
        else
          system.calls }

/-- The answer does not come, or cannot be read. -/
def timeout (client : String) : System :=
  match system.calls client with
  | .waiting attempt =>
    { system with
      calls := Function.update system.calls client
        (if attempt = 0 then .unsent 1 else .failed) }
  | _ => system

/-- The end of `_parallel_requests`: every client has its answer or failed. -/
def advance : System :=
  match system.phase with
  | .requesting operation =>
    if ∀ client ∈ clients, (system.calls client).Concluded then
      if operation = .recover then
        system.enter .idle
      else if ∀ client ∈ clients, system.calls client = .answered then
        match operation with
        | .reset =>
          { system with loading := system.current, acknowledged := none }.enter (.requesting .load)
        | .load => system.enter (.requesting .enable)
        | _ => { system with acknowledged := system.current }.enter .polling
      else
        system.enter (.requesting .recover)
    else
      system
  | _ => system

def step : SystemEvent → System
  | .start round => system.start round
  | .send client => system.send clients client
  | .deliver position machine answered => system.deliver sha256 position machine answered
  | .timeout client => system.timeout client
  | .advance => system.advance clients
  | .ready => if system.phase = .polling then system.enter .idle else system
  | .unready => if system.phase = .polling then system.enter (.requesting .recover) else system
  | .sender client event =>
    { system with
      agents := Function.update system.agents client ((system.agents client).sender event) }

/-- The system after some events. -/
def run (localIps : String → Ipv4.Addr) (events : List SystemEvent) : System :=
  events.foldl (fun system event => system.step sha256 clients event) (.init localIps)

end System

end NetOpsBench.Traffic
