import NetOpsBench.ClientAgent.Control
import NetOpsBench.Data.Ipv4
import NetOpsBench.Data.Json

/-!
# The traffic process of a client

Control requests load a plan, start and stop its sender, or reset the process; between them the
sender reports its flows. A request holds the runtime to its end, so requests come one after another.
`sha256` is the digest of the UTF-8 bytes of a text.

`TrafficRuntime.handleRequest` takes a request and `TrafficRuntime.sender` a report of the sender;
`TrafficRuntime.step` is either.
-/

namespace NetOpsBench.Traffic
open ClientAgent

/-! ## Plans -/

inductive Transport where
  | tcp
  | udp
deriving DecidableEq, Repr

def Transport.toJson : Transport → Json
  | tcp => .str "tcp"
  | udp => .str "udp"

structure ListenerPlan where
  protocol : Transport
  port : UInt16
deriving DecidableEq

def ListenerPlan.toJson (listener : ListenerPlan) : Json :=
  .obj [("protocol", listener.protocol.toJson), ("port", .int listener.port.toNat)]

structure FlowPlan where
  flowId : String
  protocol : Transport
  dstIp : Ipv4.Addr
  dstPort : UInt16
  bandwidthBps : UInt64
  payloadBytes : UInt64
  tcpMss : UInt32
deriving DecidableEq

def FlowPlan.toJson (flow : FlowPlan) : Json :=
  .obj [("flow_id", .str flow.flowId), ("protocol", flow.protocol.toJson),
    ("dst_ip", .str (toString flow.dstIp)), ("dst_port", .int flow.dstPort.toNat),
    ("bandwidth_bps", .int flow.bandwidthBps.toNat), ("payload_bytes", .int flow.payloadBytes.toNat),
    ("tcp_mss", .int flow.tcpMss.toNat)]

structure ClientTrafficPlan where
  listeners : List ListenerPlan
  flows : List FlowPlan
deriving DecidableEq

def ClientTrafficPlan.toJson (plan : ClientTrafficPlan) : Json :=
  .obj [("listeners", .arr (plan.listeners.map (·.toJson))),
    ("flows", .arr (plan.flows.map (·.toJson)))]

/-- The lower-case hexadecimal digits of some bytes. -/
def hex (bytes : List UInt8) : String :=
  .ofList (bytes.flatMap fun byte =>
    [Nat.digitChar (byte.toNat / 16), Nat.digitChar (byte.toNat % 16)])

def planDigest (sha256 : String → List UInt8) (plan : ClientTrafficPlan) : String :=
  hex (sha256 plan.toJson.canonical.compact)

/-! ## Requests -/

structure LoadPayload where
  generation : UInt64
  planDigest : String
  plan : ClientTrafficPlan
deriving DecidableEq

structure GenerationPayload where
  generation : UInt64
  planDigest : String
deriving DecidableEq

/-- A request, with what the decoding of its payload came to. -/
inductive Request where
  | loadPlan (payload : Except String LoadPayload)
  | enable (payload : Except String GenerationPayload)
  | disable (payload : Except String GenerationPayload)
  | reset
  | status
  | other (op : String)

/-- What the machine answers during a request: the clock, and each bind of a socket in turn. -/
structure Machine where
  now : Nat
  binds : Nat → Except String Unit

/-! ## The runtime -/

/-- A flow of the running sender. -/
structure ScheduledFlow where
  plan : FlowPlan
  active : Bool
deriving DecidableEq

/-- The process of one client: its listener tasks are those that hold a socket. -/
structure TrafficRuntime where
  localIp : Ipv4.Addr
  status : AgentStatus
  plan : Option ClientTrafficPlan
  listenerTasks : List ListenerPlan
  senderTask : Option (List ScheduledFlow)
deriving DecidableEq

namespace TrafficRuntime

def fresh (localIp : Ipv4.Addr) : TrafficRuntime where
  localIp
  status := {}
  plan := none
  listenerTasks := []
  senderTask := none

def disable (runtime : TrafficRuntime) : TrafficRuntime :=
  { runtime with
    senderTask := none
    status := { runtime.status with
      enabled := false
      activeFlows := 0
      ready := runtime.status.activeListeners = runtime.status.expectedListeners } }

def stopListeners (runtime : TrafficRuntime) : TrafficRuntime :=
  { runtime with listenerTasks := [] }

def spawnListener (localIp : Ipv4.Addr) (listener : ListenerPlan) :
    Except String Unit → Except String ListenerPlan
  | .ok () => .ok listener
  | .error cause =>
    let name := match listener.protocol with
      | .tcp => "TCP"
      | .udp => "UDP"
    .error s!"bind {name} traffic listener {localIp}:{listener.port.toNat}: {cause}"

/-- The listeners of a plan, after those of `handles`. The first bind that fails drops them all. -/
def spawnListeners (localIp : Ipv4.Addr) (binds : Nat → Except String Unit)
    (handles : List ListenerPlan) : List ListenerPlan → Except String (List ListenerPlan)
  | [] => .ok handles
  | listener :: listeners =>
    match spawnListener localIp listener (binds handles.length) with
    | .ok handle => spawnListeners localIp binds (handles ++ [handle]) listeners
    | .error error => .error error

def load (sha256 : String → List UInt8) (runtime : TrafficRuntime) (payload : LoadPayload)
    (machine : Machine) : TrafficRuntime × Except String Unit :=
  if payload.generation = 0 ∨ payload.planDigest = "" then
    (runtime, .error "generation and plan_digest are required")
  else
    let calculated := planDigest sha256 payload.plan
    if calculated ≠ payload.planDigest then
      (runtime, .error
        s!"traffic plan digest mismatch: received {payload.planDigest}, calculated {calculated}")
    else
      let runtime := runtime.disable.stopListeners
      match spawnListeners runtime.localIp machine.binds [] payload.plan.listeners with
      | .error error =>
        ({ runtime with
            plan := none
            status := AgentStatus.refreshHeartbeat {} machine.now }, .error error)
      | .ok handles =>
        ({ runtime with
            listenerTasks := handles
            plan := some payload.plan
            status := { runtime.status with
              generation := payload.generation
              planDigest := payload.planDigest
              enabled := false
              expectedFlows := payload.plan.flows.length
              activeFlows := 0
              expectedListeners := payload.plan.listeners.length
              activeListeners := handles.length
              ready := handles.length = payload.plan.listeners.length
              lastError := none } }, .ok ())

def reset (runtime : TrafficRuntime) (machine : Machine) : TrafficRuntime :=
  { runtime.disable.stopListeners with
    plan := none
    status := AgentStatus.refreshHeartbeat {} machine.now }

def validateGeneration (runtime : TrafficRuntime) (payload : GenerationPayload) :
    Except String Unit :=
  if runtime.status.generation ≠ payload.generation ∨
      runtime.status.planDigest ≠ payload.planDigest then
    .error "traffic generation or plan digest mismatch"
  else
    .ok ()

def enable (runtime : TrafficRuntime) (payload : GenerationPayload) :
    TrafficRuntime × Except String Unit :=
  match runtime.validateGeneration payload with
  | .error error => (runtime, .error error)
  | .ok () =>
    if runtime.senderTask.isSome then
      (runtime, .ok ())
    else
      match runtime.plan with
      | none => (runtime, .error "traffic plan is not loaded")
      | some plan =>
        let status := { runtime.status with enabled := true, ready := false, activeFlows := 0 }
        if plan.flows = [] then
          ({ runtime with
              status := { status with
                ready := status.activeListeners = status.expectedListeners } }, .ok ())
        else
          ({ runtime with
              status
              senderTask := some (plan.flows.map fun plan => { plan, active := false }) }, .ok ())

/-- What a request makes of the runtime, and whether it succeeds. -/
def perform (sha256 : String → List UInt8) (runtime : TrafficRuntime) (request : Request)
    (machine : Machine) : TrafficRuntime × Except String Unit :=
  match request with
  | .loadPlan (.ok payload) => runtime.load sha256 payload machine
  | .loadPlan (.error error) => (runtime, .error error)
  | .enable (.ok payload) => runtime.enable payload
  | .enable (.error error) => (runtime, .error error)
  | .disable (.ok payload) =>
    match runtime.validateGeneration payload with
    | .ok () => (runtime.disable, .ok ())
    | .error error => (runtime, .error error)
  | .disable (.error error) => (runtime, .error error)
  | .reset => (runtime.reset machine, .ok ())
  | .status => (runtime, .ok ())
  | .other op => (runtime, .error s!"unsupported operation {op}")

def handleRequest (sha256 : String → List UInt8) (runtime : TrafficRuntime) (request : Request)
    (machine : Machine) : TrafficRuntime × ResponseEnvelope :=
  let (runtime, result) := runtime.perform sha256 request machine
  (runtime, .ofResult runtime.status result)

end TrafficRuntime

/-! ## The sender -/

/-- What the running sender reports to the status. -/
inductive SenderEvent where
  | setFlowActive (index : Nat) (value : Bool)
  | recordSchedulerTick (packets bytes : UInt64) (now : Nat)
  | recordReconnect
  | recordError (error : String)

def setFlowActive (status : AgentStatus) (value : Bool) : AgentStatus :=
  let activeFlows := if value then status.activeFlows + 1 else status.activeFlows - 1
  let ready := status.activeListeners = status.expectedListeners ∧
    (¬ status.enabled ∨ activeFlows = status.expectedFlows)
  { status with activeFlows, ready, lastError := if ready then none else status.lastError }

/-- A process without a sender has no such event. -/
def TrafficRuntime.sender (runtime : TrafficRuntime) (event : SenderEvent) : TrafficRuntime :=
  match runtime.senderTask with
  | none => runtime
  | some flows =>
    match event with
    | .setFlowActive index value =>
      match flows[index]? with
      | none => runtime
      | some flow =>
        if flow.active = value then runtime
        else
          { runtime with
            senderTask := some (flows.set index { flow with active := value })
            status := setFlowActive runtime.status value }
    | .recordSchedulerTick packets bytes now =>
      let status := { runtime.status with
        packetsSent := runtime.status.packetsSent + packets
        bytesSent := runtime.status.bytesSent + bytes }
      { runtime with status := status.refreshHeartbeat now }
    | .recordReconnect =>
      { runtime with
        status := { runtime.status with reconnects := runtime.status.reconnects + 1 } }
    | .recordError error =>
      { runtime with status := { runtime.status with lastError := some error } }

/-! ## Runs -/

inductive Event where
  | request (request : Request) (machine : Machine)
  | sender (event : SenderEvent)

def TrafficRuntime.step (sha256 : String → List UInt8) (runtime : TrafficRuntime) :
    Event → TrafficRuntime
  | .request request machine => (runtime.handleRequest sha256 request machine).1
  | .sender event => runtime.sender event

/-- A process after some events. -/
def TrafficRuntime.run (sha256 : String → List UInt8) (localIp : Ipv4.Addr) (events : List Event) :
    TrafficRuntime :=
  events.foldl (·.step sha256 ·) (.fresh localIp)

end NetOpsBench.Traffic
