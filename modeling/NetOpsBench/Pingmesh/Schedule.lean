import NetOpsBench.ClientAgent.Config

/-!
# The probe schedule of one client agent

The constants `probe_loop` derives from its configuration (`ProbeLoop`), and what one iteration
of the loop schedules for one value of the cycle counter (`ProbeLoop.cycle`). A socket is the
index of its source port in the pool; what is sent over it, and what comes back, is not modelled
here.
-/

namespace NetOpsBench.Pingmesh
open ClientAgent Tiling

structure Target where
  client : Client
  pathType : String
deriving DecidableEq, Repr

inductive ProbeKind where
  | rtt
  | df
deriving DecidableEq, Repr

def localIndex (config : ClientAgentConfig) (localClient : Client) : Option Nat :=
  config.clients.findIdx? (·.name == localClient.name)

/-- `None` is the panic of `expect("validated local client")`. -/
def buildTargets (config : ClientAgentConfig) (localClient : Client) : Option (List Target) :=
  (localIndex config localClient).bind fun localIndex =>
    (List.range' 1 (config.clients.length - 1)).mapM fun offset =>
      config.clients[(localIndex + offset) % config.clients.length]?.map fun client =>
        let pathType := if client.rack = localClient.rack then "same_rack" else "cross_rack"
        { client, pathType }

def rotatingDestinationBatch (targets : List α) (batchSize batchIndex phaseOffset : Nat) :
    List α :=
  if targets.isEmpty then
    []
  else
    let size := clamp batchSize 1 targets.length
    let batchCount := divCeil targets.length size
    let phase := phaseOffset % targets.length
    let ordered := targets.drop phase ++ targets.take phase
    -- `skip(batch_index % batch_count).step_by(batch_count)`
    stepFrom batchCount 0 (ordered.drop (batchIndex % batchCount))

def probeBatchIndices (cycle destinationBatchCount portBatchCount portPhase : Nat) : Nat × Nat :=
  let destinationCount := max destinationBatchCount 1
  let portCount := max portBatchCount 1
  let epochCycle := cycle % (destinationCount * portCount)
  let destinationBatch := epochCycle % destinationCount
  let portRound := epochCycle / destinationCount
  (destinationBatch, (portRound + portPhase) % portCount)

def buildProbeSchedule (targetCount socketCount : Nat) : List (ProbeKind × Nat × Nat) :=
  (List.range targetCount).flatMap fun targetIndex =>
    (List.range socketCount).map (fun socketIndex => (.rtt, targetIndex, socketIndex)) ++
      if socketCount > 0 then [(.df, targetIndex, targetIndex % socketCount)] else []

def rotateProbeSchedule (queue : List α) (phase : Nat) : List α :=
  if queue.isEmpty then queue else queue.rotate (phase % queue.length)

/-- The constants of `probe_loop`: everything it derives from the configuration before its first
cycle. `hostSeed` is the hash of the local client's name. -/
structure ProbeLoop where
  targets : List Target
  policy : PingmeshPolicy
  destinationBatchSize : Nat
  destinationPhase : Nat
  hostSeed : Nat
  portPhase : Nat
  /-- The source-port index of every probe socket. -/
  sockets : List Nat

def probeLoop (config : ClientAgentConfig) (localClient : Client) (hostSeed : Nat) :
    Option ProbeLoop :=
  (buildTargets config localClient).map fun targets =>
    let policy := config.pingmeshPolicy
    { targets, policy, hostSeed
      destinationBatchSize :=
        clamp (policy.destinationBatchSize.getD targets.length) 1 targets.length
      destinationPhase := (localIndex config localClient).getD 0
      portPhase := hostSeed % policy.portBatchCount
      sockets := List.range policy.rttPortPoolSize }

/-- What one iteration of the loop schedules. -/
structure ProbeCycle where
  cycle : Nat
  destinationBatch : Nat
  portBatch : Nat
  activeTargets : List Target
  activeSockets : List Nat
  sendQueue : List (ProbeKind × Nat × Nat)
deriving DecidableEq, Repr

def ProbeLoop.cycle (loop : ProbeLoop) (cycle : Nat) : ProbeCycle :=
  let (destinationBatch, portBatch) := probeBatchIndices cycle loop.policy.destinationBatchCount
    loop.policy.portBatchCount loop.portPhase
  let activeTargets := rotatingDestinationBatch loop.targets loop.destinationBatchSize
    destinationBatch loop.destinationPhase
  let portStart := portBatch * loop.policy.rttPortsPerCycle
  let portEnd := min (portStart + loop.policy.rttPortsPerCycle) loop.sockets.length
  let activeSockets := loop.sockets.extract portStart portEnd
  let phase := (loop.hostSeed + cycle * 0x9e3779b97f4a7c15) % 2 ^ 64
  { cycle, destinationBatch, portBatch, activeTargets, activeSockets
    sendQueue :=
      rotateProbeSchedule (buildProbeSchedule activeTargets.length activeSockets.length) phase }

/-- `cycle.wrapping_add(1)` -/
def nextCycle (cycle : Nat) : Nat := (cycle + 1) % 2 ^ 64

/-- The next `count` cycles of the loop. -/
def ProbeLoop.run (loop : ProbeLoop) (start count : Nat) : List ProbeCycle :=
  (List.iterate nextCycle start count).map loop.cycle

/-- The probe that an RTT entry of the send queue sends: its destination and its source-port
index. -/
def ProbeCycle.rttProbe (cycle : ProbeCycle) : ProbeKind × Nat × Nat → Option (Client × Nat)
  | (.rtt, targetIndex, socketIndex) =>
    cycle.activeTargets[targetIndex]?.bind fun target =>
      cycle.activeSockets[socketIndex]?.map fun port => (target.client, port)
  | (.df, _, _) => none

def ProbeCycle.rttProbes (cycle : ProbeCycle) : List (Client × Nat) :=
  cycle.sendQueue.filterMap cycle.rttProbe

end NetOpsBench.Pingmesh
