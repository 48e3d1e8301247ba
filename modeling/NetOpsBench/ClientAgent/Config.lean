import NetOpsBench.Data.Binary64
import NetOpsBench.Data.Ipv4
import NetOpsBench.Data.Tiling

/-!
# The configuration of the native client agent

`ClientAgentConfig` with the checks the agent makes before it starts, and `Accepted`, what these
checks guarantee (`accepted_of_validate`).

The numbers of a configuration are those of its JSON text. `load` refuses one that a `usize` or `u64`
field cannot hold before it validates the rest; the agents run on 64-bit hosts. A configuration lists its
clients in memory and its source ports have 16 bits, which keeps every product of counts here far below
`2 ^ 64`.
-/

namespace NetOpsBench.ClientAgent
open Tiling

def configSchemaVersion : Nat := 1

structure Client where
  name : String
  dataIp : Ipv4.Addr
  managementIp : Ipv4.Addr
  rack : String
  leaf : String
deriving DecidableEq, Repr

/-- The policy as it is written. What an agent works with also satisfies `PingmeshPolicy.Parses`. -/
structure PingmeshPolicy where
  destinationBatchSize : Option Nat
  rttPortPoolSize : Nat
  rttPortsPerCycle : Nat
  /-- A double, as the number it denotes. -/
  cycleIntervalSeconds : ℚ
  destinationBatchCount : Nat
  portBatchCount : Nat
  coverageEpochCycles : Nat
  coverageEpochSeconds : Nat
  dfPayloadSize : Nat

structure ClientAgentConfig where
  schemaVersion : Nat
  topologyId : String
  pingmeshPolicy : PingmeshPolicy
  clients : List Client

/-- No number is out of the range of its `usize`, `Option<usize>` or `u64` field. -/
structure PingmeshPolicy.Parses (policy : PingmeshPolicy) : Prop where
  destinationBatchSize : ∀ size ∈ policy.destinationBatchSize, size < 2 ^ 64
  rttPortPoolSize : policy.rttPortPoolSize < 2 ^ 64
  rttPortsPerCycle : policy.rttPortsPerCycle < 2 ^ 64
  destinationBatchCount : policy.destinationBatchCount < 2 ^ 64
  portBatchCount : policy.portBatchCount < 2 ^ 64
  coverageEpochCycles : policy.coverageEpochCycles < 2 ^ 64
  coverageEpochSeconds : policy.coverageEpochSeconds < 2 ^ 64
  dfPayloadSize : policy.dfPayloadSize < 2 ^ 64

instance (policy : PingmeshPolicy) : Decidable policy.Parses :=
  decidable_of_iff
    ((∀ size ∈ policy.destinationBatchSize, size < 2 ^ 64) ∧ policy.rttPortPoolSize < 2 ^ 64 ∧
      policy.rttPortsPerCycle < 2 ^ 64 ∧ policy.destinationBatchCount < 2 ^ 64 ∧
      policy.portBatchCount < 2 ^ 64 ∧ policy.coverageEpochCycles < 2 ^ 64 ∧
      policy.coverageEpochSeconds < 2 ^ 64 ∧ policy.dfPayloadSize < 2 ^ 64)
    ⟨fun ⟨h₁, h₂, h₃, h₄, h₅, h₆, h₇, h₈⟩ => ⟨h₁, h₂, h₃, h₄, h₅, h₆, h₇, h₈⟩,
      fun ⟨h₁, h₂, h₃, h₄, h₅, h₆, h₇, h₈⟩ => ⟨h₁, h₂, h₃, h₄, h₅, h₆, h₇, h₈⟩⟩

/-- `Ord::clamp`; the callers keep `low ≤ high`. -/
def clamp (value low high : Nat) : Nat := min (max value low) high

theorem clamp_pos {value high : Nat} (h : 0 < high) : 0 < clamp value 1 high := by
  simp only [clamp]; omega

/-- The agent's own derivation of the epoch duration, in double arithmetic. -/
def expectedEpochSeconds (policy : PingmeshPolicy) : Nat :=
  Binary64.toU64
    ⌈Binary64.round (Binary64.round policy.coverageEpochCycles * policy.cycleIntervalSeconds)⌉

/-- Up to the precision of a double, whole intervals give the exact product. -/
theorem expectedEpochSeconds_eq {policy : PingmeshPolicy} {seconds : Nat}
    (hinterval : policy.cycleIntervalSeconds = seconds)
    (hcycles : policy.coverageEpochCycles < 2 ^ 53)
    (h : policy.coverageEpochCycles * seconds < 2 ^ 53) :
    expectedEpochSeconds policy = policy.coverageEpochCycles * seconds := by
  have hproduct : Binary64.round (Binary64.round policy.coverageEpochCycles *
      policy.cycleIntervalSeconds) = (policy.coverageEpochCycles * seconds : Nat) := by
    rw [Binary64.round_natCast hcycles, hinterval, ← Nat.cast_mul, Binary64.round_natCast h]
  rw [expectedEpochSeconds, hproduct, Int.ceil_natCast, Binary64.toU64, Int.cast_natCast,
    Nat.floor_natCast]
  omega

def ClientAgentConfig.validate (config : ClientAgentConfig) : Except String Unit :=
  let policy := config.pingmeshPolicy
  if config.schemaVersion ≠ configSchemaVersion then
    .error s!"unsupported client-agent schema version {config.schemaVersion}; expected {configSchemaVersion}"
  else if config.clients.length < 2 then
    .error "client-agent config requires at least two clients"
  else
    let destinations := config.clients.length - 1
    let batchSize := clamp (policy.destinationBatchSize.getD destinations) 1 destinations
    let destinationBatches := divCeil destinations batchSize
    let ports := policy.rttPortPoolSize
    let portsPerCycle := policy.rttPortsPerCycle
    if ports = 0 ∨ portsPerCycle = 0 ∨ portsPerCycle > ports then
      .error "invalid Pingmesh source-port policy"
    else
      let portBatches := divCeil ports portsPerCycle
      if destinationBatches ≠ policy.destinationBatchCount ∨
          portBatches ≠ policy.portBatchCount ∨
          destinationBatches * portBatches ≠ policy.coverageEpochCycles then
        .error "stale Pingmesh coverage policy; regenerate the topology"
      else if policy.cycleIntervalSeconds ≤ 0 then
        .error "Pingmesh cycle interval must be positive"
      else if policy.coverageEpochSeconds ≠ expectedEpochSeconds policy then
        .error "stale Pingmesh coverage duration; regenerate the topology"
      else
        .ok ()

/-- `ClientAgentConfig::load` of a configuration that could be read. -/
def ClientAgentConfig.load (config : ClientAgentConfig) (path : String) : Except String Unit :=
  if config.pingmeshPolicy.Parses then config.validate else .error ("parse " ++ path)

/-- What an accepted configuration guarantees to the probe loop. -/
structure Accepted (config : ClientAgentConfig) : Prop where
  two_clients : 2 ≤ config.clients.length
  ports_pos : 0 < config.pingmeshPolicy.rttPortPoolSize
  portsPerCycle_pos : 0 < config.pingmeshPolicy.rttPortsPerCycle
  portsPerCycle_le : config.pingmeshPolicy.rttPortsPerCycle ≤ config.pingmeshPolicy.rttPortPoolSize
  destinationBatches : config.pingmeshPolicy.destinationBatchCount =
    divCeil (config.clients.length - 1) (clamp
      (config.pingmeshPolicy.destinationBatchSize.getD (config.clients.length - 1)) 1
      (config.clients.length - 1))
  portBatches : config.pingmeshPolicy.portBatchCount =
    divCeil config.pingmeshPolicy.rttPortPoolSize config.pingmeshPolicy.rttPortsPerCycle
  epochCycles : config.pingmeshPolicy.coverageEpochCycles =
    config.pingmeshPolicy.destinationBatchCount * config.pingmeshPolicy.portBatchCount

/-- The checks guarantee everything that the probe loop relies on. -/
theorem ClientAgentConfig.accepted_of_validate {config : ClientAgentConfig}
    (h : config.validate = .ok ()) : Accepted config := by
  simp only [validate] at h
  split at h
  · cases h
  split at h
  · cases h
  split at h
  · cases h
  split at h
  · cases h
  rename_i _ hclients hports hcounts
  simp only [not_or, not_not] at hports hcounts
  obtain ⟨hdest, hport, hcycles⟩ := hcounts
  exact {
    two_clients := by omega
    ports_pos := by omega
    portsPerCycle_pos := by omega
    portsPerCycle_le := by omega
    destinationBatches := hdest.symm
    portBatches := hport.symm
    epochCycles := by rw [← hdest, ← hport, hcycles] }

namespace Accepted

variable {config : ClientAgentConfig}

theorem destinationBatchCount_pos (h : Accepted config) :
    0 < config.pingmeshPolicy.destinationBatchCount := by
  have := h.two_clients
  rw [h.destinationBatches]
  exact divCeil_pos (by omega) (clamp_pos (by omega))

theorem portBatchCount_pos (h : Accepted config) : 0 < config.pingmeshPolicy.portBatchCount := by
  rw [h.portBatches]
  exact divCeil_pos h.ports_pos h.portsPerCycle_pos

end Accepted

end NetOpsBench.ClientAgent
