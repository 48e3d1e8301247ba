import NetOpsBench.ClientAgent.Config
import NetOpsBench.Data.Python
import NetOpsBench.Models.Topology

/-!
# Generating the configuration of the client agents

`build_client_agent_config` derives the agents' policy from the canonical topology, and the agent
derives it again before it starts. The generated policy passes that check: `Generated` is what the
generator writes (`buildClientAgentConfig_spec`), `Generated.validate` and `Generated.parses` are the two
halves of `Generated.load`. A policy whose numbers do not fit the machine words of the agent
(`FitsWords`) is not read by it.
-/

namespace NetOpsBench.ClientAgent
open Models Tiling

def clientEntry (client : Device) : Except String Client :=
  match client.dataIp, client.mgmtIp, Python.truthy client.attachedSwitch with
  | some dataIp, some managementIp, some attachedSwitch =>
    .ok { name := client.name, dataIp, managementIp, leaf := attachedSwitch
          rack := (Python.truthy client.metadata.rack).getD attachedSwitch }
  | _, _, _ =>
    .error s!"Client {client.name} requires data_ip, mgmt_ip, and attached_switch for the native client agent"

def buildClientAgentConfig (manifest : TopologyManifest) : Except String ClientAgentConfig := do
  let clients ← manifest.clients.mapM clientEntry
  let clientCount := clients.length
  return {
    schemaVersion := configSchemaVersion
    topologyId := manifest.topologyId
    pingmeshPolicy :=
      { destinationBatchSize := manifest.pingmesh.destinationBatchSize
        rttPortPoolSize := manifest.pingmesh.rttPortPoolSize
        rttPortsPerCycle := manifest.pingmesh.rttPortsPerCycle
        cycleIntervalSeconds := manifest.pingmesh.cycleIntervalSeconds
        dfPayloadSize := manifest.pingmesh.dfPayloadSize
        destinationBatchCount := manifest.pingmesh.destinationBatchCount clientCount
        portBatchCount := manifest.pingmesh.portBatchCount
        coverageEpochCycles := manifest.pingmesh.coverageEpochCycles clientCount
        coverageEpochSeconds := manifest.pingmesh.coverageEpochSeconds clientCount }
    clients }

/-- The numbers that the policy of the topology hands down fit the machine words of the agent. -/
structure FitsWords (policy : Models.PingmeshPolicy) : Prop where
  destinationBatchSize : ∀ size ∈ policy.destinationBatchSize, size < 2 ^ 64
  rttPortPoolSize : policy.rttPortPoolSize < 2 ^ 64
  rttPortsPerCycle : policy.rttPortsPerCycle < 2 ^ 64
  dfPayloadSize : policy.dfPayloadSize < 2 ^ 64

/-! ## The two derivations of the batch counts -/

theorem effectiveBatchSize_pos (size : Option Nat) (destinations : Nat) :
    0 < PingmeshPolicy.effectiveBatchSize size destinations := by
  unfold PingmeshPolicy.effectiveBatchSize
  split
  · split <;> omega
  · omega

/-- The generator divides by the batch size it is given, the agent by that size clamped to the
destinations: a batch size beyond the destinations means one batch to both. -/
theorem divCeil_effectiveBatchSize {size : Option Nat} (hsize : ∀ s ∈ size, 1 ≤ s)
    {destinations : Nat} (h : 0 < destinations) :
    divCeil destinations (PingmeshPolicy.effectiveBatchSize size destinations) =
      divCeil destinations (clamp (size.getD destinations) 1 destinations) := by
  cases size with
  | none =>
    have hclamp : clamp destinations 1 destinations = destinations := by
      simp only [clamp]; omega
    have hmax : max 1 destinations = destinations := by omega
    simp only [PingmeshPolicy.effectiveBatchSize, Option.getD_none, hclamp, hmax]
  | some size =>
    have hpos : 1 ≤ size := hsize size rfl
    have hne : size ≠ 0 := by omega
    simp only [PingmeshPolicy.effectiveBatchSize, Option.getD_some, hne, ne_eq, not_false_eq_true,
      if_true]
    by_cases hle : size ≤ destinations
    · have hclamp : clamp size 1 destinations = size := by simp only [clamp]; omega
      rw [hclamp]
    · have hclamp : clamp size 1 destinations = destinations := by simp only [clamp]; omega
      rw [hclamp, divCeil_self h, divCeil_of_le h (by omega)]

/-- With two clients or more, the count of the policy is that of the batch size as the agent cuts
it. -/
theorem destinationBatchCount_eq (policy : Models.PingmeshPolicy) {clientCount : Nat}
    (h : 2 ≤ clientCount) :
    policy.destinationBatchCount clientCount = divCeil (clientCount - 1)
      (clamp (policy.destinationBatchSize.getD (clientCount - 1)) 1 (clientCount - 1)) := by
  have hpos : 0 < clientCount - 1 := by omega
  have hcount : 0 < divCeil (clientCount - 1)
      (PingmeshPolicy.effectiveBatchSize policy.destinationBatchSize (clientCount - 1)) :=
    divCeil_pos hpos (effectiveBatchSize_pos _ _)
  rw [← divCeil_effectiveBatchSize policy.destinationBatchSize_pos hpos]
  exact Nat.max_eq_right hcount

theorem portBatchCount_eq (policy : Models.PingmeshPolicy) :
    policy.portBatchCount = divCeil policy.rttPortPoolSize policy.rttPortsPerCycle :=
  Nat.max_eq_right (divCeil_pos policy.rttPortPoolSize_pos policy.rttPortsPerCycle_pos)

/-! ## The generated configuration -/

theorem clientEntry_name {client : Device} {entry : Client} (h : clientEntry client = .ok entry) :
    entry.name = client.name := by
  unfold clientEntry at h
  split at h
  · cases h; rfl
  · cases h

/-- The entries of the configuration have the names of the clients, in their order. -/
theorem mapM_clientEntry_names {devices : List Device} {entries : List Client}
    (h : devices.mapM clientEntry = .ok entries) :
    entries.map (·.name) = devices.map (·.name) := by
  induction devices generalizing entries with
  | nil => cases h; rfl
  | cons device devices ih =>
    rw [List.mapM_cons] at h
    cases hentry : clientEntry device with
    | error message => rw [hentry] at h; cases h
    | ok entry =>
      cases hrest : devices.mapM clientEntry with
      | error message => rw [hentry, hrest] at h; cases h
      | ok rest =>
        rw [hentry, hrest] at h
        cases h
        rw [List.map_cons, List.map_cons, clientEntry_name hentry, ih hrest]

/-- What the generator writes: the clients by their names, and the counts of the policy. -/
structure Generated (manifest : TopologyManifest) (config : ClientAgentConfig) : Prop where
  names : config.clients.map (·.name) = manifest.clients.map (·.name)
  schemaVersion : config.schemaVersion = configSchemaVersion
  destinationBatchSize :
    config.pingmeshPolicy.destinationBatchSize = manifest.pingmesh.destinationBatchSize
  rttPortPoolSize : config.pingmeshPolicy.rttPortPoolSize = manifest.pingmesh.rttPortPoolSize
  rttPortsPerCycle : config.pingmeshPolicy.rttPortsPerCycle = manifest.pingmesh.rttPortsPerCycle
  cycleIntervalSeconds :
    config.pingmeshPolicy.cycleIntervalSeconds = manifest.pingmesh.cycleIntervalSeconds
  destinationBatchCount : config.pingmeshPolicy.destinationBatchCount =
    manifest.pingmesh.destinationBatchCount config.clients.length
  portBatchCount : config.pingmeshPolicy.portBatchCount = manifest.pingmesh.portBatchCount
  coverageEpochCycles : config.pingmeshPolicy.coverageEpochCycles =
    manifest.pingmesh.coverageEpochCycles config.clients.length
  coverageEpochSeconds : config.pingmeshPolicy.coverageEpochSeconds =
    manifest.pingmesh.coverageEpochSeconds config.clients.length
  dfPayloadSize : config.pingmeshPolicy.dfPayloadSize = manifest.pingmesh.dfPayloadSize

/-- A configuration that is built has the clients of the manifest and the counts of its policy. -/
theorem buildClientAgentConfig_spec {manifest : TopologyManifest} {config : ClientAgentConfig}
    (h : buildClientAgentConfig manifest = .ok config) : Generated manifest config := by
  rw [buildClientAgentConfig] at h
  cases hclients : manifest.clients.mapM clientEntry with
  | error message => rw [hclients] at h; cases h
  | ok clients =>
    rw [hclients] at h
    cases h
    exact {
      names := mapM_clientEntry_names hclients
      schemaVersion := rfl
      destinationBatchSize := rfl
      rttPortPoolSize := rfl
      rttPortsPerCycle := rfl
      cycleIntervalSeconds := rfl
      destinationBatchCount := rfl
      portBatchCount := rfl
      coverageEpochCycles := rfl
      coverageEpochSeconds := rfl
      dfPayloadSize := rfl }

namespace Generated

variable {manifest : TopologyManifest} {config : ClientAgentConfig}

theorem clients_length (h : Generated manifest config) :
    config.clients.length = manifest.clients.length := by
  simpa using congrArg List.length h.names

/-- A generated configuration satisfies everything the probe loop relies on. -/
theorem accepted (h : Generated manifest config) (hclients : 2 ≤ manifest.clients.length)
    (hports : manifest.pingmesh.ValidPortBatches) :
    Accepted config where
  two_clients := by rw [h.clients_length]; exact hclients
  ports_pos := by rw [h.rttPortPoolSize]; exact manifest.pingmesh.rttPortPoolSize_pos
  portsPerCycle_pos := by rw [h.rttPortsPerCycle]; exact manifest.pingmesh.rttPortsPerCycle_pos
  portsPerCycle_le := by rw [h.rttPortPoolSize, h.rttPortsPerCycle]; exact hports
  destinationBatches := by
    rw [h.destinationBatchCount, h.destinationBatchSize]
    exact destinationBatchCount_eq _ (by rw [h.clients_length]; exact hclients)
  portBatches := by
    rw [h.portBatchCount, h.rttPortPoolSize, h.rttPortsPerCycle, portBatchCount_eq]
  epochCycles := by rw [h.coverageEpochCycles, h.destinationBatchCount, h.portBatchCount]; rfl

/-- The agent accepts what the generator writes, as long as its double arithmetic is exact. -/
theorem validate (h : Generated manifest config) (hclients : 2 ≤ manifest.clients.length)
    (hports : manifest.pingmesh.ValidPortBatches)
    (hexact : config.pingmeshPolicy.coverageEpochSeconds < 2 ^ 53) :
    config.validate = .ok () := by
  have haccepted := h.accepted hclients hports
  have hinterval := manifest.pingmesh.cycleIntervalSeconds_pos
  have hseconds : config.pingmeshPolicy.coverageEpochSeconds =
      config.pingmeshPolicy.coverageEpochCycles * manifest.pingmesh.cycleIntervalSeconds := by
    rw [h.coverageEpochSeconds, h.coverageEpochCycles]; rfl
  have hexpected : expectedEpochSeconds config.pingmeshPolicy =
      config.pingmeshPolicy.coverageEpochSeconds := by
    rw [hseconds] at hexact ⊢
    refine expectedEpochSeconds_eq h.cycleIntervalSeconds ?_ hexact
    exact (Nat.le_mul_of_pos_right _ hinterval).trans_lt hexact
  have hpositive : ¬ config.pingmeshPolicy.cycleIntervalSeconds ≤ 0 := by
    rw [h.cycleIntervalSeconds, not_le]
    exact_mod_cast hinterval
  have htwo := haccepted.two_clients
  have hpool := haccepted.ports_pos
  have hper := haccepted.portsPerCycle_pos
  have hle := haccepted.portsPerCycle_le
  rw [ClientAgentConfig.validate]
  simp only [h.schemaVersion, ne_eq, not_true_eq_false, if_false, ← haccepted.destinationBatches,
    ← haccepted.portBatches, ← haccepted.epochCycles, hexpected, hpositive, or_self]
  rw [if_neg (by omega), if_neg (by omega)]

/-- The agent reads the policy when the numbers handed down fit, since the derived ones are smaller than
the duration of the epoch. -/
theorem parses (h : Generated manifest config) (hclients : 2 ≤ manifest.clients.length)
    (hports : manifest.pingmesh.ValidPortBatches) (hfits : FitsWords manifest.pingmesh)
    (hexact : config.pingmeshPolicy.coverageEpochSeconds < 2 ^ 53) :
    config.pingmeshPolicy.Parses := by
  have haccepted := h.accepted hclients hports
  have hseconds : config.pingmeshPolicy.coverageEpochSeconds =
      config.pingmeshPolicy.coverageEpochCycles * manifest.pingmesh.cycleIntervalSeconds := by
    rw [h.coverageEpochSeconds, h.coverageEpochCycles]; rfl
  have hcycles : config.pingmeshPolicy.coverageEpochCycles < 2 ^ 53 :=
    (Nat.le_mul_of_pos_right _ manifest.pingmesh.cycleIntervalSeconds_pos).trans_lt
      (hseconds ▸ hexact)
  have hbatches := haccepted.epochCycles ▸ hcycles
  have hdestinations : config.pingmeshPolicy.destinationBatchCount < 2 ^ 53 :=
    (Nat.le_mul_of_pos_right _ haccepted.portBatchCount_pos).trans_lt hbatches
  have hportBatches : config.pingmeshPolicy.portBatchCount < 2 ^ 53 :=
    (Nat.le_mul_of_pos_left _ haccepted.destinationBatchCount_pos).trans_lt hbatches
  exact {
    destinationBatchSize := h.destinationBatchSize ▸ hfits.destinationBatchSize
    rttPortPoolSize := h.rttPortPoolSize ▸ hfits.rttPortPoolSize
    rttPortsPerCycle := h.rttPortsPerCycle ▸ hfits.rttPortsPerCycle
    destinationBatchCount := by omega
    portBatchCount := by omega
    coverageEpochCycles := by omega
    coverageEpochSeconds := by omega
    dfPayloadSize := h.dfPayloadSize ▸ hfits.dfPayloadSize }

/-- The agent loads what the generator writes, when the numbers fit. -/
theorem load (h : Generated manifest config) (hclients : 2 ≤ manifest.clients.length)
    (hports : manifest.pingmesh.ValidPortBatches) (hfits : FitsWords manifest.pingmesh)
    (hexact : config.pingmeshPolicy.coverageEpochSeconds < 2 ^ 53) (path : String) :
    config.load path = .ok () := by
  rw [ClientAgentConfig.load, if_pos (h.parses hclients hports hfits hexact)]
  exact h.validate hclients hports hexact

end Generated

end NetOpsBench.ClientAgent
