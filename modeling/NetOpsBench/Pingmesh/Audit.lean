import NetOpsBench.Data.Python
import NetOpsBench.Models.Topology
import NetOpsBench.Pingmesh.Rows

/-!
# The coverage audit of a snapshot

`summarize_coverage` judges from the rows of a snapshot alone whether every agent ran through its
epoch.

`summarizeCoverage` is the audit. Its verdict is complete when no batch, source, pair or socket count is
missing; `AuditAgreement` says which rows these are.
-/

namespace NetOpsBench.Pingmesh
open Models Tiling

structure AnomalyDetector where
  pingmeshClients : List String
  pingmeshPolicy : AgentPingmesh
deriving DecidableEq, Repr

def AnomalyDetector.ofManifest (manifest : TopologyManifest) : AnomalyDetector where
  pingmeshClients := manifest.clients.map (·.name)
  pingmeshPolicy := manifest.toAgentPingmesh

/-! ## The fields of a row -/

abbrev SocketBatchKey := String × String × ℤ

/-- `int(row[field])` of a field that may be missing. -/
def fieldInt (field : Option ℚ) : Option ℤ := field.map Python.int

def socketBatchKey (row : Row) : Option SocketBatchKey :=
  match (Python.truthy row.srcName).or (Python.truthy row.srcIp),
    (Python.truthy row.dstName).or (Python.truthy row.dstIp) with
  | some source, some destination => some (source, destination, (fieldInt row.portBatchIndex).getD (-1))
  | _, _ => none

/-- The key and the losses that a row adds to its socket batch. -/
def regularLoss (row : Row) : Option (SocketBatchKey × ℤ) :=
  match socketBatchKey row, fieldInt row.packetsSent, fieldInt row.packetsLost with
  | some key, some sent, some lost =>
    if sent ≤ 0 ∨ ¬ (0 ≤ lost ∧ lost ≤ sent) then none else some (key, lost)
  | _, _, _ => none

/-- The losses of every socket batch, `0` where the dictionary has no entry. -/
def regularLossBySocketBatch (rows : List Row) : SocketBatchKey → ℤ :=
  rows.foldl (fun losses row =>
    match regularLoss row with
    | some (key, lost) => Function.update losses key (losses key + lost)
    | none => losses) fun _ => 0

/-- A DF-only send error that the RTT loss of the whole window explains. -/
def isExplainedDfSendError (row : Row) (regularLossBySocketBatch : SocketBatchKey → ℤ) : Bool :=
  match fieldInt row.localProbeErrors, socketBatchKey row with
  | some localErrors, some key =>
    localErrors ≠ 0 ∧ some localErrors = fieldInt row.dfMtuDrops ∧
      3 ≤ regularLossBySocketBatch key
  | _, _ => false

def hasValidSocketBatch (row : Row) (portPoolSize portsPerCycle portBatchCount : Nat)
    (regularLossBySocketBatch : SocketBatchKey → ℤ) : Bool :=
  match fieldInt row.portBatchIndex with
  | none => false
  | some portBatchIndex =>
    if ¬ (0 ≤ portBatchIndex ∧ portBatchIndex < portBatchCount) then
      false
    else
      let expectedActive := min (portsPerCycle : ℤ) (portPoolSize - portBatchIndex * portsPerCycle)
      fieldInt row.rttPortsTotal = some (portPoolSize : ℤ) ∧
        fieldInt row.rttPortsActive = some expectedActive ∧
        (fieldInt row.localProbeErrors = some 0 ∨
          isExplainedDfSendError row regularLossBySocketBatch)

/-! ## The summary -/

inductive CoverageStatus where
  | complete
  | incomplete
deriving DecidableEq, Repr

structure CoverageReport where
  coverageStatus : CoverageStatus
  expectedEpochCycles : Nat
  observedCycleSpan : ℤ
  minSourceCycleSpan : ℤ
  sourceClientsObserved : Nat
  expectedSourceClients : Nat
  destinationPairsObserved : Nat
  expectedDestinationPairs : Nat
  pairPortCombinationsObserved : Nat
  expectedPairPortCombinations : Nat
  missingPairPortCombinations : Nat
  minSamplesPerPair : Nat
  portBatchesObserved : List ℤ
  destinationBatchesObserved : List ℤ
  missingPortBatches : List ℤ
  missingDestinationBatches : List ℤ
  missingSourceClients : Nat
  invalidSocketRows : Nat
deriving DecidableEq, Repr

/-- The rows that the audit counts. -/
def cycleRows (rows : List Row) : List Row := rows.filter (·.probeCycle.isSome)

def pair (row : Row) : Option (String × String) :=
  match Python.truthy row.srcName, Python.truthy row.dstName with
  | some source, some destination => some (source, destination)
  | _, _ => none

def pairPort (row : Row) : Option (String × String × ℤ) :=
  match pair row, fieldInt row.portBatchIndex with
  | some (source, destination), some portBatchIndex => some (source, destination, portBatchIndex)
  | _, _ => none

/-- `sorted(set(range(count)) - observed)` -/
def missingBatches (count : Nat) (observed : List ℤ) : List ℤ :=
  ((List.range count).map Nat.cast).filter (· ∉ observed)

/-- A policy always has its four required fields here: it comes from `to_agent_topology`. -/
def summarizeCoverage (detector : AnomalyDetector) (rows : List Row) :
    Except String CoverageReport :=
  let clientCount := detector.pingmeshClients.length
  let policy := detector.pingmeshPolicy
  let destinationCount := clientCount - 1
  let destinationBatchSize :=
    PingmeshPolicy.effectiveBatchSize policy.destinationBatchSize destinationCount
  let portPoolSize := policy.rttPortPoolSize
  let portsPerCycle := policy.rttPortsPerCycle
  let expectedDestinationBatches := max 1 (divCeil destinationCount destinationBatchSize)
  let expectedPortBatches := max 1 (divCeil portPoolSize portsPerCycle)
  let expectedCycles := policy.coverageEpochCycles
  if expectedCycles ≠ expectedDestinationBatches * expectedPortBatches then
    .error "Pingmesh coverage policy is missing or stale; regenerate the topology"
  else
    let cycleRows := cycleRows rows
    let cycles := cycleRows.filterMap (fieldInt ·.probeCycle)
    let destinationBatches := rows.filterMap (fieldInt ·.destinationBatchIndex)
    let portBatches := rows.filterMap (fieldInt ·.portBatchIndex)
    let sources := (cycleRows.filterMap (Python.truthy ·.srcName)).dedup
    let sourceCycleSpans := sources.map fun source => Python.extent
      ((cycleRows.filter (·.srcName = some source)).filterMap (fieldInt ·.probeCycle))
    let pairCounts := Python.counter (cycleRows.filterMap pair)
    let pairPortCounts := Python.counter (cycleRows.filterMap pairPort)
    let missingDestinationBatches := missingBatches expectedDestinationBatches destinationBatches
    let missingPortBatches := missingBatches expectedPortBatches portBatches
    let missingSources := clientCount - sources.length
    let regularLossBySocketBatch := regularLossBySocketBatch cycleRows
    let invalidSocketRows := cycleRows.countP fun row =>
      !hasValidSocketBatch row portPoolSize portsPerCycle expectedPortBatches
        regularLossBySocketBatch
    let expectedPairs := clientCount * destinationCount
    let expectedPairPortCombinations := expectedPairs * expectedPortBatches
    let complete : Bool := missingDestinationBatches = [] ∧ missingPortBatches = [] ∧
      missingSources = 0 ∧ pairCounts.length = expectedPairs ∧
      pairPortCounts.length = expectedPairPortCombinations ∧ invalidSocketRows = 0
    .ok {
      coverageStatus := if complete then .complete else .incomplete
      expectedEpochCycles := expectedCycles
      observedCycleSpan := Python.extent cycles
      minSourceCycleSpan := sourceCycleSpans.min?.getD 0
      sourceClientsObserved := sources.length
      expectedSourceClients := clientCount
      destinationPairsObserved := pairCounts.length
      expectedDestinationPairs := expectedPairs
      pairPortCombinationsObserved := pairPortCounts.length
      expectedPairPortCombinations
      missingPairPortCombinations := expectedPairPortCombinations - pairPortCounts.length
      minSamplesPerPair := (pairCounts.map (·.2)).min?.getD 0
      portBatchesObserved := portBatches.dedup.mergeSort
      destinationBatchesObserved := destinationBatches.dedup.mergeSort
      missingPortBatches, missingDestinationBatches
      missingSourceClients := missingSources
      invalidSocketRows }

end NetOpsBench.Pingmesh
