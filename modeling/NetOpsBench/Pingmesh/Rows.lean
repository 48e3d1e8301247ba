import NetOpsBench.Pingmesh.Schedule

/-!
# The rows of a Pingmesh snapshot

What an agent measures in one cycle and writes, one row a target. The line protocol, the store
and the query between the agent and the detector are the identity on the tags and on the counters
below `2 ^ 53`, which is where doubles are exact.
-/

namespace NetOpsBench.Pingmesh
open ClientAgent

structure ProbeStats where
  sent : Nat
  received : Nat
  mtuDrops : Nat
  invalidSent : Nat
  localErrors : Nat
deriving DecidableEq, Repr

structure ProbeResult where
  packetsSent : Nat
  packetsLost : Nat
  rttPortsActive : Nat
  rttPortsTotal : Nat
  probeCycle : Nat
  destinationBatchIndex : Nat
  portBatchIndex : Nat
  dfPacketsSent : Nat
  dfPacketsLost : Nat
  dfMtuDrops : Nat
  localProbeErrors : Nat
deriving DecidableEq, Repr

def validSent (stats : ProbeStats) : Nat := stats.sent - stats.invalidSent

def buildResult (rtt df : ProbeStats) (activePorts : Nat) : ProbeResult where
  packetsSent := validSent rtt
  packetsLost := validSent rtt - rtt.received
  rttPortsActive := activePorts
  rttPortsTotal := activePorts
  probeCycle := 0
  destinationBatchIndex := 0
  portBatchIndex := 0
  dfPacketsSent := validSent df
  dfPacketsLost := validSent df - df.received
  dfMtuDrops := df.mtuDrops
  -- `saturating_add`
  localProbeErrors := min (rtt.localErrors + df.localErrors) (2 ^ 64 - 1)

/-- One row of the pivoted snapshot; a field that the row lacks, or that is no number, is `none`. -/
structure Row where
  srcName : Option String
  srcIp : Option String
  dstName : Option String
  dstIp : Option String
  packetsSent : Option ℚ
  packetsLost : Option ℚ
  rttPortsActive : Option ℚ
  rttPortsTotal : Option ℚ
  probeCycle : Option ℚ
  destinationBatchIndex : Option ℚ
  portBatchIndex : Option ℚ
  dfMtuDrops : Option ℚ
  localProbeErrors : Option ℚ
deriving DecidableEq

/-- `metric_lines`, read back by the snapshot query. -/
def metricRow (source destination : Client) (result : ProbeResult) : Row where
  srcName := some source.name
  srcIp := some (toString source.dataIp)
  dstName := some destination.name
  dstIp := some (toString destination.dataIp)
  packetsSent := some result.packetsSent
  packetsLost := some result.packetsLost
  rttPortsActive := some result.rttPortsActive
  rttPortsTotal := some result.rttPortsTotal
  probeCycle := some result.probeCycle
  destinationBatchIndex := some result.destinationBatchIndex
  portBatchIndex := some result.portBatchIndex
  dfMtuDrops := some result.dfMtuDrops
  localProbeErrors := some result.localProbeErrors

/-- The result that the loop writes for the target at `index`, from the RTT and the DF statistics
of its probes in this cycle. -/
def ProbeLoop.result (loop : ProbeLoop) (cycle : ProbeCycle) (stats : ProbeStats × ProbeStats) :
    ProbeResult :=
  { buildResult stats.1 stats.2 cycle.activeSockets.length with
    probeCycle := cycle.cycle
    destinationBatchIndex := cycle.destinationBatch
    portBatchIndex := cycle.portBatch
    rttPortsTotal := loop.sockets.length }

/-- The rows that the loop of `source` writes in one cycle. -/
def ProbeLoop.rows (loop : ProbeLoop) (source : Client) (stats : Nat → ProbeStats × ProbeStats)
    (cycle : ProbeCycle) : List Row :=
  (cycle.activeTargets.zipIdx).map fun (target, index) =>
    metricRow source target.client (loop.result cycle (stats index))

end NetOpsBench.Pingmesh
