import NetOpsBench.Data.Fallible
import NetOpsBench.Data.Ipv4
import NetOpsBench.Data.Python
import NetOpsBench.Data.Tiling

/-!
# The canonical topology

The persisted models of a topology. A field constraint of the schema is a field of the structure,
and an address is its value, not its text. Sections of the manifest that no function here reads
are left out, and so are the keys of a device's metadata but for its rack.

The manifest has the policy of the Pingmesh twice: as it was planned, and, with the numbers derived
from it, in the section that `TopologyManifest.toAgentPingmesh` hands to the detector.
-/

namespace NetOpsBench.Models
open Tiling

def defaultLinkMtu : Nat := 9232
def defaultSonicPortMtu : Nat := 9100

inductive DeviceRole where
  | spine
  | leaf
  | core
  | agg
  | edge
  | client
deriving DecidableEq, Repr

structure DeviceMetadata where
  rack : Option String := none
deriving DecidableEq, Repr

structure Device where
  name : String
  role : DeviceRole
  mgmtIp : Option Ipv4.Addr := none
  dataIp : Option Ipv4.Addr := none
  attachedSwitch : Option String := none
  asn : Option Int := none
  routerId : Option Ipv4.Addr := none
  metadata : DeviceMetadata := {}
deriving DecidableEq, Repr

structure LinkEndpoint where
  device : String
  interface : String
deriving DecidableEq, Repr

theorem defaultLinkMtu_pos : 0 < defaultLinkMtu := by decide

structure Link where
  kind : String
  endpoints : LinkEndpoint × LinkEndpoint
  mtu : Nat := defaultLinkMtu
  mtu_pos : 0 < mtu := by exact defaultLinkMtu_pos
deriving Repr

/-! ## The Pingmesh policy -/

structure PingmeshPolicy where
  destinationBatchSize : Option Nat := none
  rttPortPoolSize : Nat := 16
  rttPortsPerCycle : Nat := 4
  cycleIntervalSeconds : Nat := 1
  dfPayloadSize : Nat := defaultSonicPortMtu - 28
  destinationBatchSize_pos : ∀ size ∈ destinationBatchSize, 1 ≤ size := by decide
  rttPortPoolSize_pos : 1 ≤ rttPortPoolSize := by decide
  rttPortsPerCycle_pos : 1 ≤ rttPortsPerCycle := by decide
  cycleIntervalSeconds_pos : 1 ≤ cycleIntervalSeconds := by decide
  dfPayloadSize_pos : 1 ≤ dfPayloadSize := by decide

namespace PingmeshPolicy

def default : PingmeshPolicy := {}

/-- `batch_size or max(1, destinations)` -/
def effectiveBatchSize (destinationBatchSize : Option Nat) (destinations : Nat) : Nat :=
  match destinationBatchSize with
  | some size => if size ≠ 0 then size else max 1 destinations
  | none => max 1 destinations

def destinationBatchCount (policy : PingmeshPolicy) (clientCount : Nat) : Nat :=
  let destinations := clientCount - 1
  let batchSize := effectiveBatchSize policy.destinationBatchSize destinations
  max 1 (divCeil destinations batchSize)

def portBatchCount (policy : PingmeshPolicy) : Nat :=
  max 1 (divCeil policy.rttPortPoolSize policy.rttPortsPerCycle)

def coverageEpochCycles (policy : PingmeshPolicy) (clientCount : Nat) : Nat :=
  policy.destinationBatchCount clientCount * policy.portBatchCount

def coverageEpochSeconds (policy : PingmeshPolicy) (clientCount : Nat) : Nat :=
  policy.coverageEpochCycles clientCount * policy.cycleIntervalSeconds

/-- `PingmeshProfile.validate_port_batches`; the other constraints of a profile are the policy's
own. -/
def ValidPortBatches (policy : PingmeshPolicy) : Prop :=
  policy.rttPortsPerCycle ≤ policy.rttPortPoolSize

end PingmeshPolicy

/-! ## The manifest -/

structure TopologyFacts where
  totalClients : Nat
deriving DecidableEq, Repr

structure TopologyManifest where
  topologyId : String
  name : String
  scale : String
  facts : TopologyFacts
  devices : List Device
  links : List Link
  pingmesh : PingmeshPolicy := .default

namespace TopologyManifest

def devicesByRole (manifest : TopologyManifest) (role : DeviceRole) : List Device :=
  manifest.devices.filter (·.role = role)

def clients (manifest : TopologyManifest) : List Device := manifest.devicesByRole .client

def device (manifest : TopologyManifest) (name : String) : Option Device :=
  manifest.devices.find? (·.name = name)

end TopologyManifest

/-- The `pingmesh` section of the agent's view of a topology. -/
structure AgentPingmesh where
  destinationBatchSize : Option Nat
  rttPortPoolSize : Nat
  rttPortsPerCycle : Nat
  cycleIntervalSeconds : Nat
  dfPayloadSize : Nat
  destinationBatchCount : Nat
  portBatchCount : Nat
  coverageEpochCycles : Nat
  coverageEpochSeconds : Nat
deriving DecidableEq, Repr

/-- `to_agent_topology()["pingmesh"]` -/
def TopologyManifest.toAgentPingmesh (manifest : TopologyManifest) : AgentPingmesh where
  destinationBatchSize := manifest.pingmesh.destinationBatchSize
  rttPortPoolSize := manifest.pingmesh.rttPortPoolSize
  rttPortsPerCycle := manifest.pingmesh.rttPortsPerCycle
  cycleIntervalSeconds := manifest.pingmesh.cycleIntervalSeconds
  dfPayloadSize := manifest.pingmesh.dfPayloadSize
  destinationBatchCount := manifest.pingmesh.destinationBatchCount manifest.facts.totalClients
  portBatchCount := manifest.pingmesh.portBatchCount
  coverageEpochCycles := manifest.pingmesh.coverageEpochCycles manifest.facts.totalClients
  coverageEpochSeconds := manifest.pingmesh.coverageEpochSeconds manifest.facts.totalClients

end NetOpsBench.Models
