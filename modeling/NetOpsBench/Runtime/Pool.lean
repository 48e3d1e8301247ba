import Mathlib

/-!
# Runtime pools

A runtime is a pool of workers, each with a lab of its own. The workers of a pool are numbered, and
named by their numbers.

The invariants of `Workers` are fields: identities and indices are not repeated, and no identity is
empty. The states and stages of a runtime are here too.
-/

namespace NetOpsBench.Runtime

structure RuntimeIdentity where
  runtimeId : String
  workerId : String
  workerIndex : Nat
  labName : String
  bucket : String
  mgmtSubnet : String
  mgmtNetwork : String
  workerIndex_pos : 1 ≤ workerIndex := by decide
deriving DecidableEq, Repr

/-- The workers of one pool. -/
structure Workers where
  items : List RuntimeIdentity
  ids_nodup : (items.map (·.workerId)).Nodup
  indices_nodup : (items.map (·.workerIndex)).Nodup
  ids_ne : ∀ worker ∈ items, worker.workerId ≠ ""

inductive RuntimeState where
  | created
  | deployed
  | observabilityReady
  | pingmeshReady
  | warm
  | quarantined
  | cleanupFailed
  | tornDown
deriving DecidableEq, Repr

def RuntimeState.value : RuntimeState → String
  | created => "created"
  | deployed => "deployed"
  | observabilityReady => "observability_ready"
  | pingmeshReady => "pingmesh_ready"
  | warm => "warm"
  | quarantined => "quarantined"
  | cleanupFailed => "cleanup_failed"
  | tornDown => "torn_down"

inductive Stage where
  | deploy
  | observability
  | pingmesh
  | warm
  | teardown
deriving DecidableEq, Repr

/-- How a stage ended: it failed when it has an error. -/
structure LifecycleStageResult where
  error : Option String
deriving DecidableEq, Repr

def LifecycleStageResult.Completed (result : LifecycleStageResult) : Prop := result.error = none

instance (result : LifecycleStageResult) : Decidable result.Completed :=
  inferInstanceAs (Decidable (_ = _))

structure RuntimeMetadata where
  deploymentStarted : Bool := false
  quarantined : Bool := false
  quarantineReason : Option String := none
  quarantinedWorkers : List String := []
  cleanupError : Option String := none
  cleanupPendingBuckets : Option (List String) := none
  provisioningMode : Option String := none
deriving DecidableEq, Repr

structure RuntimePool where
  id : String
  name : String
  scale : String
  workers : Workers
  state : RuntimeState := .created
  metadata : RuntimeMetadata := {}
  stageResults : Stage → Option LifecycleStageResult := fun _ => none
  provisionCreatedBuckets : List String := []

end NetOpsBench.Runtime
