import NetOpsBench.Observability.Ownership
import NetOpsBench.Runtime.Pool

/-!
# The stages of a runtime

A stage works on the labs and the telemetry of a runtime, and on the workspace that it shares with
other runtimes. How each step outside of the program ends is an input: what Docker answers, which
resources of a lab come up, which bucket is created, what a teardown or a deletion raises.

The `Workspace` also carries the histories that the results of `LabOwnership` and `BucketOwnership`
are about: which deployments were started, by whom a deployment was refused (`Refusal`), what a
teardown removed (`LabRemoval`), and which buckets were deleted. They are written where the source
takes the step, and no function of the source reads them.

The stages are `deployStage`, `observabilityStage`, `pingmeshStage`, `warmStage` and
`teardownWorkers`; `deleteProvisionCreatedBuckets` is the cleanup of the telemetry.
-/

namespace NetOpsBench.Runtime

open Observability (ManagedBucketRegistry)

/-- A runtime of a workspace. `serial` tells apart runtimes that use one name after the other. -/
structure ManagedRuntime extends RuntimePool where
  rootDir : String
  serial : Nat

/-- What stands on the host under the name of a lab: its containers, its management network, and the
container of its collector. -/
inductive SlotResource where
  | lab | network | telegraf
deriving DecidableEq, Repr

/-- Who brought a resource up: a runtime of this workspace, or somebody else. -/
inductive Occupant where
  | runtime (serial : Nat)
  | other (lab : Nat)
deriving DecidableEq, Repr

/-- A deployment of a runtime was refused, because an occupant held a slot that it needs. -/
structure Refusal where
  serial : Nat
  occupant : Occupant
deriving DecidableEq, Repr

/-- `teardown_worker_lab` was run on a worker, when the deployment of its runtime had been started or
not. `occupants` held the slot of the worker then, and `refusers` are the occupants because of which
deployments of the runtime had been refused before. -/
structure LabRemoval where
  serial : Nat
  worker : RuntimeIdentity
  started : Bool
  occupants : List Occupant
  refusers : List Occupant
deriving DecidableEq, Repr

/-- A runtime tried to delete a bucket. `recorded` says whether the bucket was recorded for it before,
and `kept` whether it is afterwards. -/
structure BucketDeletion where
  runtimeId : String
  bucket : String
  recorded : Bool
  deleted : Bool
  kept : Bool
deriving DecidableEq, Repr

/-- A runtime became torn down, with the buckets that are still recorded for it. -/
structure Departure where
  runtimeId : String
  left : List String
deriving DecidableEq, Repr

/-- `saved` are the `runtime.json` by directory, `host` says who holds the resources of a lab name,
`created` counts the runtimes that were built, and `started` are those that passed the slot check and
marked their deployment as started. -/
structure Workspace where
  registry : ManagedBucketRegistry := ∅
  saved : String → Option ManagedRuntime := fun _ => none
  host : String → SlotResource → Option Occupant := fun _ _ => none
  created : Nat := 0
  started : List Nat := []
  refusals : List Refusal := []
  removals : List LabRemoval := []
  deletions : List BucketDeletion := []
  departures : List Departure := []

/-! ## Metadata -/

namespace ManagedRuntime

def withMetadata (runtime : ManagedRuntime) (f : RuntimeMetadata → RuntimeMetadata) :
    ManagedRuntime :=
  { runtime with metadata := f runtime.metadata }

/-- The metadata of a cleanup that failed. -/
def cleanupFailed (runtime : ManagedRuntime) (error : String) : ManagedRuntime :=
  { runtime with
    state := .cleanupFailed
    metadata := { runtime.metadata with quarantined := true, cleanupError := some error } }

def withPending (runtime : ManagedRuntime) (buckets : List String) : ManagedRuntime :=
  runtime.withMetadata ({ · with cleanupPendingBuckets := some buckets })

def withResult (runtime : ManagedRuntime) (stage : Stage) (error : Option String) :
    ManagedRuntime :=
  { runtime with
    stageResults := Function.update runtime.stageResults stage (some { error }) }

end ManagedRuntime

/-- `_write_metadata`, which may fail; the list of created buckets is not written. -/
def Workspace.save (workspace : Workspace) (runtime : ManagedRuntime) (persists : Bool) :
    Workspace :=
  if persists then
    { workspace with
      saved := Function.update workspace.saved runtime.rootDir
        (some { runtime with provisionCreatedBuckets := [] }) }
  else
    workspace

/-! ## The host -/

namespace Workspace

variable (workspace : Workspace)

/-- A resource of a lab name is taken or left. -/
def hold (labName : String) (resource : SlotResource) (occupant : Option Occupant) : Workspace :=
  { workspace with
    host := Function.update workspace.host labName
      (Function.update (workspace.host labName) resource occupant) }

/-- Who holds the slot of a lab name. -/
def occupants (labName : String) : List Occupant :=
  [SlotResource.lab, .network, .telegraf].filterMap (workspace.host labName)

/-- The occupants because of which deployments of a runtime were refused. -/
def refusers (serial : Nat) : List Occupant :=
  (workspace.refusals.filter (·.serial = serial)).map (·.occupant)

def refuse (serial : Nat) (occupants : List Occupant) : Workspace :=
  { workspace with
    refusals := workspace.refusals ++ occupants.map fun occupant => { serial, occupant } }

/-- The refusers of a runtime are those of its refusals. -/
theorem mem_refusers {workspace : Workspace} {serial : Nat} {occupant : Occupant} :
    occupant ∈ workspace.refusers serial ↔ { serial, occupant } ∈ workspace.refusals := by
  simp only [refusers, List.mem_map, List.mem_filter, decide_eq_true_eq]
  constructor
  · rintro ⟨refusal, ⟨hmem, rfl⟩, rfl⟩
    exact hmem
  · intro hmem
    exact ⟨_, ⟨hmem, rfl⟩, rfl⟩

end Workspace

/-! ## The stages -/

/-- What a stage makes of a runtime and its workspace, and the error it raises. -/
abbrev StageOutcome := ManagedRuntime × Workspace × Option String

theorem map_withSubnets (workers : List RuntimeIdentity) (subnets : Nat → String)
    {f : RuntimeIdentity → β}
    (hf : ∀ worker subnet, f { worker with mgmtSubnet := subnet } = f worker) :
    (workers.mapIdx fun i worker => { worker with mgmtSubnet := subnets i }).map f =
      workers.map f := by
  refine List.ext_getElem (by rw [List.length_map, List.length_mapIdx, List.length_map]) fun i _ _ => ?_
  rw [List.getElem_map, List.getElem_mapIdx, List.getElem_map]
  exact hf _ _

def Workers.withSubnets (workers : Workers) (subnets : Nat → String) : Workers where
  items := workers.items.mapIdx fun i worker => { worker with mgmtSubnet := subnets i }
  ids_nodup := by
    rw [map_withSubnets workers.items subnets fun _ _ => rfl]
    exact workers.ids_nodup
  indices_nodup := by
    rw [map_withSubnets workers.items subnets fun _ _ => rfl]
    exact workers.indices_nodup
  ids_ne worker hmem := by
    obtain ⟨i, hi, rfl⟩ := List.mem_mapIdx.mp hmem
    exact workers.ids_ne workers.items[i] (List.getElem_mem hi)

/-- How Docker answers when a slot is looked up: it lists what is there (the names of up to eight
containers of the lab are shown), it fails without raising, which reads as a slot that is free, or the
call raises. -/
inductive DockerAnswer where
  | listed (containers : String)
  | silent
  | raised (error : String)
deriving DecidableEq, Repr

/-- `assert_worker_slot_available`: what it raises, with the occupants that it found. -/
def assertWorkerSlotAvailable (docker : DockerAnswer) (workspace : Workspace)
    (worker : RuntimeIdentity) : Option (String × List Occupant) :=
  match docker with
  | .raised error => some (error, [])
  | .silent => none
  | .listed containers =>
    let found := workspace.host worker.labName
    let occupants := workspace.occupants worker.labName
    if (found .lab).isSome then
      some ("RuntimeError: Containerlab lab already exists for " ++ worker.labName ++ ": " ++
        containers, occupants)
    else if (found .network).isSome then
      some ("RuntimeError: Management network already exists for " ++ worker.labName ++ ": " ++
        worker.mgmtNetwork, occupants)
    else if (found .telegraf).isSome then
      some ("RuntimeError: Telegraf container already exists for " ++ worker.labName, occupants)
    else
      none

/-- `subnets` is what the allocation returns, `slots` what Docker answers for a worker, `labs` what the
deployment of the labs raises, and `up` which resources it brought up, also when it raises. -/
structure DeployOutcome where
  subnets : Except String (Nat → String)
  slots : RuntimeIdentity → DockerAnswer
  labs : Option String
  up : RuntimeIdentity → SlotResource → Bool

/-- The host after `deploy_workers`: what came up belongs to the runtime, whoever held it before. -/
def Workspace.bringUp (workspace : Workspace) (runtime : ManagedRuntime)
    (up : RuntimeIdentity → SlotResource → Bool) : Workspace :=
  { workspace with
    host := fun labName resource =>
      if runtime.workers.items.any fun worker => worker.labName = labName && up worker resource then
        some (.runtime runtime.serial)
      else
        workspace.host labName resource }

/-- `_deploy`: every slot is checked before the deployment is marked as started. -/
def deployStage (outcome : DeployOutcome) (runtime : ManagedRuntime) (workspace : Workspace) :
    StageOutcome :=
  match outcome.subnets with
  | .error error => (runtime, workspace, some error)
  | .ok subnets =>
    let runtime := { runtime with workers := runtime.workers.withSubnets subnets }
    match runtime.workers.items.findSome? fun worker =>
      assertWorkerSlotAvailable (outcome.slots worker) workspace worker with
    | some (error, occupants) =>
      (runtime, workspace.refuse runtime.serial occupants, some error)
    | none =>
      (runtime.withMetadata ({ · with deploymentStarted := true }),
        { workspace.bringUp runtime outcome.up with
          started := workspace.started ++ [runtime.serial] }, outcome.labs)

/-- Whether `ensure_worker_observability` created the bucket of the worker, whether the container of
its collector came up, and what it raises. -/
structure ObservabilityOutcome where
  bucketCreated : Bool
  telegraf : Bool := false
  error : Option String
deriving DecidableEq, Repr

def recordBucket (bucket : String) (runtime : ManagedRuntime) (workspace : Workspace) :
    ManagedRuntime × Workspace :=
  ({ runtime with provisionCreatedBuckets := runtime.provisionCreatedBuckets ++ [bucket] },
    { workspace with registry := workspace.registry.recordCreated bucket runtime.id })

/-- `ensure_worker_telegraf` replaces the container of a collector, if it comes that far. -/
def startTelegraf (worker : RuntimeIdentity) (serial : Nat) (telegraf : Bool)
    (workspace : Workspace) : Workspace :=
  if telegraf then workspace.hold worker.labName .telegraf (some (.runtime serial)) else workspace

/-- The loop of `_ensure_observability` -/
def observeWorkers (outcome : RuntimeIdentity → ObservabilityOutcome) :
    List RuntimeIdentity → ManagedRuntime → Workspace → StageOutcome
  | [], runtime, workspace => (runtime, workspace, none)
  | worker :: workers, runtime, workspace =>
    match if (outcome worker).bucketCreated then recordBucket worker.bucket runtime workspace
      else (runtime, workspace) with
    | (runtime, workspace) =>
      let workspace := startTelegraf worker runtime.serial (outcome worker).telegraf workspace
      match (outcome worker).error with
      | some error => (runtime, workspace, some error)
      | none => observeWorkers outcome workers runtime workspace

theorem startTelegraf_frame (worker : RuntimeIdentity) (serial : Nat) (telegraf : Bool)
    (workspace : Workspace) :
    ∃ host, startTelegraf worker serial telegraf workspace = { workspace with host } := by
  unfold startTelegraf Workspace.hold
  split
  · exact ⟨_, rfl⟩
  · exact ⟨workspace.host, rfl⟩

/-- What neither the record of a bucket nor the start of a collector changes, the loop keeps. -/
theorem observeWorkers_invariant {P : ManagedRuntime → Workspace → Prop}
    (hrecord : ∀ runtime workspace bucket, P runtime workspace →
      P (recordBucket bucket runtime workspace).1 (recordBucket bucket runtime workspace).2)
    (hhost : ∀ runtime workspace host, P runtime workspace → P runtime { workspace with host })
    (outcome : RuntimeIdentity → ObservabilityOutcome) (workers : List RuntimeIdentity)
    {runtime : ManagedRuntime} {workspace : Workspace} (h : P runtime workspace) :
    P (observeWorkers outcome workers runtime workspace).1
      (observeWorkers outcome workers runtime workspace).2.1 := by
  induction workers generalizing runtime workspace with
  | nil => exact h
  | cons worker workers ih =>
    rw [observeWorkers]
    split
    rename_i first middle hmiddle
    have hfirst : P first middle := by
      split at hmiddle
      · cases hmiddle
        exact hrecord runtime workspace worker.bucket h
      · cases hmiddle
        exact h
    obtain ⟨host, hstarted⟩ :=
      startTelegraf_frame worker first.serial (outcome worker).telegraf middle
    dsimp only
    rw [hstarted]
    split
    · exact hhost first middle host hfirst
    · exact ih (hhost first middle host hfirst)

def observabilityStage (outcome : RuntimeIdentity → ObservabilityOutcome)
    (runtime : ManagedRuntime) (workspace : Workspace) : StageOutcome :=
  observeWorkers outcome runtime.workers.items runtime workspace

/-- A stage that only checks or configures the workers. -/
def workerStage (error : Option String) (runtime : ManagedRuntime) (workspace : Workspace) :
    StageOutcome :=
  (runtime, workspace, error)

/-- `_ensure_pingmesh` -/
def pingmeshStage : Option String → ManagedRuntime → Workspace → StageOutcome := workerStage

/-- `_warm` -/
def warmStage : Option String → ManagedRuntime → Workspace → StageOutcome := workerStage

/-- The removal of the lab of a worker, as the workspace stands when the workers are torn down. -/
def labRemoval (runtime : ManagedRuntime) (workspace : Workspace) (worker : RuntimeIdentity) :
    LabRemoval where
  serial := runtime.serial
  worker
  started := runtime.serial ∈ workspace.started
  occupants := workspace.occupants worker.labName
  refusers := workspace.refusers runtime.serial

/-- `teardown_workers`: every lab is torn down, whatever becomes of the others. A teardown that does
not raise leaves nothing of the lab on the host. -/
def teardownWorkers (labs : RuntimeIdentity → Option String) (runtime : ManagedRuntime)
    (workspace : Workspace) : Workspace × Option String :=
  ({ workspace with
      host := fun labName resource =>
        if runtime.workers.items.any fun worker => worker.labName = labName && (labs worker).isNone then
          none
        else
          workspace.host labName resource
      removals := workspace.removals ++ runtime.workers.items.map (labRemoval runtime workspace) },
    match runtime.workers.items.filterMap fun worker =>
      (labs worker).map fun error => worker.labName ++ ": " ++ error with
    | [] => none
    | failures => some ("RuntimeError: Worker teardown failed: " ++ "; ".intercalate failures))

/-! ## Buckets -/

def bucketDeletion (runtimeId bucket : String) (before after : ManagedBucketRegistry)
    (deleted : Bool) : BucketDeletion where
  runtimeId
  bucket
  recorded := before.lookup bucket = some runtimeId
  deleted
  kept := after.lookup bucket = some runtimeId

/-- The loop of `_delete_provision_created_buckets`, with the buckets that it failed to delete. -/
def deleteBuckets (runtimeId : String) (deletes : String → Option String) :
    List String → Workspace → Workspace × List (String × String)
  | [], workspace => (workspace, [])
  | bucket :: buckets, workspace =>
    let registry := workspace.registry
    match deletes bucket with
    | none =>
      deleteBuckets runtimeId deletes buckets
        { workspace with
          registry := registry.markDeleted bucket
          deletions := workspace.deletions ++
            [bucketDeletion runtimeId bucket registry (registry.markDeleted bucket) true] }
    | some error =>
      match deleteBuckets runtimeId deletes buckets
          { workspace with
            deletions := workspace.deletions ++
              [bucketDeletion runtimeId bucket registry registry false] } with
      | (workspace, failed) => (workspace, (bucket, error) :: failed)

/-- Deleting buckets changes the registry and the history of deletions only. -/
theorem deleteBuckets_frame (runtimeId : String) (deletes : String → Option String)
    (buckets : List String) (workspace : Workspace) :
    ∃ registry deletions, (deleteBuckets runtimeId deletes buckets workspace).1 =
      { workspace with registry, deletions } := by
  induction buckets generalizing workspace with
  | nil => exact ⟨workspace.registry, workspace.deletions, rfl⟩
  | cons bucket buckets ih =>
    rw [deleteBuckets]
    dsimp only
    split
    · obtain ⟨registry, deletions, heq⟩ := ih { workspace with
        registry := workspace.registry.markDeleted bucket
        deletions := workspace.deletions ++ [bucketDeletion runtimeId bucket workspace.registry
          (workspace.registry.markDeleted bucket) true] }
      exact ⟨registry, deletions, heq⟩
    · obtain ⟨registry, deletions, heq⟩ := ih { workspace with
        deletions := workspace.deletions ++ [bucketDeletion runtimeId bucket workspace.registry
          workspace.registry false] }
      exact ⟨registry, deletions, heq⟩

/-- `_delete_provision_created_buckets`, with the error that it raises. -/
def deleteProvisionCreatedBuckets (deletes : String → Option String) (runtime : ManagedRuntime)
    (workspace : Workspace) : StageOutcome :=
  match deleteBuckets runtime.id deletes runtime.provisionCreatedBuckets workspace with
  | (workspace, failed) =>
    ({ runtime with provisionCreatedBuckets := failed.map (·.1) }, workspace,
      match failed with
      | [] => none
      | failed => some ("RuntimeError: Managed bucket cleanup failed: " ++
          "; ".intercalate (failed.map fun failure => failure.1 ++ ": " ++ failure.2)))

end NetOpsBench.Runtime
