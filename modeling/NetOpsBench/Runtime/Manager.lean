import NetOpsBench.Models.InterfaceNames
import NetOpsBench.Runtime.Lifecycle

/-!
# Runtimes and their manager

A runtime object runs its stages in any order; the manager builds new ones, provisions them in one go
and attaches to saved ones. Several objects may stand for one runtime.

The workers of a runtime are named by their numbers, which `buildWorkers` proves to be enough: no two
workers of one runtime share an identity or, by `nodup_buckets_buildWorkers`, a bucket.

A `RuntimeSystem` is a workspace with the objects that were handed out. `RuntimeSystem.step` runs one
call, or lets the host change between two calls. What a property of a runtime needs in order to pass
through a stage is said once, by `ManagedRuntime.Stable.runStage` and `Stable.runStages`.
-/

namespace NetOpsBench.Runtime

open Observability (ManagedBucketRegistry)

/-! ## Building -/

/-- `f"{index:02d}"` -/
def twoDigits (index : Nat) : String := (if index < 10 then "0" else "") ++ index.repr

/-- `safe_runtime_label`, on ASCII text -/
def safeRuntimeLabel (value : String) : String :=
  let text := Models.lowerName (Python.strip (if value = "" then "unknown" else value))
  let label := text.map fun char => if char.isAlphanum || char = '-' || char = '_' then char else '_'
  if label = "" then "unknown" else label

def workerName (index : Nat) : String := "worker-" ++ index.repr

def bucketName (runtimeId : String) (index : Nat) : String :=
  "network_data_" ++ safeRuntimeLabel runtimeId ++ "_w" ++ twoDigits index

structure ManagementProfile where
  managementSubnetBase : Nat
  managementPrefix : Nat
deriving DecidableEq, Repr

def managementSubnetStride (profile : ManagementProfile) : Nat :=
  if 24 ≤ profile.managementPrefix then 1 else 2 ^ (24 - profile.managementPrefix)

def managementSubnet (profile : ManagementProfile) (index : Nat) : Except String String :=
  let stride := managementSubnetStride profile
  let offset := if profile.managementPrefix = 24 then index else (index - 1) * stride
  let thirdOctet := profile.managementSubnetBase + offset
  if 254 < thirdOctet + stride - 1 then
    .error ("Worker index " ++ index.repr ++ " exceeds available management subnet range")
  else
    .ok ("172.31." ++ thirdOctet.repr ++ ".0/" ++ profile.managementPrefix.repr)

/-- The identity of the worker of an index, before its network is allocated. -/
def workerIdentity (name : String) (count : Nat) (mgmtSubnet : String) (index : Nat) :
    RuntimeIdentity :=
  let labName := if count = 1 then name else name ++ "-w" ++ twoDigits (index + 1)
  { runtimeId := name
    workerId := workerName (index + 1)
    workerIndex := index + 1
    labName
    bucket := bucketName name (index + 1)
    mgmtSubnet
    mgmtNetwork := "clab-mgmt-" ++ labName
    workerIndex_pos := Nat.succ_pos index }

theorem repr_inj {m n : Nat} (h : m.repr = n.repr) : m = n := by
  have hdigits := Models.readDigits_repr m
  rw [h, Models.readDigits_repr] at hdigits
  exact (Option.some.inj hdigits).symm

theorem twoDigits_inj {m n : Nat} (h : twoDigits m = twoDigits n) : m = n := by
  have hvalue : ∀ index, Nat.ofDigitChars 10 (twoDigits index).toList 0 = index := by
    intro index
    have hrepr : Nat.ofDigitChars 10 index.repr.toList 0 = index := by
      rw [Nat.toList_repr, Nat.ofDigitChars_ten_toDigits]
    unfold twoDigits
    split
    · rw [String.toList_append]
      exact hrepr
    · rw [String.toList_append]
      exact hrepr
  rw [← hvalue m, h, hvalue n]

theorem bucketName_inj {runtimeId : String} {m n : Nat}
    (h : bucketName runtimeId m = bucketName runtimeId n) : m = n := by
  unfold bucketName at h
  exact twoDigits_inj ((String.append_right_inj _).mp h)

theorem workerName_inj {m n : Nat} (h : workerName m = workerName n) : m = n := by
  unfold workerName at h
  exact repr_inj ((String.append_right_inj _).mp h)

theorem workerName_ne (index : Nat) : workerName index ≠ "" := by
  intro h
  have hlist := congrArg String.toList h
  rw [workerName, String.toList_append] at hlist
  cases hlist

/-- What depends on the index of a worker only, and differs for different ones, is not repeated. -/
theorem nodup_map_workerIdentity {name : String} {count : Nat} (subnets : List String)
    {f : RuntimeIdentity → β} {g : Nat → β} (hg : ∀ m n, g m = g n → m = n)
    (hf : ∀ subnet index, f (workerIdentity name count subnet index) = g index) :
    ((subnets.mapIdx fun index subnet => workerIdentity name count subnet index).map f).Nodup := by
  rw [List.nodup_iff_injective_get]
  intro i j hij
  simp only [List.get_eq_getElem, List.getElem_map, List.getElem_mapIdx, hf] at hij
  exact Fin.ext (hg _ _ hij)

/-- The workers of a runtime, whatever subnets they get. -/
def buildWorkers (name : String) (subnets : List String) : Workers where
  items := subnets.mapIdx fun index subnet => workerIdentity name subnets.length subnet index
  ids_nodup := nodup_map_workerIdentity (g := fun index => workerName (index + 1)) subnets
    (fun _ _ h => Nat.succ_injective (workerName_inj h)) fun _ _ => rfl
  indices_nodup := nodup_map_workerIdentity (g := fun index => index + 1) subnets
    (fun _ _ h => Nat.succ_injective h) fun _ _ => rfl
  ids_ne worker hmem := by
    obtain ⟨i, _, rfl⟩ := List.mem_mapIdx.mp hmem
    exact workerName_ne (i + 1)

theorem nodup_buckets_buildWorkers (name : String) (subnets : List String) :
    ((buildWorkers name subnets).items.map (·.bucket)).Nodup :=
  nodup_map_workerIdentity (g := fun index => bucketName name (index + 1)) subnets
    (fun _ _ h => Nat.succ_injective (bucketName_inj h)) fun _ _ => rfl

/-- `directory` is whether the directory could be made, and `persists` whether the metadata could be
written. -/
structure BuildRequest where
  name : String
  scale : String
  count : Nat
  rootDir : String
  profile : ManagementProfile
  directory : Bool := true
  persists : Bool := true
deriving DecidableEq, Repr

def newRuntime (request : BuildRequest) (subnets : List String) (serial : Nat) : ManagedRuntime where
  id := request.name
  name := request.name
  scale := request.scale
  workers := buildWorkers request.name subnets
  rootDir := request.rootDir
  serial

/-- `_build_runtime`, if it does not raise -/
def buildRuntime (request : BuildRequest) (workspace : Workspace) :
    Workspace × Option ManagedRuntime :=
  if !request.directory ∨ (workspace.saved request.rootDir).isSome then
    (workspace, none)
  else
    match (List.range (max 1 request.count)).mapM fun index =>
      managementSubnet request.profile (index + 1) with
    | .error _ => (workspace, none)
    | .ok subnets =>
      let runtime := newRuntime request subnets workspace.created
      let workspace := { workspace with created := workspace.created + 1 }
      if request.persists then (workspace.save runtime true, some runtime) else (workspace, none)

/-! ## The stages of an object -/

namespace ManagedRuntime

variable (runtime : ManagedRuntime) (workspace : Workspace)

/-- `_run_stage`, and whether it returns. -/
def runStage (stage : Stage) (nextState : RuntimeState)
    (operation : ManagedRuntime → Workspace → StageOutcome) (persists : Bool) :
    ManagedRuntime × Workspace × Bool :=
  if (runtime.stageResults stage).any fun result => result.Completed then
    (runtime, workspace, true)
  else
    match operation runtime workspace with
    | (runtime, workspace, some error) =>
      let runtime := runtime.withResult stage (some error)
      (runtime, workspace.save runtime persists, false)
    | (runtime, workspace, none) =>
      let runtime := { runtime.withResult stage none with state := nextState }
      (runtime, workspace.save runtime persists, persists)

/-- A property that neither the bookkeeping of a stage nor its metadata file matters to. -/
structure Stable (P : ManagedRuntime → Workspace → Prop) : Prop where
  result : ∀ {runtime workspace} stage error, P runtime workspace →
    P (runtime.withResult stage error) workspace
  state : ∀ {runtime workspace} nextState, P runtime workspace →
    P { runtime with state := nextState } workspace
  save : ∀ {runtime workspace} persists, P runtime workspace →
    P runtime (workspace.save runtime persists)

/-- What an operation leaves, its stage leaves. -/
theorem Stable.runStage {P : ManagedRuntime → Workspace → Prop} (hP : Stable P)
    (operation : ManagedRuntime → Workspace → StageOutcome) {runtime : ManagedRuntime}
    {workspace : Workspace} (h : P runtime workspace)
    (hoperation : P (operation runtime workspace).1 (operation runtime workspace).2.1)
    (stage : Stage) (nextState : RuntimeState) (persists : Bool) :
    P (runtime.runStage workspace stage nextState operation persists).1
      (runtime.runStage workspace stage nextState operation persists).2.1 := by
  unfold ManagedRuntime.runStage
  split
  · exact h
  · split
    · rename_i heq
      rw [heq] at hoperation
      exact hP.save persists (hP.result stage _ hoperation)
    · rename_i heq
      rw [heq] at hoperation
      exact hP.save persists (hP.state nextState (hP.result stage none hoperation))

def deploy (outcome : DeployOutcome) : Bool → ManagedRuntime × Workspace × Bool :=
  runtime.runStage workspace .deploy .deployed (deployStage outcome)

def ensureObservability (outcome : RuntimeIdentity → ObservabilityOutcome) :
    Bool → ManagedRuntime × Workspace × Bool :=
  runtime.runStage workspace .observability .observabilityReady (observabilityStage outcome)

def ensurePingmesh (outcome : Option String) : Bool → ManagedRuntime × Workspace × Bool :=
  runtime.runStage workspace .pingmesh .pingmeshReady (pingmeshStage outcome)

/-- `warm` -/
def warmUp (outcome : Option String) : Bool → ManagedRuntime × Workspace × Bool :=
  runtime.runStage workspace .warm .warm (warmStage outcome)

end ManagedRuntime

/-- What becomes of a directory that is removed: it may lose its metadata and still remain. -/
inductive DirectoryRemoval where
  | gone | emptied | kept
deriving DecidableEq, Repr

def Workspace.removeDirectory (workspace : Workspace) (rootDir : String) :
    DirectoryRemoval → Workspace
  | .kept => workspace
  | _ => { workspace with saved := Function.update workspace.saved rootDir none }

structure TeardownOutcome where
  labs : RuntimeIdentity → Option String
  deletes : String → Option String
  directory : DirectoryRemoval
  persists : Bool := true

namespace ManagedRuntime

variable (runtime : ManagedRuntime) (workspace : Workspace)

/-- The buckets that a teardown deletes. -/
def teardownBuckets : List String :=
  match runtime.state, runtime.metadata.cleanupPendingBuckets with
  | .cleanupFailed, some pending => pending
  | _, _ => workspace.registry.activeForRuntime runtime.id

/-- Whether `teardown` cleans up the labs and the telemetry. -/
def TearsDownLabs : Prop :=
  runtime.state ≠ .created ∨ (runtime.stageResults .deploy).isSome

instance : Decidable runtime.TearsDownLabs := inferInstanceAs (Decidable (_ ∨ _))

/-- The labs and the telemetry of `teardown`, and whether their cleanup returns. -/
def tearDownLabs (outcome : TeardownOutcome) : ManagedRuntime × Workspace × Bool :=
  match teardownWorkers outcome.labs runtime workspace with
  | (workspace, some error) =>
    let failed := ((runtime.withResult .teardown (some error)).cleanupFailed error).withPending
      (workspace.registry.activeForRuntime runtime.id)
    (failed, workspace.save failed outcome.persists, false)
  | (workspace, none) =>
    match deleteProvisionCreatedBuckets outcome.deletes
        { runtime with provisionCreatedBuckets := runtime.teardownBuckets workspace } workspace with
    | (runtime, workspace, some error) =>
      let failed := (runtime.cleanupFailed error).withPending runtime.provisionCreatedBuckets
      (failed, workspace.save failed outcome.persists, false)
    | (runtime, workspace, none) =>
      (runtime.withMetadata ({ · with cleanupPendingBuckets := none }), workspace, true)

/-- The directory of `teardown`. -/
def tearDownDirectory (outcome : TeardownOutcome) : ManagedRuntime × Workspace × Bool :=
  let workspace := workspace.removeDirectory runtime.rootDir outcome.directory
  if outcome.directory = .gone then
    ({ runtime with state := .tornDown },
      { workspace with
        departures := workspace.departures ++ [{
          runtimeId := runtime.id
          left := workspace.registry.activeForRuntime runtime.id }] }, true)
  else
    let failed := runtime.cleanupFailed
      ("runtime directory remained after teardown: " ++ runtime.rootDir)
    (failed, workspace.save failed outcome.persists, false)

def teardown (outcome : TeardownOutcome) : ManagedRuntime × Workspace × Bool :=
  if runtime.state = .tornDown then
    (runtime, workspace, true)
  else if runtime.TearsDownLabs then
    match runtime.tearDownLabs workspace outcome with
    | (runtime, workspace, false) => (runtime, workspace, false)
    | (runtime, workspace, true) => runtime.tearDownDirectory workspace outcome
  else
    runtime.tearDownDirectory workspace outcome

end ManagedRuntime

/-! ## Provisioning -/

/-- How the steps of `provision` end; `persists` is whether each metadata write succeeds. -/
structure ProvisionOutcome where
  deploy : DeployOutcome
  observability : RuntimeIdentity → ObservabilityOutcome
  pingmesh : Option String
  warm : Option String
  labs : RuntimeIdentity → Option String
  deletes : String → Option String
  directory : DirectoryRemoval
  persists : Stage → Bool
  cleanupPersists : Bool
  readyPersists : Bool

namespace ManagedRuntime

variable (runtime : ManagedRuntime) (workspace : Workspace)

/-- `deploy().ensure_observability().ensure_pingmesh().warm()` -/
def runStages (outcome : ProvisionOutcome) : ManagedRuntime × Workspace × Bool :=
  match runtime.deploy workspace outcome.deploy (outcome.persists .deploy) with
  | (runtime, workspace, false) => (runtime, workspace, false)
  | (runtime, workspace, true) =>
    match runtime.ensureObservability workspace outcome.observability
        (outcome.persists .observability) with
    | (runtime, workspace, false) => (runtime, workspace, false)
    | (runtime, workspace, true) =>
      match runtime.ensurePingmesh workspace outcome.pingmesh (outcome.persists .pingmesh) with
      | (runtime, workspace, false) => (runtime, workspace, false)
      | (runtime, workspace, true) =>
        runtime.warmUp workspace outcome.warm (outcome.persists .warm)

variable {runtime workspace} in
/-- The stages keep a property, if the deployment leaves it and the telemetry keeps it; what it becomes
with the telemetry may be less. -/
theorem Stable.runStages {P Q : ManagedRuntime → Workspace → Prop} (hP : Stable P) (hQ : Stable Q)
    (hPQ : ∀ runtime workspace, P runtime workspace → Q runtime workspace) (outcome : ProvisionOutcome)
    (h : P runtime workspace)
    (hdeploy : P (deployStage outcome.deploy runtime workspace).1
      (deployStage outcome.deploy runtime workspace).2.1)
    (hobserve : ∀ runtime workspace, P runtime workspace →
      Q (observabilityStage outcome.observability runtime workspace).1
        (observabilityStage outcome.observability runtime workspace).2.1) :
    Q (runtime.runStages workspace outcome).1 (runtime.runStages workspace outcome).2.1 := by
  have hdeployed := hP.runStage (deployStage outcome.deploy) h hdeploy .deploy .deployed
    (outcome.persists .deploy)
  unfold ManagedRuntime.runStages ManagedRuntime.deploy
  split
  · rename_i heq
    rw [heq] at hdeployed
    exact hPQ _ _ hdeployed
  · rename_i first middle heq
    rw [heq] at hdeployed
    have hobserved := hQ.runStage (observabilityStage outcome.observability)
      (hPQ first middle hdeployed) (hobserve first middle hdeployed) .observability
      .observabilityReady (outcome.persists .observability)
    unfold ManagedRuntime.ensureObservability
    split
    · rename_i heq
      rw [heq] at hobserved
      exact hobserved
    · rename_i heq
      rw [heq] at hobserved
      have hping := hQ.runStage (pingmeshStage outcome.pingmesh) hobserved hobserved .pingmesh
        .pingmeshReady (outcome.persists .pingmesh)
      unfold ManagedRuntime.ensurePingmesh
      split
      · rename_i heq
        rw [heq] at hping
        exact hping
      · rename_i heq
        rw [heq] at hping
        exact hQ.runStage (warmStage outcome.warm) hping hping .warm .warm (outcome.persists .warm)

/-- What a `provision` that succeeds makes of the runtime. -/
def provisioned : ManagedRuntime :=
  { runtime.withMetadata ({ · with provisioningMode := some "worker_pool" }) with state := .warm }

/-- What a failed `provision` cleans up. -/
def compensate (outcome : ProvisionOutcome) : Workspace :=
  let (workspace, labError) :=
    if runtime.metadata.deploymentStarted then teardownWorkers outcome.labs runtime workspace
    else (workspace, none)
  match labError with
  | some error =>
    workspace.save ((runtime.cleanupFailed error).withPending runtime.provisionCreatedBuckets)
      outcome.cleanupPersists
  | none =>
    match deleteProvisionCreatedBuckets outcome.deletes runtime workspace with
    | (runtime, workspace, some error) =>
      workspace.save ((runtime.cleanupFailed error).withPending runtime.provisionCreatedBuckets)
        outcome.cleanupPersists
    | (runtime, workspace, none) =>
      let workspace := workspace.removeDirectory runtime.rootDir outcome.directory
      if outcome.directory = .gone then
        workspace
      else
        workspace.save (runtime.cleanupFailed
          ("runtime directory remained after provisioning cleanup: " ++ runtime.rootDir))
          outcome.cleanupPersists

end ManagedRuntime

def provision (request : BuildRequest) (outcome : ProvisionOutcome) (workspace : Workspace) :
    Workspace × Option ManagedRuntime :=
  match buildRuntime request workspace with
  | (workspace, none) => (workspace, none)
  | (workspace, some runtime) =>
    match runtime.runStages workspace outcome with
    | (runtime, workspace, false) => (runtime.compensate workspace outcome, none)
    | (runtime, workspace, true) =>
      if outcome.readyPersists then (workspace.save runtime.provisioned true, some runtime.provisioned)
      else (workspace, none)

/-! ## Runs -/

/-- A workspace and the runtime objects that were handed out, in their order. -/
structure RuntimeSystem where
  workspace : Workspace := {}
  runtimes : List ManagedRuntime := []

/-- A call on the manager, or on the object of a number, or a change on the host between two calls: a
resource under the name of a lab is taken or left. -/
inductive RuntimeCall where
  | create (request : BuildRequest)
  | provision (request : BuildRequest) (outcome : ProvisionOutcome)
  | attach (rootDir : String)
  | deploy (object : Nat) (outcome : DeployOutcome) (persists : Bool)
  | ensureObservability (object : Nat) (outcome : RuntimeIdentity → ObservabilityOutcome)
    (persists : Bool)
  | ensurePingmesh (object : Nat) (outcome : Option String) (persists : Bool)
  | warm (object : Nat) (outcome : Option String) (persists : Bool)
  | teardown (object : Nat) (outcome : TeardownOutcome)
  | host (labName : String) (resource : SlotResource) (occupant : Option Occupant)

namespace RuntimeSystem

variable (system : RuntimeSystem)

def handOut : Workspace × Option ManagedRuntime → RuntimeSystem
  | (workspace, some runtime) => { workspace, runtimes := system.runtimes ++ [runtime] }
  | (workspace, none) => { system with workspace }

def onObject (object : Nat)
    (operation : ManagedRuntime → Workspace → ManagedRuntime × Workspace × Bool) : RuntimeSystem :=
  match system.runtimes[object]? with
  | none => system
  | some runtime =>
    match operation runtime system.workspace with
    | (runtime, workspace, _) => { workspace, runtimes := system.runtimes.set object runtime }

def step : RuntimeCall → RuntimeSystem
  | .create request => system.handOut (buildRuntime request system.workspace)
  | .provision request outcome => system.handOut (Runtime.provision request outcome system.workspace)
  | .attach rootDir => system.handOut (system.workspace, system.workspace.saved rootDir)
  | .deploy object outcome persists =>
    system.onObject object fun runtime workspace => runtime.deploy workspace outcome persists
  | .ensureObservability object outcome persists =>
    system.onObject object fun runtime workspace =>
      runtime.ensureObservability workspace outcome persists
  | .ensurePingmesh object outcome persists =>
    system.onObject object fun runtime workspace => runtime.ensurePingmesh workspace outcome persists
  | .warm object outcome persists =>
    system.onObject object fun runtime workspace => runtime.warmUp workspace outcome persists
  | .teardown object outcome =>
    system.onObject object fun runtime workspace => runtime.teardown workspace outcome
  | .host labName resource occupant =>
    { system with workspace := system.workspace.hold labName resource occupant }

def run (calls : List RuntimeCall) : RuntimeSystem := calls.foldl step system

end RuntimeSystem

end NetOpsBench.Runtime
