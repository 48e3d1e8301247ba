import NetOpsBench.Data.Run
import NetOpsBench.Runtime.Manager

/-!
# A runtime removes its own labs

What marks the deployment of a runtime as started comes after the slot check. Provisioning cleans up
labs behind that mark; an explicit teardown does not look at it, so that it also removes a lab for which
the deployment was refused. A deployment that was started, and failed, may be tried again; when that is
refused, the mark of the first is still there.

`removals_started` says that labs are removed by runtimes that started them only, and never the lab
because of which a deployment was refused, in every run whose teardowns meet `TeardownSpares`.
`refused_lab_removed` has the two runs in which a teardown removes the lab of somebody else.

The invariant is `Lawful`: what the metadata on disk say is known to the workspace, only runtimes that
were built have been refused, and every removal so far was of an own lab. Each operation keeps it
(`LawfulAfter`). Provisioning needs no condition, since nobody has refused a runtime that is new
(`Unopposed`).
-/

namespace NetOpsBench.Runtime

/-- A runtime was built in the workspace, and has started its deployment if its metadata say so. -/
structure Known (workspace : Workspace) (runtime : ManagedRuntime) : Prop where
  built : runtime.serial < workspace.created
  marked : runtime.metadata.deploymentStarted → runtime.serial ∈ workspace.started

/-- Labs were removed only for runtimes that had started their deployment, and no lab of somebody else
because of which a deployment of the runtime had been refused. -/
def RemovedOwnLabs (workspace : Workspace) : Prop :=
  ∀ removal ∈ workspace.removals, removal.started ∧ ∀ occupant ∈ removal.occupants,
    occupant ∈ removal.refusers → occupant = .runtime removal.serial

instance (workspace : Workspace) : Decidable (RemovedOwnLabs workspace) :=
  inferInstanceAs (Decidable (∀ removal ∈ workspace.removals, removal.started ∧
    ∀ occupant ∈ removal.occupants, occupant ∈ removal.refusers → occupant = .runtime removal.serial))

structure Lawful (workspace : Workspace) : Prop where
  saved : ∀ rootDir runtime, workspace.saved rootDir = some runtime → Known workspace runtime
  refusals : ∀ refusal ∈ workspace.refusals, refusal.serial < workspace.created
  removals : RemovedOwnLabs workspace

/-- The histories of a workspace only get longer. -/
structure Grows (workspace next : Workspace) : Prop where
  started : ∀ serial ∈ workspace.started, serial ∈ next.started
  created : workspace.created ≤ next.created

/-- What an operation on a runtime leaves. -/
structure LawfulAfter (workspace : Workspace) (runtime : ManagedRuntime) (next : Workspace) : Prop where
  lawful : Lawful next
  known : Known next runtime
  grows : Grows workspace next

section Steps

variable {workspace middle next : Workspace} {runtime last : ManagedRuntime}

theorem Grows.refl (workspace : Workspace) : Grows workspace workspace :=
  ⟨fun _ h => h, le_rfl⟩

theorem Grows.trans (h : Grows workspace middle) (h' : Grows middle next) : Grows workspace next :=
  ⟨fun serial hserial => h'.started serial (h.started serial hserial), h.created.trans h'.created⟩

theorem Known.mono (h : Known workspace runtime) (hgrows : Grows workspace next) :
    Known next runtime :=
  ⟨h.built.trans_le hgrows.created, fun hstarted => hgrows.started _ (h.marked hstarted)⟩

theorem Known.congr (h : Known workspace runtime)
    (hstarted : last.metadata.deploymentStarted = runtime.metadata.deploymentStarted)
    (hserial : last.serial = runtime.serial) : Known workspace last :=
  ⟨hserial ▸ h.built, fun hlast => hserial ▸ h.marked (hstarted ▸ hlast)⟩

theorem LawfulAfter.refl (hlawful : Lawful workspace) (hknown : Known workspace runtime) :
    LawfulAfter workspace runtime workspace :=
  ⟨hlawful, hknown, .refl workspace⟩

theorem LawfulAfter.congr (h : LawfulAfter workspace runtime next)
    (hstarted : last.metadata.deploymentStarted = runtime.metadata.deploymentStarted)
    (hserial : last.serial = runtime.serial) : LawfulAfter workspace last next :=
  ⟨h.lawful, h.known.congr hstarted hserial, h.grows⟩

/-- Only what is on disk, the refusals and the removals can make a workspace unlawful, as long as
nothing is built or started. -/
theorem LawfulAfter.of_histories {last : Workspace} (h : LawfulAfter workspace runtime next)
    (hstarted : last.started = next.started) (hcreated : last.created = next.created)
    (hsaved : ∀ rootDir saved, last.saved rootDir = some saved → Known next saved)
    (hrefusals : ∀ refusal ∈ last.refusals, refusal.serial < next.created)
    (hremovals : RemovedOwnLabs last) : LawfulAfter workspace runtime last := by
  have hgrows : Grows next last := ⟨fun _ hserial => hstarted ▸ hserial, hcreated.ge⟩
  exact ⟨⟨fun rootDir saved h => (hsaved rootDir saved h).mono hgrows,
    fun refusal h => (hrefusals refusal h).trans_le hgrows.created, hremovals⟩,
    h.known.mono hgrows, h.grows.trans hgrows⟩

/-- Neither the host nor the telemetry matters. -/
theorem LawfulAfter.frame (h : LawfulAfter workspace runtime next)
    (registry : Observability.ManagedBucketRegistry) (host : String → SlotResource → Option Occupant)
    (deletions : List BucketDeletion) (departures : List Departure) :
    LawfulAfter workspace runtime { next with registry, host, deletions, departures } :=
  h.of_histories rfl rfl h.lawful.saved h.lawful.refusals h.lawful.removals

/-- Saving changes nothing but the metadata on disk. -/
theorem LawfulAfter.save (h : LawfulAfter workspace runtime next) (persists : Bool) :
    LawfulAfter workspace runtime (next.save runtime persists) := by
  unfold Workspace.save
  split
  · refine h.of_histories rfl rfl (fun rootDir saved hsaved => ?_) h.lawful.refusals
      h.lawful.removals
    dsimp only at hsaved
    by_cases hdir : rootDir = runtime.rootDir
    · subst hdir
      rw [Function.update_self] at hsaved
      cases hsaved
      exact h.known.congr rfl rfl
    · rw [Function.update_of_ne hdir] at hsaved
      exact h.lawful.saved rootDir saved hsaved
  · exact h

/-- A cleanup that fails is written down and saved. -/
theorem LawfulAfter.fail (h : LawfulAfter workspace runtime next) (error : String) (persists : Bool) :
    LawfulAfter workspace (runtime.cleanupFailed error)
      (next.save (runtime.cleanupFailed error) persists) := by
  have hfailed : LawfulAfter workspace (runtime.cleanupFailed error) next := h.congr rfl rfl
  exact hfailed.save persists

theorem LawfulAfter.failPending (h : LawfulAfter workspace runtime next) (error : String)
    (buckets : List String) (persists : Bool) :
    LawfulAfter workspace ((runtime.cleanupFailed error).withPending buckets)
      (next.save ((runtime.cleanupFailed error).withPending buckets) persists) := by
  have hfailed : LawfulAfter workspace ((runtime.cleanupFailed error).withPending buckets) next :=
    h.congr rfl rfl
  exact hfailed.save persists

theorem LawfulAfter.removeDirectory (h : LawfulAfter workspace runtime next) (rootDir : String)
    (removal : DirectoryRemoval) :
    LawfulAfter workspace runtime (next.removeDirectory rootDir removal) := by
  unfold Workspace.removeDirectory
  split
  · exact h
  · refine h.of_histories rfl rfl (fun other saved hsaved => ?_) h.lawful.refusals
      h.lawful.removals
    dsimp only at hsaved
    by_cases hdir : other = rootDir
    · subst hdir
      rw [Function.update_self] at hsaved
      cases hsaved
    · rw [Function.update_of_ne hdir] at hsaved
      exact h.lawful.saved other saved hsaved

/-- The bookkeeping around a stage matters to none of this. -/
theorem stable_lawfulAfter (workspace : Workspace) :
    ManagedRuntime.Stable (LawfulAfter workspace) where
  result _ _ h := h.congr rfl rfl
  state _ h := h.congr rfl rfl
  save persists h := h.save persists

/-- A refusal is recorded for the runtime, which was built. -/
theorem LawfulAfter.refuse (h : LawfulAfter workspace runtime next) (occupants : List Occupant) :
    LawfulAfter workspace runtime (next.refuse runtime.serial occupants) := by
  refine h.of_histories rfl rfl h.lawful.saved (fun refusal hrefusal => ?_) h.lawful.removals
  rcases List.mem_append.mp hrefusal with hrefusal | hrefusal
  · exact h.lawful.refusals refusal hrefusal
  · obtain ⟨occupant, _, rfl⟩ := List.mem_map.mp hrefusal
    exact h.known.built

/-- The mark is made in the metadata and in the history, whatever came up on the host. -/
theorem LawfulAfter.start (h : LawfulAfter workspace runtime next)
    (host : String → SlotResource → Option Occupant) :
    LawfulAfter workspace (runtime.withMetadata ({ · with deploymentStarted := true }))
      { next with host, started := next.started ++ [runtime.serial] } := by
  have hgrows : Grows next { next with host, started := next.started ++ [runtime.serial] } :=
    ⟨fun _ hserial => List.mem_append_left _ hserial, le_rfl⟩
  refine ⟨⟨fun rootDir saved hsaved => (h.lawful.saved rootDir saved hsaved).mono hgrows,
    h.lawful.refusals, h.lawful.removals⟩, ⟨h.known.built, fun _ => ?_⟩, h.grows.trans hgrows⟩
  exact List.mem_append_right _ (List.mem_singleton_self _)

/-- A deployment looks at every slot before it starts. -/
theorem lawfulAfter_deployStage (h : LawfulAfter workspace runtime next) (outcome : DeployOutcome) :
    LawfulAfter workspace (deployStage outcome runtime next).1
      (deployStage outcome runtime next).2.1 := by
  unfold deployStage
  split
  · exact h
  · rename_i subnets _
    have hworkers : LawfulAfter workspace
        { runtime with workers := runtime.workers.withSubnets subnets } next := h.congr rfl rfl
    dsimp only
    split
    · exact hworkers.refuse _
    · exact hworkers.start _

theorem lawfulAfter_observabilityStage (h : LawfulAfter workspace runtime next)
    (outcome : RuntimeIdentity → ObservabilityOutcome) :
    LawfulAfter workspace (observabilityStage outcome runtime next).1
      (observabilityStage outcome runtime next).2.1 :=
  observeWorkers_invariant (P := LawfulAfter workspace)
    (fun runtime next bucket h =>
      (h.frame (next.registry.recordCreated bucket runtime.id) next.host next.deletions
        next.departures).congr rfl rfl)
    (fun _ next host h => h.frame next.registry host next.deletions next.departures)
    outcome runtime.workers.items h

theorem lawfulAfter_deleteProvisionCreatedBuckets (h : LawfulAfter workspace runtime next)
    (deletes : String → Option String) :
    LawfulAfter workspace (deleteProvisionCreatedBuckets deletes runtime next).1
      (deleteProvisionCreatedBuckets deletes runtime next).2.1 := by
  obtain ⟨registry, deletions, heq⟩ :=
    deleteBuckets_frame runtime.id deletes runtime.provisionCreatedBuckets next
  unfold deleteProvisionCreatedBuckets
  dsimp only
  rw [heq]
  exact (h.frame registry next.host deletions next.departures).congr rfl rfl

/-! ## Teardown -/

/-- No slot of the runtime is held by somebody else because of whom a deployment of the runtime was
refused. -/
def Unrefused (workspace : Workspace) (runtime : ManagedRuntime) : Prop :=
  ∀ worker ∈ runtime.workers.items, ∀ occupant ∈ workspace.occupants worker.labName,
    occupant ∈ workspace.refusers runtime.serial → occupant = .runtime runtime.serial

/-- The labs of a runtime that started its deployment are its own, if it was not refused. -/
theorem lawfulAfter_teardownWorkers (h : LawfulAfter workspace runtime next)
    (hstarted : runtime.metadata.deploymentStarted) (hunrefused : Unrefused next runtime)
    (labs : RuntimeIdentity → Option String) :
    LawfulAfter workspace runtime (teardownWorkers labs runtime next).1 := by
  refine h.of_histories rfl rfl h.lawful.saved h.lawful.refusals fun removal hremoval => ?_
  rcases List.mem_append.mp hremoval with hremoval | hremoval
  · exact h.lawful.removals removal hremoval
  · obtain ⟨worker, hworker, rfl⟩ := List.mem_map.mp hremoval
    exact ⟨decide_eq_true (h.known.marked hstarted), hunrefused worker hworker⟩

/-- A runtime that has started, and that nobody opposes, may remove its labs. -/
theorem lawfulAfter_tearDownLabs (h : LawfulAfter workspace runtime next)
    (hstarted : runtime.metadata.deploymentStarted) (hunrefused : Unrefused next runtime)
    (outcome : TeardownOutcome) :
    LawfulAfter workspace (runtime.tearDownLabs next outcome).1
      (runtime.tearDownLabs next outcome).2.1 := by
  have hlabs := lawfulAfter_teardownWorkers h hstarted hunrefused outcome.labs
  unfold ManagedRuntime.tearDownLabs
  split
  · rename_i middle error heq
    rw [heq] at hlabs
    have hresult : LawfulAfter workspace (runtime.withResult .teardown (some error)) middle :=
      hlabs.congr rfl rfl
    exact hresult.failPending ..
  · rename_i middle heq
    rw [heq] at hlabs
    have hbuckets : LawfulAfter workspace { runtime with
        provisionCreatedBuckets := runtime.teardownBuckets middle } middle := hlabs.congr rfl rfl
    have hdeleted := lawfulAfter_deleteProvisionCreatedBuckets hbuckets outcome.deletes
    split
    · rename_i heq
      rw [heq] at hdeleted
      exact hdeleted.failPending ..
    · rename_i heq
      rw [heq] at hdeleted
      exact hdeleted.congr rfl rfl

theorem lawfulAfter_tearDownDirectory (h : LawfulAfter workspace runtime next)
    (outcome : TeardownOutcome) :
    LawfulAfter workspace (runtime.tearDownDirectory next outcome).1
      (runtime.tearDownDirectory next outcome).2.1 := by
  have hremoved := h.removeDirectory runtime.rootDir outcome.directory
  unfold ManagedRuntime.tearDownDirectory
  dsimp only
  split
  · exact (hremoved.frame _ _ _ _).congr rfl rfl
  · exact hremoved.fail ..

/-- The teardown of a runtime looks at no labs, or its deployment was started and nobody who refused
another one holds its slots. -/
def Spares (workspace : Workspace) (runtime : ManagedRuntime) : Prop :=
  runtime.state = .tornDown ∨ ¬ runtime.TearsDownLabs ∨
    runtime.metadata.deploymentStarted ∧ Unrefused workspace runtime

/-- A teardown is lawful if it spares what is not its own. -/
theorem lawfulAfter_teardown (h : LawfulAfter workspace runtime next) (hspares : Spares next runtime)
    (outcome : TeardownOutcome) :
    LawfulAfter workspace (runtime.teardown next outcome).1
      (runtime.teardown next outcome).2.1 := by
  unfold ManagedRuntime.teardown
  split
  · exact h
  · rename_i hstate
    split
    · rename_i htears
      obtain ⟨hstarted, hunrefused⟩ :=
        (hspares.resolve_left hstate).resolve_left (not_not.mpr htears)
      have hlabs := lawfulAfter_tearDownLabs h hstarted hunrefused outcome
      split
      · rename_i heq
        rw [heq] at hlabs
        exact hlabs
      · rename_i heq
        rw [heq] at hlabs
        exact lawfulAfter_tearDownDirectory hlabs outcome
    · exact lawfulAfter_tearDownDirectory h outcome

/-! ## Provisioning -/

/-- A runtime that has started its deployment was refused by nobody. -/
def Unopposed (workspace : Workspace) (runtime : ManagedRuntime) : Prop :=
  runtime.metadata.deploymentStarted → workspace.refusers runtime.serial = []

/-- What provisioning leaves before it may have to clean up. -/
structure FreshAfter (workspace : Workspace) (runtime : ManagedRuntime) (next : Workspace) : Prop where
  after : LawfulAfter workspace runtime next
  unopposed : Unopposed next runtime

theorem refusals_save (workspace : Workspace) (runtime : ManagedRuntime) (persists : Bool) :
    (workspace.save runtime persists).refusals = workspace.refusals := by
  unfold Workspace.save
  split <;> rfl

theorem Unopposed.of_refusals (h : Unopposed workspace runtime)
    (hrefusals : next.refusals = workspace.refusals) : Unopposed next runtime := fun hstarted => by
  rw [Workspace.refusers, hrefusals]
  exact h hstarted

theorem stable_freshAfter (workspace : Workspace) : ManagedRuntime.Stable (FreshAfter workspace) where
  result _ _ h := ⟨h.after.congr rfl rfl, h.unopposed⟩
  state _ h := ⟨h.after.congr rfl rfl, h.unopposed⟩
  save persists h := ⟨h.after.save persists, h.unopposed.of_refusals (refusals_save ..)⟩

/-- A new runtime is refused, and then not started, or it is started and was refused by nobody. -/
theorem freshAfter_deployStage (h : LawfulAfter workspace runtime next)
    (hunstarted : runtime.metadata.deploymentStarted = false)
    (hrefusers : next.refusers runtime.serial = []) (outcome : DeployOutcome) :
    FreshAfter workspace (deployStage outcome runtime next).1
      (deployStage outcome runtime next).2.1 := by
  refine ⟨lawfulAfter_deployStage h outcome, ?_⟩
  unfold deployStage
  split
  · exact fun _ => hrefusers
  · dsimp only
    split
    · intro hstarted
      exact absurd (hunstarted.symm.trans hstarted) Bool.false_ne_true
    · exact fun _ => hrefusers

theorem freshAfter_observabilityStage (h : FreshAfter workspace runtime next)
    (outcome : RuntimeIdentity → ObservabilityOutcome) :
    FreshAfter workspace (observabilityStage outcome runtime next).1
      (observabilityStage outcome runtime next).2.1 where
  after := lawfulAfter_observabilityStage h.after outcome
  unopposed := observeWorkers_invariant (P := fun runtime next => Unopposed next runtime)
    (fun _ _ _ h => h) (fun _ _ _ h => h) outcome runtime.workers.items h.unopposed

/-- Provisioning looks at the mark before it removes labs. -/
theorem lawful_compensate (h : FreshAfter workspace runtime next) (outcome : ProvisionOutcome) :
    Lawful (runtime.compensate next outcome) ∧ Grows workspace (runtime.compensate next outcome) := by
  obtain ⟨middle, labError, hlabs, hafter⟩ : ∃ middle labError,
      (if runtime.metadata.deploymentStarted then teardownWorkers outcome.labs runtime next
        else (next, none)) = (middle, labError) ∧ LawfulAfter workspace runtime middle := by
    split
    · rename_i hstarted
      have hunrefused : Unrefused next runtime := fun _ _ _ _ hrefuser => by
        rw [h.unopposed hstarted] at hrefuser
        cases hrefuser
      exact ⟨_, _, rfl, lawfulAfter_teardownWorkers h.after hstarted hunrefused outcome.labs⟩
    · exact ⟨_, _, rfl, h.after⟩
  unfold ManagedRuntime.compensate
  rw [hlabs]
  dsimp only
  cases labError with
  | some error =>
    have hfailed :=
      hafter.failPending error runtime.provisionCreatedBuckets outcome.cleanupPersists
    exact ⟨hfailed.lawful, hfailed.grows⟩
  | none =>
    have hdeleted := lawfulAfter_deleteProvisionCreatedBuckets hafter outcome.deletes
    dsimp only
    split
    · rename_i failed last error heq
      rw [heq] at hdeleted
      have hfailed :=
        hdeleted.failPending error failed.provisionCreatedBuckets outcome.cleanupPersists
      exact ⟨hfailed.lawful, hfailed.grows⟩
    · rename_i deleted last heq
      rw [heq] at hdeleted
      have hremoved := hdeleted.removeDirectory deleted.rootDir outcome.directory
      split
      · exact ⟨hremoved.lawful, hremoved.grows⟩
      · have hresidual := hremoved.fail
          ("runtime directory remained after provisioning cleanup: " ++ deleted.rootDir)
          outcome.cleanupPersists
        exact ⟨hresidual.lawful, hresidual.grows⟩

/-- What the manager leaves, and the runtime that it hands out, if any. -/
def LawfulHandOut (workspace : Workspace) (result : Workspace × Option ManagedRuntime) : Prop :=
  Lawful result.1 ∧ Grows workspace result.1 ∧ ∀ runtime ∈ result.2, Known result.1 runtime

theorem LawfulHandOut.of_none (hlawful : Lawful next) (hgrows : Grows workspace next) :
    LawfulHandOut workspace (next, none) :=
  ⟨hlawful, hgrows, fun runtime h => absurd h (Option.not_mem_none runtime)⟩

theorem LawfulAfter.handOut (h : LawfulAfter workspace runtime next) :
    LawfulHandOut workspace (next, some runtime) :=
  ⟨h.lawful, h.grows, fun _ hmem => Option.mem_some.mp hmem ▸ h.known⟩

/-- A runtime that was built just now was not started, and was refused by nobody. -/
structure New (workspace : Workspace) (runtime : ManagedRuntime) : Prop where
  unstarted : runtime.metadata.deploymentStarted = false
  refusers : workspace.refusers runtime.serial = []

theorem Lawful.refusers_created (h : Lawful workspace) :
    workspace.refusers workspace.created = [] := by
  refine List.eq_nil_iff_forall_not_mem.mpr fun occupant hmem => ?_
  exact absurd (h.refusals _ (Workspace.mem_refusers.mp hmem)) (lt_irrefl _)

/-- A runtime that is built is new. -/
theorem lawful_buildRuntime (hlawful : Lawful workspace) (request : BuildRequest) :
    LawfulHandOut workspace (buildRuntime request workspace) ∧
      ∀ runtime ∈ (buildRuntime request workspace).2,
        New (buildRuntime request workspace).1 runtime := by
  have hnone : ∀ runtime ∈ (none : Option ManagedRuntime), New workspace runtime :=
    fun runtime h => absurd h (Option.not_mem_none runtime)
  unfold buildRuntime
  split
  · exact ⟨.of_none hlawful (.refl workspace), hnone⟩
  · split
    · exact ⟨.of_none hlawful (.refl workspace), hnone⟩
    · rename_i subnets _
      have hgrows : Grows workspace { workspace with created := workspace.created + 1 } :=
        ⟨fun _ h => h, Nat.le_succ _⟩
      have hcreated : LawfulAfter workspace (newRuntime request subnets workspace.created)
          { workspace with created := workspace.created + 1 } :=
        ⟨⟨fun rootDir saved h => (hlawful.saved rootDir saved h).mono hgrows,
          fun refusal h => (hlawful.refusals refusal h).trans_le hgrows.created, hlawful.removals⟩,
          ⟨Nat.lt_succ_self _, fun h => absurd h Bool.false_ne_true⟩, hgrows⟩
      dsimp only
      split
      · refine ⟨(hcreated.save true).handOut, fun runtime hmem => ?_⟩
        rw [← Option.mem_some.mp hmem]
        exact ⟨rfl, hlawful.refusers_created⟩
      · exact ⟨.of_none hcreated.lawful hgrows,
          fun runtime h => absurd h (Option.not_mem_none runtime)⟩

/-- Provisioning is lawful, also where it fails and cleans up. -/
theorem lawful_provision (hlawful : Lawful workspace) (request : BuildRequest)
    (outcome : ProvisionOutcome) :
    LawfulHandOut workspace (provision request outcome workspace) := by
  obtain ⟨hbuilt, hnew⟩ := lawful_buildRuntime hlawful request
  unfold provision
  split
  · rename_i heq
    rw [heq] at hbuilt
    exact hbuilt
  · rename_i middle built heq
    rw [heq] at hbuilt hnew
    obtain ⟨hmiddle, hgrows, hknown⟩ := hbuilt
    obtain ⟨hunstarted, hrefusers⟩ := hnew built rfl
    have hfirst : FreshAfter workspace built middle :=
      ⟨⟨hmiddle, hknown built rfl, hgrows⟩, fun _ => hrefusers⟩
    have hstages := (stable_freshAfter workspace).runStages (stable_freshAfter workspace)
      (fun _ _ h => h) outcome hfirst
      (freshAfter_deployStage hfirst.after hunstarted hrefusers outcome.deploy)
      fun _ _ h => freshAfter_observabilityStage h outcome.observability
    split
    · rename_i heq
      rw [heq] at hstages
      obtain ⟨hcompensated, hgrown⟩ := lawful_compensate hstages outcome
      exact .of_none hcompensated hgrown
    · rename_i ready last heq
      rw [heq] at hstages
      split
      · have hresult : LawfulAfter workspace ready.provisioned last :=
          hstages.after.congr rfl rfl
        exact (hresult.save true).handOut
      · exact .of_none hstages.after.lawful hstages.after.grows

end Steps

/-! ## Every run -/

structure LawfulSystem (system : RuntimeSystem) : Prop where
  workspace : Lawful system.workspace
  runtimes : ∀ runtime ∈ system.runtimes, Known system.workspace runtime

/-- Every teardown is of a runtime that is torn down already, or still `created` without a recorded
deployment, or that started its deployment; and then nobody else because of whom a deployment of the
runtime was refused holds one of its slots. -/
def TeardownSpares (system : RuntimeSystem) : RuntimeCall → Prop
  | .teardown object _ => ∀ runtime ∈ system.runtimes[object]?, Spares system.workspace runtime
  | _ => True

instance (workspace : Workspace) (runtime : ManagedRuntime) :
    Decidable (Unrefused workspace runtime) :=
  inferInstanceAs (Decidable (∀ worker ∈ runtime.workers.items,
    ∀ occupant ∈ workspace.occupants worker.labName,
      occupant ∈ workspace.refusers runtime.serial → occupant = .runtime runtime.serial))

instance (workspace : Workspace) (runtime : ManagedRuntime) : Decidable (Spares workspace runtime) :=
  inferInstanceAs (Decidable (_ ∨ _))

instance (system : RuntimeSystem) : ∀ call, Decidable (TeardownSpares system call)
  | .teardown object _ =>
    inferInstanceAs (Decidable (∀ runtime ∈ system.runtimes[object]?, Spares system.workspace runtime))
  | .create _ | .provision _ _ | .attach _ | .deploy _ _ _ | .ensureObservability _ _ _
  | .ensurePingmesh _ _ _ | .warm _ _ _ | .host _ _ _ => .isTrue trivial

section Runs

variable {system : RuntimeSystem}

theorem LawfulSystem.handOut (h : LawfulSystem system) {result : Workspace × Option ManagedRuntime}
    (hresult : LawfulHandOut system.workspace result) : LawfulSystem (system.handOut result) := by
  obtain ⟨hlawful, hgrows, hknown⟩ := hresult
  rcases result with ⟨next, _ | runtime⟩
  · exact ⟨hlawful, fun runtime hmem => (h.runtimes runtime hmem).mono hgrows⟩
  · refine ⟨hlawful, fun other hmem => ?_⟩
    rcases List.mem_append.mp hmem with hmem | hmem
    · exact (h.runtimes other hmem).mono hgrows
    · rw [List.mem_singleton.mp hmem]
      exact hknown runtime rfl

theorem LawfulSystem.onObject (h : LawfulSystem system) (object : Nat)
    {operation : ManagedRuntime → Workspace → ManagedRuntime × Workspace × Bool}
    (hoperation : ∀ runtime ∈ system.runtimes[object]?,
      LawfulAfter system.workspace runtime system.workspace →
        LawfulAfter system.workspace (operation runtime system.workspace).1
          (operation runtime system.workspace).2.1) :
    LawfulSystem (system.onObject object operation) := by
  unfold RuntimeSystem.onObject
  split
  · exact h
  · rename_i runtime hruntime
    have hafter := hoperation runtime hruntime
      (.refl h.workspace (h.runtimes runtime (List.mem_of_getElem? hruntime)))
    refine ⟨hafter.lawful, fun other hmem => ?_⟩
    rcases List.mem_or_eq_of_mem_set hmem with hmem | rfl
    · exact (h.runtimes other hmem).mono hafter.grows
    · exact hafter.known

/-- The step lemma: every call is lawful if its teardown spares the labs of others. -/
theorem LawfulSystem.step (h : LawfulSystem system) (call : RuntimeCall)
    (hspares : TeardownSpares system call) : LawfulSystem (system.step call) := by
  have hstable := stable_lawfulAfter system.workspace
  rw [RuntimeSystem.step.eq_def]
  cases call with
  | create request => exact h.handOut (lawful_buildRuntime h.workspace request).1
  | provision request outcome => exact h.handOut (lawful_provision h.workspace request outcome)
  | attach rootDir =>
    exact h.handOut ⟨h.workspace, .refl system.workspace, h.workspace.saved rootDir⟩
  | deploy object outcome persists =>
    exact h.onObject object fun _ _ hafter =>
      hstable.runStage (deployStage outcome) hafter (lawfulAfter_deployStage hafter outcome)
        .deploy .deployed persists
  | ensureObservability object outcome persists =>
    exact h.onObject object fun _ _ hafter =>
      hstable.runStage (observabilityStage outcome) hafter
        (lawfulAfter_observabilityStage hafter outcome) .observability .observabilityReady persists
  | ensurePingmesh object outcome persists =>
    exact h.onObject object fun _ _ hafter =>
      hstable.runStage (pingmeshStage outcome) hafter hafter .pingmesh .pingmeshReady persists
  | warm object outcome persists =>
    exact h.onObject object fun _ _ hafter =>
      hstable.runStage (warmStage outcome) hafter hafter .warm .warm persists
  | teardown object outcome =>
    exact h.onObject object fun runtime hruntime hafter =>
      lawfulAfter_teardown hafter (hspares runtime hruntime) outcome
  | host labName resource occupant =>
    refine ⟨⟨fun rootDir saved hsaved => ?_, h.workspace.refusals, h.workspace.removals⟩,
      fun runtime hmem => ?_⟩
    · exact (h.workspace.saved rootDir saved hsaved).mono ⟨fun _ h => h, le_rfl⟩
    · exact (h.runtimes runtime hmem).mono ⟨fun _ h => h, le_rfl⟩

end Runs

theorem lawfulSystem_init : LawfulSystem {} where
  workspace := ⟨fun _ _ h => (Option.some_ne_none _ h.symm).elim,
    fun _ h => (List.not_mem_nil h).elim, fun _ h => (List.not_mem_nil h).elim⟩
  runtimes _ h := (List.not_mem_nil h).elim

/-- When every teardown spares the labs of a deployment that was not started or was refused, labs are
removed only for runtimes that passed the slot check and started their deployment, and what refused a
deployment is not removed. -/
theorem removals_started (calls : List RuntimeCall)
    (h : Run.Meets RuntimeSystem.step TeardownSpares {} calls) :
    RemovedOwnLabs (RuntimeSystem.run {} calls).workspace := by
  have hstep : ∀ system call, LawfulSystem system → TeardownSpares system call →
      LawfulSystem (system.step call) := fun _ call h hspares => h.step call hspares
  have hlawful : LawfulSystem (RuntimeSystem.run {} calls) :=
    Run.invariant hstep lawfulSystem_init h
  exact hlawful.workspace.removals

/-! ### A deployment that is refused -/

def labRequest : BuildRequest where
  name := "lab"
  scale := "xs"
  count := 1
  rootDir := "runtimes/lab"
  profile := { managementSubnetBase := 100, managementPrefix := 24 }

def cleanTeardown : TeardownOutcome where
  labs _ := none
  deletes _ := none
  directory := .gone

/-- What a deployment meets whose labs come up, or raise the error before they do. -/
def deployOutcome (labs : Option String) : DeployOutcome where
  subnets := .ok fun _ => "172.31.101.0/24"
  slots _ := .listed "clab-lab-leaf1"
  labs
  up _ resource := labs.isNone && resource != .telegraf

/-- Somebody else brings up a lab of the name. -/
def otherLab : RuntimeCall := .host "lab" .lab (some (.other 0))

/-- The first deployment fails before its lab is up; the lab of somebody else refuses the second one,
but is gone when the runtime is torn down. -/
theorem deployed_removals_started :
    RemovedOwnLabs (RuntimeSystem.run {} [.create labRequest,
      .deploy 0 (deployOutcome (some "RuntimeError: Containerlab deploy failed (1)")) true, otherLab,
      .deploy 0 (deployOutcome none) true, .host "lab" .lab none, .deploy 0 (deployOutcome none) true,
      .teardown 0 cleanTeardown]).workspace :=
  removals_started _ (by decide +kernel)

/-- Somebody else runs a lab of the name. A teardown removes it after a deployment that was refused,
and also when an earlier deployment had been started, so that each half of the claim fails. -/
theorem refused_lab_removed :
    (¬ ∀ removal ∈ (RuntimeSystem.run {} [.create labRequest, otherLab,
        .deploy 0 (deployOutcome none) true, .teardown 0 cleanTeardown]).workspace.removals,
          removal.started) ∧
      ¬ RemovedOwnLabs (RuntimeSystem.run {} [.create labRequest,
        .deploy 0 (deployOutcome (some "RuntimeError: Containerlab deploy failed (1)")) true, otherLab,
        .deploy 0 (deployOutcome none) true, .teardown 0 cleanTeardown]).workspace := by
  decide +kernel

end NetOpsBench.Runtime
