import NetOpsBench.Data.Fallible
import NetOpsBench.Data.Run
import NetOpsBench.Runtime.Manager

/-!
# A runtime takes its buckets with it

The registry says which buckets are to be deleted with a runtime. A teardown that skips the labs skips
them, and one that follows a failed cleanup deletes the buckets of that cleanup instead.

`buckets_tidy` says that a runtime deletes only buckets that are recorded for it, that one which could not
be deleted stays recorded, and that a runtime which became torn down has none left, in every run whose
steps meet `BucketsListed`. The invariant is `Tidy`. `undeployed_not_tidy` is a runtime that leaves its
bucket behind because its labs were never deployed.
-/

namespace NetOpsBench.Runtime

open Observability (ManagedBucketRegistry)
open Observability.ManagedBucketRegistry

/-- Only buckets recorded for a runtime are deleted by it, one that could not be deleted stays
recorded, and a runtime that is torn down has none. -/
structure Tidy (workspace : Workspace) : Prop where
  recorded : ∀ deletion ∈ workspace.deletions, deletion.recorded
  kept : ∀ deletion ∈ workspace.deletions, deletion.deleted = false → deletion.kept
  left : ∀ departure ∈ workspace.departures, departure.left = []

section Buckets

variable {workspace next : Workspace} {runtime : ManagedRuntime} {runtimeId bucket : String}
  {buckets : List String} {deletes : String → Option String}

theorem Tidy.of_logs (h : Tidy workspace) (hdeletions : next.deletions = workspace.deletions)
    (hdepartures : next.departures = workspace.departures) : Tidy next where
  recorded := hdeletions ▸ h.recorded
  kept := hdeletions ▸ h.kept
  left := hdepartures ▸ h.left

/-! ## Deleting buckets -/

/-- The deletion of a recorded bucket is in order, if it stays recorded when it fails. -/
theorem Tidy.delete {registry after : ManagedBucketRegistry} {deleted : Bool} (h : Tidy workspace)
    (hrecorded : registry.lookup bucket = some runtimeId)
    (hkept : deleted = false → after.lookup bucket = some runtimeId) :
    Tidy { workspace with
      registry := after
      deletions := workspace.deletions ++
        [bucketDeletion runtimeId bucket registry after deleted] } where
  recorded deletion hmem := by
    rcases List.mem_append.mp hmem with hmem | hmem
    · exact h.recorded deletion hmem
    · rw [List.mem_singleton.mp hmem]
      exact decide_eq_true hrecorded
  kept deletion hmem hfailed := by
    rcases List.mem_append.mp hmem with hmem | hmem
    · exact h.kept deletion hmem hfailed
    · rw [List.mem_singleton.mp hmem] at hfailed ⊢
      exact decide_eq_true (hkept hfailed)
  left := h.left

/-- Buckets that are recorded for a runtime are deleted tidily. -/
theorem tidy_deleteBuckets (h : Tidy workspace) (hnodup : buckets.Nodup)
    (hrecorded : ∀ bucket ∈ buckets, workspace.registry.lookup bucket = some runtimeId) :
    Tidy (deleteBuckets runtimeId deletes buckets workspace).1 := by
  induction buckets generalizing workspace with
  | nil => exact h
  | cons first buckets ih =>
    obtain ⟨hfirst, hnodup⟩ := List.nodup_cons.mp hnodup
    have hrecord := hrecorded first List.mem_cons_self
    rw [deleteBuckets]
    dsimp only
    split
    · refine ih (h.delete hrecord (by simp)) hnodup fun other hother => ?_
      have hne : other ≠ first := fun heq => hfirst (heq ▸ hother)
      exact (lookup_markDeleted_ne hne).trans (hrecorded other (List.mem_cons_of_mem _ hother))
    · exact ih (h.delete hrecord fun _ => hrecord) hnodup fun other hother =>
        hrecorded other (List.mem_cons_of_mem _ hother)

/-- What is still recorded was recorded, and was not to be deleted or could not be. -/
theorem lookup_deleteBuckets {owner : String}
    (h : (deleteBuckets runtimeId deletes buckets workspace).1.registry.lookup bucket = some owner) :
    workspace.registry.lookup bucket = some owner ∧
      (bucket ∈ buckets →
        bucket ∈ (deleteBuckets runtimeId deletes buckets workspace).2.map (·.1)) := by
  induction buckets generalizing workspace with
  | nil => exact ⟨h, nofun⟩
  | cons first buckets ih =>
    rw [deleteBuckets] at h ⊢
    dsimp only at h ⊢
    split at h
    · obtain ⟨hlookup, hmem⟩ := ih h
      dsimp only at hlookup
      have hne : bucket ≠ first := by
        rintro rfl
        rw [lookup_markDeleted] at hlookup
        cases hlookup
      rw [lookup_markDeleted_ne hne] at hlookup
      exact ⟨hlookup, fun hbucket => hmem ((List.mem_cons.mp hbucket).resolve_left hne)⟩
    · obtain ⟨hlookup, hmem⟩ := ih h
      refine ⟨hlookup, fun hbucket => ?_⟩
      rw [List.map_cons, List.mem_cons]
      exact (List.mem_cons.mp hbucket).imp_right hmem

/-- Nothing is recorded for a runtime any more once all of its buckets were deleted. -/
theorem activeForRuntime_deleteBuckets (hbuckets : buckets.Perm
    (workspace.registry.activeForRuntime runtimeId))
    (hfailed : (deleteBuckets runtimeId deletes buckets workspace).2 = []) :
    (deleteBuckets runtimeId deletes buckets workspace).1.registry.activeForRuntime runtimeId =
      [] := by
  rw [activeForRuntime_eq_nil]
  intro bucket hlookup
  obtain ⟨hrecorded, hmem⟩ := lookup_deleteBuckets hlookup
  have hbucket : bucket ∈ buckets := hbuckets.mem_iff.mpr (mem_activeForRuntime.mpr hrecorded)
  have hleft := hmem hbucket
  rw [hfailed] at hleft
  cases hleft

/-! ## Teardown -/

/-- The buckets that the teardown of a runtime looks at are the ones that are recorded for it. -/
def Listed (workspace : Workspace) (runtime : ManagedRuntime) : Prop :=
  runtime.state = .tornDown ∨
    if runtime.TearsDownLabs then
      (runtime.teardownBuckets workspace).Perm (workspace.registry.activeForRuntime runtime.id)
    else
      workspace.registry.activeForRuntime runtime.id = []

theorem registry_save (workspace : Workspace) (runtime : ManagedRuntime) (persists : Bool) :
    (workspace.save runtime persists).registry = workspace.registry := by
  unfold Workspace.save
  split <;> rfl

theorem Tidy.save (h : Tidy workspace) (runtime : ManagedRuntime) (persists : Bool) :
    Tidy (workspace.save runtime persists) := by
  unfold Workspace.save
  split
  · exact h.of_logs rfl rfl
  · exact h

/-- A runtime may depart when nothing is recorded for it. -/
theorem Tidy.tearDownDirectory (h : Tidy workspace)
    (hnone : workspace.registry.activeForRuntime runtime.id = []) (outcome : TeardownOutcome) :
    Tidy (runtime.tearDownDirectory workspace outcome).2.1 := by
  have hremoved : Tidy (workspace.removeDirectory runtime.rootDir outcome.directory) ∧
      (workspace.removeDirectory runtime.rootDir outcome.directory).registry =
        workspace.registry := by
    unfold Workspace.removeDirectory
    split
    · exact ⟨h, rfl⟩
    · exact ⟨h.of_logs rfl rfl, rfl⟩
  obtain ⟨htidy, hregistry⟩ := hremoved
  unfold ManagedRuntime.tearDownDirectory
  dsimp only
  split
  · refine ⟨htidy.recorded, htidy.kept, fun departure hmem => ?_⟩
    rcases List.mem_append.mp hmem with hmem | hmem
    · exact htidy.left departure hmem
    · rw [List.mem_singleton.mp hmem, hregistry]
      exact hnone
  · exact htidy.save ..

/-- A teardown that looks at the recorded buckets deletes these. -/
theorem Tidy.tearDownLabs (h : Tidy workspace)
    (hlisted : (runtime.teardownBuckets workspace).Perm
      (workspace.registry.activeForRuntime runtime.id)) (outcome : TeardownOutcome) :
    Tidy (runtime.tearDownLabs workspace outcome).2.1 ∧
      ((runtime.tearDownLabs workspace outcome).2.2 = true →
        (runtime.tearDownLabs workspace outcome).2.1.registry.activeForRuntime
          (runtime.tearDownLabs workspace outcome).1.id = []) := by
  have hlabs : Tidy (teardownWorkers outcome.labs runtime workspace).1 := h.of_logs rfl rfl
  have hregistry : (teardownWorkers outcome.labs runtime workspace).1.registry =
      workspace.registry := rfl
  unfold ManagedRuntime.tearDownLabs
  split
  · rename_i heq
    rw [heq] at hlabs
    exact ⟨hlabs.save .., nofun⟩
  · rename_i middle heq
    rw [heq] at hlabs hregistry
    dsimp only at hlabs hregistry
    have hbuckets : runtime.teardownBuckets middle = runtime.teardownBuckets workspace := by
      unfold ManagedRuntime.teardownBuckets
      rw [hregistry]
    have hmiddle : (runtime.teardownBuckets middle).Perm
        (middle.registry.activeForRuntime runtime.id) := by
      rw [hbuckets, hregistry]
      exact hlisted
    have hdeleted : Tidy (deleteBuckets runtime.id outcome.deletes
        (runtime.teardownBuckets middle) middle).1 :=
      tidy_deleteBuckets hlabs (hmiddle.nodup_iff.mpr nodup_activeForRuntime) fun bucket hmem =>
        mem_activeForRuntime.mp (hmiddle.mem_iff.mp hmem)
    unfold deleteProvisionCreatedBuckets
    dsimp only
    cases hfailed : (deleteBuckets runtime.id outcome.deletes
        (runtime.teardownBuckets middle) middle).2 with
    | nil => exact ⟨hdeleted, fun _ => activeForRuntime_deleteBuckets hmiddle hfailed⟩
    | cons failure failures => exact ⟨hdeleted.save .., nofun⟩

theorem Tidy.teardown (h : Tidy workspace) (hlisted : Listed workspace runtime)
    (outcome : TeardownOutcome) : Tidy (runtime.teardown workspace outcome).2.1 := by
  unfold ManagedRuntime.teardown
  split
  · exact h
  · rename_i hstate
    have hbuckets := hlisted.resolve_left hstate
    split
    · rename_i htears
      rw [if_pos htears] at hbuckets
      obtain ⟨hlabs, hnone⟩ := h.tearDownLabs hbuckets outcome
      split
      · rename_i heq
        rw [heq] at hlabs
        exact hlabs
      · rename_i heq
        rw [heq] at hlabs hnone
        exact hlabs.tearDownDirectory (hnone rfl) outcome
    · rename_i hskips
      rw [if_neg hskips] at hbuckets
      exact h.tearDownDirectory hbuckets outcome

/-! ## Provisioning -/

/-- No bucket of the runtime is recorded for another one, and it has created none yet. -/
structure Unclaimed (runtime : ManagedRuntime) (workspace : Workspace) : Prop where
  tidy : Tidy workspace
  nodup : (runtime.workers.items.map (·.bucket)).Nodup
  unclaimed : ∀ bucket ∈ runtime.workers.items.map (·.bucket),
    ∀ owner, workspace.registry.lookup bucket = some owner → owner = runtime.id
  created : runtime.provisionCreatedBuckets = []

/-- The buckets that the runtime created are recorded for it. -/
structure Tracked (runtime : ManagedRuntime) (workspace : Workspace) : Prop where
  tidy : Tidy workspace
  nodup : runtime.provisionCreatedBuckets.Nodup
  recorded : ∀ bucket ∈ runtime.provisionCreatedBuckets,
    workspace.registry.lookup bucket = some runtime.id

theorem stable_unclaimed : ManagedRuntime.Stable Unclaimed where
  result _ _ h := ⟨h.tidy, h.nodup, h.unclaimed, h.created⟩
  state _ h := ⟨h.tidy, h.nodup, h.unclaimed, h.created⟩
  save _ h := ⟨h.tidy.save .., h.nodup, (registry_save ..).symm ▸ h.unclaimed, h.created⟩

theorem stable_tracked : ManagedRuntime.Stable Tracked where
  result _ _ h := ⟨h.tidy, h.nodup, h.recorded⟩
  state _ h := ⟨h.tidy, h.nodup, h.recorded⟩
  save _ h := ⟨h.tidy.save .., h.nodup, (registry_save ..).symm ▸ h.recorded⟩

theorem Unclaimed.tracked (h : Unclaimed runtime workspace) : Tracked runtime workspace where
  tidy := h.tidy
  nodup := h.created ▸ List.nodup_nil
  recorded _ hmem := (List.not_mem_nil (h.created ▸ hmem)).elim

theorem Unclaimed.deploy (h : Unclaimed runtime workspace) (outcome : DeployOutcome) :
    Unclaimed (deployStage outcome runtime workspace).1
      (deployStage outcome runtime workspace).2.1 := by
  unfold deployStage
  split
  · exact h
  · rename_i subnets _
    have hbuckets : (runtime.workers.withSubnets subnets).items.map (·.bucket) =
        runtime.workers.items.map (·.bucket) :=
      map_withSubnets runtime.workers.items subnets fun _ _ => rfl
    dsimp only
    split
    · exact ⟨h.tidy.of_logs rfl rfl, hbuckets ▸ h.nodup, hbuckets ▸ h.unclaimed, h.created⟩
    · exact ⟨h.tidy.of_logs rfl rfl, hbuckets ▸ h.nodup, hbuckets ▸ h.unclaimed, h.created⟩

/-- A bucket that is created is recorded. -/
theorem Tracked.record (h : Tracked runtime workspace)
    (hnew : bucket ∉ runtime.provisionCreatedBuckets)
    (hunclaimed : ∀ owner, workspace.registry.lookup bucket = some owner → owner = runtime.id) :
    Tracked (recordBucket bucket runtime workspace).1 (recordBucket bucket runtime workspace).2 where
  tidy := h.tidy.of_logs rfl rfl
  nodup := h.nodup.append (List.nodup_singleton bucket)
    (List.disjoint_singleton.mpr hnew)
  recorded other hmem := by
    rcases List.mem_append.mp hmem with hmem | hmem
    · exact lookup_recordCreated (h.recorded other hmem) runtime.id
    · rw [List.mem_singleton.mp hmem]
      exact lookup_recordCreated_self hunclaimed

/-- The loop over the workers records the bucket of each. -/
theorem tracked_observeWorkers (outcome : RuntimeIdentity → ObservabilityOutcome)
    (workers : List RuntimeIdentity) (h : Tracked runtime workspace)
    (hnodup : (workers.map (·.bucket)).Nodup)
    (hnew : ∀ bucket ∈ workers.map (·.bucket), bucket ∉ runtime.provisionCreatedBuckets)
    (hunclaimed : ∀ bucket ∈ workers.map (·.bucket),
      ∀ owner, workspace.registry.lookup bucket = some owner → owner = runtime.id) :
    Tracked (observeWorkers outcome workers runtime workspace).1
      (observeWorkers outcome workers runtime workspace).2.1 := by
  induction workers generalizing runtime workspace with
  | nil => exact h
  | cons worker workers ih =>
    rw [List.map_cons, List.nodup_cons] at hnodup
    rw [List.map_cons, List.forall_mem_cons] at hnew hunclaimed
    rw [observeWorkers]
    split
    rename_i first middle hmiddle
    -- the buckets of the other workers are as new and as unclaimed as before
    have hfirst : Tracked first middle ∧ (∀ bucket ∈ workers.map (·.bucket),
        bucket ∉ first.provisionCreatedBuckets) ∧ ∀ bucket ∈ workers.map (·.bucket),
        ∀ owner, middle.registry.lookup bucket = some owner → owner = first.id := by
      split at hmiddle
      · cases hmiddle
        refine ⟨h.record hnew.1 hunclaimed.1, fun bucket hbucket hmem => ?_,
          fun bucket hbucket owner howner => ?_⟩
        · rcases List.mem_append.mp hmem with hmem | hmem
          · exact hnew.2 bucket hbucket hmem
          · exact hnodup.1 (List.mem_singleton.mp hmem ▸ hbucket)
        · have hne : bucket ≠ worker.bucket := fun heq => hnodup.1 (heq ▸ hbucket)
          exact hunclaimed.2 bucket hbucket owner
            ((lookup_recordCreated_ne hne runtime.id).symm.trans howner)
      · cases hmiddle
        exact ⟨h, hnew.2, hunclaimed.2⟩
    obtain ⟨htracked, hnew, hunclaimed⟩ := hfirst
    obtain ⟨host, hstarted⟩ :=
      startTelegraf_frame worker first.serial (outcome worker).telegraf middle
    have hcollector : Tracked first { middle with host } :=
      ⟨htracked.tidy.of_logs rfl rfl, htracked.nodup, htracked.recorded⟩
    dsimp only
    rw [hstarted]
    split
    · exact hcollector
    · exact ih hcollector hnodup.2 hnew hunclaimed

/-- After the stages of a provisioning the created buckets are the recorded ones. -/
theorem Unclaimed.runStages (h : Unclaimed runtime workspace) (outcome : ProvisionOutcome) :
    Tracked (runtime.runStages workspace outcome).1 (runtime.runStages workspace outcome).2.1 :=
  stable_unclaimed.runStages stable_tracked (fun _ _ h => h.tracked) outcome h
    (h.deploy outcome.deploy) fun runtime _ h =>
      tracked_observeWorkers outcome.observability runtime.workers.items h.tracked h.nodup
        (fun _ _ => h.created ▸ List.not_mem_nil) h.unclaimed

/-- What a failed provisioning deletes are the buckets that it created. -/
theorem Tracked.compensate (h : Tracked runtime workspace) (outcome : ProvisionOutcome) :
    Tidy (runtime.compensate workspace outcome) := by
  obtain ⟨middle, labError, hlabs, htidy, hregistry⟩ : ∃ middle labError,
      (if runtime.metadata.deploymentStarted then teardownWorkers outcome.labs runtime workspace
        else (workspace, none)) = (middle, labError) ∧ Tidy middle ∧
        middle.registry = workspace.registry := by
    split
    · exact ⟨_, _, rfl, h.tidy.of_logs rfl rfl, rfl⟩
    · exact ⟨_, _, rfl, h.tidy, rfl⟩
  have hdeleted : Tidy (deleteProvisionCreatedBuckets outcome.deletes runtime middle).2.1 :=
    tidy_deleteBuckets htidy h.nodup (hregistry ▸ h.recorded)
  unfold ManagedRuntime.compensate
  rw [hlabs]
  dsimp only
  cases labError with
  | some error => exact htidy.save ..
  | none =>
    dsimp only
    split
    · rename_i heq
      rw [heq] at hdeleted
      exact hdeleted.save ..
    · rename_i deleted last heq
      rw [heq] at hdeleted
      have hremoved : Tidy (last.removeDirectory deleted.rootDir outcome.directory) := by
        unfold Workspace.removeDirectory
        split
        · exact hdeleted
        · exact hdeleted.of_logs rfl rfl
      split
      · exact hremoved
      · exact hremoved.save ..

/-- No bucket name of the runtime to be built is recorded for another runtime. -/
def RequestUnclaimed (workspace : Workspace) (request : BuildRequest) : Prop :=
  ∀ index < max 1 request.count, ∀ owner ∈ workspace.registry.lookup (bucketName request.name (index + 1)),
    owner = request.name

theorem tidy_buildRuntime (h : Tidy workspace) (request : BuildRequest) :
    Tidy (buildRuntime request workspace).1 ∧
      (RequestUnclaimed workspace request → ∀ runtime,
        (buildRuntime request workspace).2 = some runtime →
          Unclaimed runtime (buildRuntime request workspace).1) := by
  unfold buildRuntime
  split
  · exact ⟨h, fun _ runtime hnone => (Option.some_ne_none runtime hnone.symm).elim⟩
  · split
    · exact ⟨h, fun _ runtime hnone => (Option.some_ne_none runtime hnone.symm).elim⟩
    · rename_i subnets hsubnets
      have hcreated : Tidy { workspace with created := workspace.created + 1 } := h.of_logs rfl rfl
      have hlength : subnets.length = max 1 request.count := by
        rw [← (Except.mapM_eq_ok.mp hsubnets).length_eq, List.length_range]
      dsimp only
      split
      · have hsaved := hcreated.save (newRuntime request subnets workspace.created) true
        refine ⟨hsaved, fun hrequest runtime hsome => ?_⟩
        rw [← Option.some.inj hsome]
        refine ⟨hsaved, nodup_buckets_buildWorkers request.name subnets, ?_, rfl⟩
        intro bucket hbucket owner howner
        obtain ⟨worker, hworker, rfl⟩ := List.mem_map.mp hbucket
        obtain ⟨index, hindex, rfl⟩ := List.mem_mapIdx.mp hworker
        rw [registry_save] at howner
        exact hrequest index (hlength ▸ hindex) owner howner
      · exact ⟨hcreated, fun _ runtime hnone => (Option.some_ne_none runtime hnone.symm).elim⟩

theorem tidy_provision (h : Tidy workspace) (request : BuildRequest) (outcome : ProvisionOutcome)
    (hrequest : RequestUnclaimed workspace request) :
    Tidy (provision request outcome workspace).1 := by
  obtain ⟨hbuilt, hunclaimed⟩ := tidy_buildRuntime h request
  unfold provision
  split
  · rename_i heq
    rw [heq] at hbuilt
    exact hbuilt
  · rename_i middle built heq
    rw [heq] at hunclaimed
    have hstages := (hunclaimed hrequest built rfl).runStages outcome
    split
    · rename_i heq
      rw [heq] at hstages
      exact hstages.compensate outcome
    · rename_i ready last heq
      rw [heq] at hstages
      have htidy : Tidy last := hstages.tidy
      split
      · exact htidy.save ready.provisioned true
      · exact htidy

end Buckets

/-! ## Every run -/

/-- Every teardown is of a runtime whose recorded buckets it looks at, and every provisioning builds a
runtime whose bucket names are free. -/
def BucketsListed (system : RuntimeSystem) : RuntimeCall → Prop
  | .teardown object _ => ∀ runtime ∈ system.runtimes[object]?, Listed system.workspace runtime
  | .provision request _ => RequestUnclaimed system.workspace request
  | _ => True

instance (workspace : Workspace) (runtime : ManagedRuntime) : Decidable (Listed workspace runtime) :=
  inferInstanceAs (Decidable (runtime.state = .tornDown ∨ if runtime.TearsDownLabs then
    (runtime.teardownBuckets workspace).Perm (workspace.registry.activeForRuntime runtime.id)
    else workspace.registry.activeForRuntime runtime.id = []))

instance (workspace : Workspace) (request : BuildRequest) :
    Decidable (RequestUnclaimed workspace request) :=
  inferInstanceAs (Decidable (∀ index < max 1 request.count, ∀ owner ∈ _, owner = request.name))

instance (system : RuntimeSystem) : ∀ call, Decidable (BucketsListed system call)
  | .teardown object _ => inferInstanceAs
      (Decidable (∀ runtime ∈ system.runtimes[object]?, Listed system.workspace runtime))
  | .provision request _ => inferInstanceAs (Decidable (RequestUnclaimed system.workspace request))
  | .create _ | .attach _ | .deploy _ _ _ | .ensureObservability _ _ _
  | .ensurePingmesh _ _ _ | .warm _ _ _ | .host _ _ _ => .isTrue trivial

section Runs

variable {system : RuntimeSystem}

theorem workspace_handOut (result : Workspace × Option ManagedRuntime) :
    (system.handOut result).workspace = result.1 := by
  rcases result with ⟨next, _ | runtime⟩ <;> rfl

theorem tidy_onObject (h : Tidy system.workspace) (object : Nat)
    {operation : ManagedRuntime → Workspace → ManagedRuntime × Workspace × Bool}
    (hoperation : ∀ runtime ∈ system.runtimes[object]?,
      Tidy (operation runtime system.workspace).2.1) :
    Tidy (system.onObject object operation).workspace := by
  unfold RuntimeSystem.onObject
  split
  · exact h
  · rename_i runtime hruntime
    exact hoperation runtime hruntime

theorem stable_tidy : ManagedRuntime.Stable fun _ workspace => Tidy workspace where
  result _ _ h := h
  state _ h := h
  save _ h := h.save ..

theorem tidy_deployStage (outcome : DeployOutcome) (runtime : ManagedRuntime)
    (workspace : Workspace) (h : Tidy workspace) :
    Tidy (deployStage outcome runtime workspace).2.1 := by
  unfold deployStage
  split
  · exact h
  · dsimp only
    split
    · exact h.of_logs rfl rfl
    · exact h.of_logs rfl rfl

theorem tidy_observabilityStage (outcome : RuntimeIdentity → ObservabilityOutcome)
    (runtime : ManagedRuntime) (workspace : Workspace) (h : Tidy workspace) :
    Tidy (observabilityStage outcome runtime workspace).2.1 :=
  observeWorkers_invariant (P := fun _ workspace => Tidy workspace)
    (fun _ _ _ h => h.of_logs rfl rfl) (fun _ _ _ h => h.of_logs rfl rfl) outcome
    runtime.workers.items h

/-- The step lemma: every call keeps the workspace tidy under the condition. -/
theorem Tidy.step (h : Tidy system.workspace) (call : RuntimeCall)
    (hlisted : BucketsListed system call) : Tidy (system.step call).workspace := by
  rw [RuntimeSystem.step.eq_def]
  cases call with
  | create request =>
    dsimp only
    rw [workspace_handOut]
    exact (tidy_buildRuntime h request).1
  | provision request outcome =>
    dsimp only
    rw [workspace_handOut]
    exact tidy_provision h request outcome hlisted
  | attach rootDir =>
    dsimp only
    rw [workspace_handOut]
    exact h
  | deploy object outcome persists =>
    exact tidy_onObject h object fun runtime _ => stable_tidy.runStage (deployStage outcome) h
      (tidy_deployStage outcome runtime system.workspace h) .deploy .deployed persists
  | ensureObservability object outcome persists =>
    exact tidy_onObject h object fun runtime _ =>
      stable_tidy.runStage (observabilityStage outcome) h
        (tidy_observabilityStage outcome runtime system.workspace h)
        .observability .observabilityReady persists
  | ensurePingmesh object outcome persists =>
    exact tidy_onObject h object fun runtime _ =>
      stable_tidy.runStage (pingmeshStage outcome) h h .pingmesh .pingmeshReady persists
  | warm object outcome persists =>
    exact tidy_onObject h object fun runtime _ =>
      stable_tidy.runStage (warmStage outcome) h h .warm .warm persists
  | teardown object outcome =>
    exact tidy_onObject h object fun runtime hruntime =>
      h.teardown (hlisted runtime hruntime) outcome
  | host labName resource occupant => exact h.of_logs rfl rfl

end Runs

/-- When every teardown looks at the buckets that are recorded, runtimes delete their own buckets only,
keep the record of what they could not delete, and leave nothing recorded when they are torn down. -/
theorem buckets_tidy (calls : List RuntimeCall)
    (h : Run.Meets RuntimeSystem.step BucketsListed {} calls) :
    Tidy (RuntimeSystem.run {} calls).workspace := by
  have hstep : ∀ system call, Tidy (RuntimeSystem.workspace system) → BucketsListed system call →
      Tidy (system.step call).workspace := fun _ call h hlisted => h.step call hlisted
  have hinit : Tidy (RuntimeSystem.workspace {}) :=
    ⟨fun _ h => (List.not_mem_nil h).elim, fun _ h => (List.not_mem_nil h).elim,
      fun _ h => (List.not_mem_nil h).elim⟩
  exact Run.invariant hstep hinit h

/-! ### A bucket that stays behind -/

def observedRequest : BuildRequest where
  name := "observed"
  scale := "xs"
  count := 1
  rootDir := "runtimes/observed"
  profile := { managementSubnetBase := 100, managementPrefix := 24 }

def lonelyTeardown : TeardownOutcome where
  labs _ := none
  deletes _ := none
  directory := .gone

def deployedLabs : DeployOutcome where
  subnets := .ok fun _ => "172.31.101.0/24"
  slots _ := .listed ""
  labs := none
  up _ resource := resource != .telegraf

def telegrafFails : ObservabilityOutcome where
  bucketCreated := true
  error := some "RuntimeError: telegraf did not start"

theorem deployed_tidy :
    Tidy (RuntimeSystem.run {} [.create observedRequest, .deploy 0 deployedLabs true,
      .ensureObservability 0 (fun _ => telegrafFails) true, .teardown 0 lonelyTeardown]).workspace :=
  buckets_tidy _ (by decide +kernel)

/-- A runtime without a lab creates its bucket, fails to start its collector, and is torn down. -/
theorem undeployed_not_tidy :
    ¬ Tidy (RuntimeSystem.run {} [.create observedRequest,
      .ensureObservability 0 (fun _ => telegrafFails) true, .teardown 0 lonelyTeardown]).workspace := by
  intro h
  have hleft := h.left
  revert hleft
  decide +kernel

end NetOpsBench.Runtime
