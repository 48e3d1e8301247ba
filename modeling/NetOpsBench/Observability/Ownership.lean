import NetOpsBench.Data.Dict

/-!
# Ownership of telemetry buckets

The registry of a workspace says which runtime created which bucket.

`mem_activeForRuntime` says which buckets belong to a runtime, and the lookups say what recording and
deleting a bucket changes: nothing for any other one.
-/

namespace NetOpsBench.Observability

/-- The runtime of each bucket whose creation was confirmed. -/
abbrev ManagedBucketRegistry := Dict String String

namespace ManagedBucketRegistry

variable (registry : ManagedBucketRegistry)

/-- The first record of a bucket stays. -/
def recordCreated (bucket runtimeId : String) : ManagedBucketRegistry :=
  match registry.lookup bucket with
  | some _ => registry
  | none => registry.insert bucket runtimeId

/-- `sorted(..)` of the buckets of one runtime -/
def activeForRuntime (runtimeId : String) : List String :=
  ((registry.entries.filter (·.2 = runtimeId)).map (·.1)).insertionSort (· ≤ ·)

def markDeleted (bucket : String) : ManagedBucketRegistry := registry.erase bucket

variable {registry : ManagedBucketRegistry} {bucket other runtimeId : String}

/-- The buckets of a runtime are those that are recorded for it. -/
theorem mem_activeForRuntime :
    bucket ∈ registry.activeForRuntime runtimeId ↔ registry.lookup bucket = some runtimeId := by
  rw [activeForRuntime, List.mem_insertionSort, List.mem_map, ← Option.mem_def,
    AList.mem_lookup_iff]
  constructor
  · rintro ⟨entry, hentry, rfl⟩
    obtain ⟨hmem, hruntime⟩ := List.mem_filter.mp hentry
    rw [← of_decide_eq_true hruntime]
    exact hmem
  · intro hmem
    exact ⟨⟨bucket, runtimeId⟩, List.mem_filter.mpr ⟨hmem, decide_eq_true rfl⟩, rfl⟩

theorem nodup_activeForRuntime : (registry.activeForRuntime runtimeId).Nodup := by
  have hkeys : (registry.entries.map (·.1)).Nodup := registry.nodupKeys
  have hsublist := (List.filter_sublist (l := registry.entries)
    (p := fun entry => decide (entry.2 = runtimeId))).map (·.1)
  exact (List.perm_insertionSort _ _).nodup_iff.mpr (hkeys.sublist hsublist)

theorem activeForRuntime_eq_nil :
    registry.activeForRuntime runtimeId = [] ↔ ∀ bucket, registry.lookup bucket ≠ some runtimeId := by
  rw [List.eq_nil_iff_forall_not_mem]
  exact forall_congr' fun bucket => not_congr mem_activeForRuntime

theorem lookup_markDeleted_ne (h : other ≠ bucket) :
    (registry.markDeleted bucket).lookup other = registry.lookup other :=
  AList.lookup_erase_ne h

/-- A bucket that was deleted is recorded for nobody. -/
theorem lookup_markDeleted : (registry.markDeleted bucket).lookup bucket = none :=
  AList.lookup_erase bucket registry

/-- A record that was there stays. -/
theorem lookup_recordCreated (h : registry.lookup other = some runtimeId) (owner : String) :
    (registry.recordCreated bucket owner).lookup other = some runtimeId := by
  unfold recordCreated
  split
  · exact h
  · rename_i hnone
    rw [AList.lookup_insert_ne, h]
    rintro rfl
    rw [hnone] at h
    cases h

theorem lookup_recordCreated_self
    (h : ∀ owner, registry.lookup bucket = some owner → owner = runtimeId) :
    (registry.recordCreated bucket runtimeId).lookup bucket = some runtimeId := by
  unfold recordCreated
  split
  · rename_i owner howner
    rw [howner, h owner howner]
  · exact AList.lookup_insert registry

theorem lookup_recordCreated_ne (h : other ≠ bucket) (owner : String) :
    (registry.recordCreated bucket owner).lookup other = registry.lookup other := by
  unfold recordCreated
  split
  · rfl
  · exact AList.lookup_insert_ne h

end ManagedBucketRegistry

end NetOpsBench.Observability
