import NetOpsBench.Simulator.LeasePool

/-!
# Leases are exclusive

A record in the hands of a holder is in use or quarantined, and a quarantined record stays so. So a
record that is granted has no other holder.

`leases_exclusive` is the result over every interleaving: the bound on the runtimes, no two holders of one
record, and no record that leaves without a teardown or is granted again. The invariant is `Sound`;
`Grants` says what an acquisition can do and `Retired` what a quarantine can.
-/

namespace NetOpsBench.Simulator

/-! ## The dictionary -/

section Entries

variable {scale : String} {entries : List (String × List Nat)} {f : List Nat → List Nat}

theorem flatMap_setDefault (scale : String) (entries : List (String × List Nat)) :
    (setDefault scale entries).flatMap (·.2) = entries.flatMap (·.2) := by
  induction entries with
  | nil => rfl
  | cons entry entries ih =>
    rw [setDefault]
    split
    · rfl
    · rw [List.flatMap_cons, List.flatMap_cons, ih]

theorem mem_of_mem_recordsOf {id : Nat} (h : id ∈ recordsOf scale entries) :
    id ∈ entries.flatMap (·.2) := by
  induction entries with
  | nil => cases h
  | cons entry entries ih =>
    rw [recordsOf] at h
    rw [List.flatMap_cons, List.mem_append]
    split at h
    · exact .inl h
    · exact .inr (ih h)

/-- An update of the records of one scale keeps, gains and loses what it does on them. -/
theorem mem_updateRecords {id : Nat} (h : id ∈ (updateRecords scale f entries).flatMap (·.2)) :
    id ∈ entries.flatMap (·.2) ∨ id ∈ f (recordsOf scale entries) := by
  induction entries with
  | nil => cases h
  | cons entry entries ih =>
    rw [updateRecords] at h
    rw [recordsOf, List.flatMap_cons, List.mem_append]
    split at h
    · rename_i hkey
      rw [if_pos hkey]
      exact (List.mem_append.mp h).symm.imp_left .inr
    · rename_i hkey
      rw [if_neg hkey]
      rcases List.mem_append.mp h with h | h
      · exact .inl (.inl h)
      · exact (ih h).imp_left .inr

theorem mem_updateRecords_of_mem {id : Nat} (hkeep : ∀ ids, id ∈ ids → id ∈ f ids)
    (h : id ∈ entries.flatMap (·.2)) : id ∈ (updateRecords scale f entries).flatMap (·.2) := by
  induction entries with
  | nil => cases h
  | cons entry entries ih =>
    rw [List.flatMap_cons, List.mem_append] at h
    rw [updateRecords]
    split
    · rw [List.flatMap_cons, List.mem_append]
      exact h.imp_left (hkeep _)
    · rw [List.flatMap_cons, List.mem_append]
      exact h.imp_right ih

theorem mem_updateRecords_setDefault {id : Nat} (hnew : ∀ ids, id ∈ f ids) :
    id ∈ (updateRecords scale f (setDefault scale entries)).flatMap (·.2) := by
  induction entries with
  | nil =>
    rw [setDefault, updateRecords, if_pos rfl, List.flatMap_cons, List.mem_append]
    exact .inl (hnew _)
  | cons entry entries ih =>
    rw [setDefault]
    split
    · rename_i hkey
      rw [updateRecords, if_pos hkey, List.flatMap_cons, List.mem_append]
      exact .inl (hnew _)
    · rename_i hkey
      rw [updateRecords, if_neg hkey, List.flatMap_cons, List.mem_append]
      exact .inr ih

variable (scale entries) in
theorem length_updateRecords_le {n : Nat} (h : ∀ ids, (f ids).length ≤ ids.length + n) :
    ((updateRecords scale f entries).map (·.2.length)).sum ≤
      (entries.map (·.2.length)).sum + n := by
  induction entries with
  | nil => exact Nat.zero_le _
  | cons entry entries ih =>
    rw [updateRecords]
    split
    · have hlength := h entry.2
      rw [List.map_cons, List.map_cons, List.sum_cons, List.sum_cons]
      dsimp only
      omega
    · rw [List.map_cons, List.map_cons, List.sum_cons, List.sum_cons]
      dsimp only
      omega

theorem length_setDefault (scale : String) (entries : List (String × List Nat)) :
    ((setDefault scale entries).map (·.2.length)).sum = (entries.map (·.2.length)).sum := by
  induction entries with
  | nil => rfl
  | cons entry entries ih =>
    rw [setDefault]
    split
    · rfl
    · rw [List.map_cons, List.map_cons, List.sum_cons, List.sum_cons, ih]

end Entries

/-! ## What quarantining does -/

/-- `next` is the pool after some records were quarantined: a record that leaves was torn down. -/
structure Retired (pool next : LeasePool) : Prop where
  count : next.runtimeCount ≤ pool.runtimeCount
  ids : ∀ id ∈ next.ids, id ∈ pool.ids
  left : ∀ id ∈ pool.ids, id ∉ next.ids → id ∈ next.tornDown
  tornDown : ∀ id ∈ pool.tornDown, id ∈ next.tornDown
  allocated : next.allocated = pool.allocated
  held : ∀ id, (pool.records id).inUse ∨ (pool.records id).quarantined →
    (next.records id).inUse ∨ (next.records id).quarantined
  quarantined : ∀ id, (pool.records id).quarantined → (next.records id).quarantined

namespace Retired

variable {pool next last : LeasePool} {teardown : Nat → Bool}

theorem refl (pool : LeasePool) : Retired pool pool :=
  ⟨le_rfl, fun _ h => h, fun _ h h' => absurd h h', fun _ h => h, rfl, fun _ h => h, fun _ h => h⟩

/-- What leaves in two steps was torn down in one of them. -/
theorem trans (h : Retired pool next) (h' : Retired next last) : Retired pool last where
  count := h'.count.trans h.count
  ids id hid := h.ids id (h'.ids id hid)
  left id hid hlast := by
    by_cases hnext : id ∈ next.ids
    · exact h'.left id hnext hlast
    · exact h'.tornDown id (h.left id hid hnext)
  tornDown id hid := h'.tornDown id (h.tornDown id hid)
  allocated := h'.allocated.trans h.allocated
  held id hid := h'.held id (h.held id hid)
  quarantined id hid := h'.quarantined id (h.quarantined id hid)

end Retired

variable {pool : LeasePool} {teardown : Nat → Bool} {config : SimulatorConfig}

theorem modify_self (pool : LeasePool) (id : Nat) (f : WarmRuntime → WarmRuntime) :
    (pool.modify id f).records id = f (pool.records id) := Function.update_self ..

theorem modify_ne (pool : LeasePool) {id other : Nat} (h : other ≠ id)
    (f : WarmRuntime → WarmRuntime) : (pool.modify id f).records other = pool.records other :=
  Function.update_of_ne h ..

theorem retired_quarantine (pool : LeasePool) (teardown : Nat → Bool) (id : Nat) :
    Retired pool (pool.quarantine teardown id).1 ∧
      ((pool.quarantine teardown id).1.records id).quarantined := by
  have hmarked : ∀ other,
      ((pool.records other).inUse ∨ (pool.records other).quarantined →
        ((pool.quarantine teardown id).1.records other).inUse ∨
          ((pool.quarantine teardown id).1.records other).quarantined) ∧
      ((pool.records other).quarantined →
        ((pool.quarantine teardown id).1.records other).quarantined) ∧
      (other = id → ((pool.quarantine teardown id).1.records other).quarantined) := by
    intro other
    have hrecords : (pool.quarantine teardown id).1.records =
        (pool.modify id fun record => { record with
          quarantined := true, inUse := false, leaseDeadline := 0 }).records := by
      unfold LeasePool.quarantine
      dsimp only
      split <;> rfl
    rw [hrecords]
    by_cases hother : other = id
    · subst hother
      rw [modify_self]
      exact ⟨fun _ => .inr rfl, fun _ => rfl, fun _ => rfl⟩
    · rw [modify_ne pool hother]
      exact ⟨fun h => h, fun h => h, fun h => absurd h hother⟩
  refine ⟨⟨?_, ?_, ?_, ?_, ?_, fun other => (hmarked other).1, fun other => (hmarked other).2.1⟩,
    (hmarked id).2.2 rfl⟩
  all_goals unfold LeasePool.quarantine; dsimp only; split
  · exact length_updateRecords_le (n := 0) _ _ fun ids => List.length_erase_le
  · exact le_rfl
  · intro other h
    rcases mem_updateRecords h with h | h
    · exact h
    · exact mem_of_mem_recordsOf (List.mem_of_mem_erase h)
  · exact fun _ h => h
  · intro other h hleft
    by_cases hother : other = id
    · subst hother
      exact List.mem_append_right _ (List.mem_singleton_self _)
    · exact absurd (mem_updateRecords_of_mem (fun ids h => (List.mem_erase_of_ne hother).mpr h) h)
        hleft
  · exact fun _ h h' => absurd h h'
  · exact fun _ h => List.mem_append_left _ h
  · exact fun _ h => h
  · rfl
  · rfl

theorem retired_quarantineEach (teardown : Nat → Bool) (ids : List Nat) (pool : LeasePool) :
    Retired pool (LeasePool.quarantineEach teardown ids pool) := by
  induction ids generalizing pool with
  | nil => exact .refl pool
  | cons id ids ih => exact (retired_quarantine pool teardown id).1.trans (ih _)

theorem retired_evict (limit : Nat) (teardown : Nat → Bool) (ids : List Nat) (pool : LeasePool) :
    Retired pool (LeasePool.evict limit teardown ids pool) := by
  induction ids generalizing pool with
  | nil => exact .refl pool
  | cons id ids ih =>
    have hfirst := (retired_quarantine pool teardown id).1
    rw [LeasePool.evict]
    split
    · rename_i next heq
      rw [heq] at hfirst
      exact hfirst.trans (ih next)
    · rename_i next heq
      rw [heq] at hfirst
      split
      · exact hfirst
      · exact hfirst.trans (ih next)

theorem retired_withScale (pool : LeasePool) (scale : String) :
    Retired pool (pool.withScale scale) := by
  have hids : (pool.withScale scale).ids = pool.ids := flatMap_setDefault scale pool.runtimes
  refine ⟨(length_setDefault scale pool.runtimes).le, fun id h => hids ▸ h,
    fun id h h' => absurd (hids ▸ h) h', fun _ h => h, rfl, fun _ h => h, fun _ h => h⟩

theorem retired_makeCapacityFor (pool : LeasePool) (limit : Nat) (scale : String)
    (teardown : Nat → Bool) : Retired pool (pool.makeCapacityFor limit scale teardown) := by
  unfold LeasePool.makeCapacityFor
  split
  · exact .refl pool
  · exact retired_evict ..

/-! ## What acquiring does -/

/-- A record is granted: an idle one, or a new one where there is room. -/
inductive Grants (config : SimulatorConfig) (pool : LeasePool) (now : ℚ) :
    LeasePool → Nat → Prop where
  | idle {id : Nat} (hmem : id ∈ pool.ids) (hidle : pool.isIdle id) :
    Grants config pool now (pool.grant config id now) id
  | new {scale : String} (hroom : pool.runtimeCount < config.maxActiveRuntimes) :
    Grants config pool now
      (((pool.withScale scale).provision scale).grant config pool.allocated now) pool.allocated

theorem acquire_cases (config : SimulatorConfig) (scale : String) (pass : AcquirePass)
    (pool : LeasePool) :
    (∃ middle next id, Retired pool middle ∧ Grants config middle pass.grantedAt next id ∧
      pool.acquire config scale pass = (next, .granted id)) ∨
    ∃ next outcome, Retired pool next ∧ pool.acquire config scale pass = (next, outcome) ∧
      ∀ id, outcome ≠ .granted id := by
  unfold LeasePool.acquire
  have hreaped : Retired pool
      ((pool.reapOrphans pass.reapedAt pass.teardown).withScale scale) :=
    (retired_quarantineEach ..).trans (retired_withScale ..)
  set reaped := (pool.reapOrphans pass.reapedAt pass.teardown).withScale scale
  dsimp only
  split
  · rename_i id hfind
    refine .inl ⟨reaped, _, id, hreaped, .idle ?_ (List.find?_some hfind), rfl⟩
    exact mem_of_mem_recordsOf (List.mem_of_find?_eq_some hfind)
  · have hevicted := hreaped.trans (retired_makeCapacityFor reaped config.maxActiveRuntimes scale
      pass.teardown)
    set evicted := reaped.makeCapacityFor config.maxActiveRuntimes scale pass.teardown
    have hscale : Retired pool (evicted.withScale scale) :=
      hevicted.trans (retired_withScale evicted scale)
    split
    · rename_i hroom
      cases pass.provision with
      | error error => exact .inr ⟨_, _, hscale, rfl, nofun⟩
      | ok _ =>
        refine .inl ⟨evicted, _, _, hevicted, .new ?_, rfl⟩
        rwa [LeasePool.runtimeCount, LeasePool.withScale, length_setDefault] at hroom
    · exact .inr ⟨_, _, hscale, rfl, nofun⟩

/-! ## The invariant -/

/-- What is handed out is held by one holder, in use or quarantined, and what left was torn down. -/
structure Sound (config : SimulatorConfig) (system : LeaseSystem) : Prop where
  bounded : system.pool.runtimeCount ≤ config.maxActiveRuntimes
  allocated : ∀ id ∈ system.pool.ids, id < system.pool.allocated
  removed : ∀ id < system.pool.allocated, id ∉ system.pool.ids → id ∈ system.pool.tornDown
  held : ∀ lease id, system.live lease = some id → id < system.pool.allocated ∧
    ((system.pool.records id).inUse ∨ (system.pool.records id).quarantined)
  exclusive : ∀ lease other id, system.live lease = some id → system.live other = some id →
    lease = other
  issued : ∀ lease id, system.live lease = some id → lease < system.granted.length

theorem sound_init (config : SimulatorConfig) : Sound config {} where
  bounded := Nat.zero_le _
  allocated _ h := nomatch h
  removed _ h := absurd h (Nat.not_lt_zero _)
  held _ _ h := nomatch h
  exclusive _ _ _ h := nomatch h
  issued _ _ h := nomatch h

namespace Sound

variable {system : LeaseSystem} {next : LeasePool}

theorem retire (h : Sound config system) (hnext : Retired system.pool next) :
    Sound config { system with pool := next } where
  bounded := hnext.count.trans h.bounded
  allocated id hid := hnext.allocated ▸ h.allocated id (hnext.ids id hid)
  removed id hid hgone := by
    by_cases hmem : id ∈ system.pool.ids
    · exact hnext.left id hmem hgone
    · exact hnext.tornDown id (h.removed id (hnext.allocated ▸ hid) hmem)
  held lease id hlive := by
    obtain ⟨hid, hheld⟩ := h.held lease id hlive
    exact ⟨hnext.allocated ▸ hid, hnext.held id hheld⟩
  exclusive := h.exclusive
  issued := h.issued

/-- A change of records that keeps in use whatever has a holder. -/
theorem modify {id : Nat} {f : WarmRuntime → WarmRuntime} (h : Sound config system)
    (hheld : ∀ lease, system.live lease = some id →
      (f (system.pool.records id)).inUse ∨ (f (system.pool.records id)).quarantined) :
    Sound config { system with pool := system.pool.modify id f } where
  bounded := h.bounded
  allocated := h.allocated
  removed := h.removed
  held lease other hlive := by
    obtain ⟨hother, hrecord⟩ := h.held lease other hlive
    refine ⟨hother, ?_⟩
    by_cases heq : other = id
    · subst heq
      rw [modify_self]
      exact hheld lease hlive
    · rw [modify_ne _ heq]
      exact hrecord
  exclusive := h.exclusive
  issued := h.issued

theorem giveBack (h : Sound config system) (lease : Nat) :
    Sound config { system with live := Function.update system.live lease none } := by
  have hlive : ∀ other id, Function.update system.live lease none other = some id →
      system.live other = some id := by
    intro other id hother
    by_cases heq : other = lease
    · subst heq
      rw [Function.update_self] at hother
      cases hother
    · rwa [Function.update_of_ne heq] at hother
  refine ⟨h.bounded, h.allocated, h.removed, fun other id hother => ?_, ?_, fun other id hother => ?_⟩
  · exact h.held other id (hlive other id hother)
  · intro other another id hother hanother
    exact h.exclusive other another id (hlive other id hother) (hlive another id hanother)
  · exact h.issued other id (hlive other id hother)

/-- A record without a holder is handed out. -/
theorem handOut {id : Nat} (h : Sound config system) (hid : id < system.pool.allocated)
    (hheld : (system.pool.records id).inUse) (hfree : ∀ lease, system.live lease ≠ some id) :
    Sound config { system with
      granted := system.granted ++ [id]
      live := Function.update system.live system.granted.length (some id) } := by
  have hlive : ∀ lease other,
      Function.update system.live system.granted.length (some id) lease = some other →
      (lease = system.granted.length ∧ other = id) ∨
        (lease < system.granted.length ∧ system.live lease = some other) := by
    intro lease other hlease
    by_cases heq : lease = system.granted.length
    · subst heq
      rw [Function.update_self] at hlease
      exact .inl ⟨rfl, (Option.some.inj hlease).symm⟩
    · rw [Function.update_of_ne heq] at hlease
      exact .inr ⟨h.issued lease other hlease, hlease⟩
  refine ⟨h.bounded, h.allocated, h.removed, fun lease other hlease => ?_, ?_,
    fun lease other hlease => ?_⟩
  · rcases hlive lease other hlease with ⟨-, rfl⟩ | ⟨-, hlease⟩
    · exact ⟨hid, .inl hheld⟩
    · exact h.held lease other hlease
  · intro lease another other hlease hanother
    rcases hlive lease other hlease with ⟨hlength, rfl⟩ | ⟨-, hold⟩
    · rcases hlive another other hanother with ⟨hlength', -⟩ | ⟨-, hanother⟩
      · exact hlength.trans hlength'.symm
      · exact absurd hanother (hfree another)
    · rcases hlive another other hanother with ⟨-, rfl⟩ | ⟨-, hanother⟩
      · exact absurd hold (hfree lease)
      · exact h.exclusive lease another other hold hanother
  · dsimp only
    rw [List.length_append, List.length_singleton]
    rcases hlive lease other hlease with ⟨hlength, -⟩ | ⟨hlength, -⟩ <;> omega

theorem provision (h : Sound config system) (scale : String)
    (hroom : system.pool.runtimeCount < config.maxActiveRuntimes) :
    Sound config { system with pool := (system.pool.withScale scale).provision scale } where
  bounded := by
    have hlength : ∀ ids : List Nat, (ids ++ [system.pool.allocated]).length ≤ ids.length + 1 :=
      fun _ => List.length_append.le
    have hcount := length_updateRecords_le scale (setDefault scale system.pool.runtimes) hlength
    rw [length_setDefault] at hcount
    exact hcount.trans hroom
  allocated id hid := by
    rcases mem_updateRecords hid with hold | hnew
    · rw [LeasePool.withScale, flatMap_setDefault] at hold
      exact Nat.lt_succ_of_lt (h.allocated id hold)
    · rcases List.mem_append.mp hnew with hold | hnew
      · have hold := mem_of_mem_recordsOf hold
        rw [LeasePool.withScale, flatMap_setDefault] at hold
        exact Nat.lt_succ_of_lt (h.allocated id hold)
      · rw [List.mem_singleton.mp hnew]
        exact Nat.lt_succ_self _
  removed id hid hgone := by
    rcases Nat.lt_succ_iff_lt_or_eq.mp hid with hid | rfl
    · refine h.removed id hid fun hmem => hgone ?_
      refine mem_updateRecords_of_mem (fun ids h => List.mem_append_left _ h) ?_
      rw [LeasePool.withScale, flatMap_setDefault]
      exact hmem
    · exact absurd (mem_updateRecords_setDefault fun ids => List.mem_append_right _
        (List.mem_singleton_self _)) hgone
  held lease id hlive := by
    obtain ⟨hid, hheld⟩ := h.held lease id hlive
    refine ⟨Nat.lt_succ_of_lt hid, ?_⟩
    have hrecord : ((system.pool.withScale scale).provision scale).records id =
        system.pool.records id := Function.update_of_ne hid.ne ..
    rw [hrecord]
    exact hheld
  exclusive := h.exclusive
  issued := h.issued

end Sound

/-! ## Every run -/

section Steps

variable {system : LeaseSystem}

theorem Sound.settle {f : Nat → LeasePool → LeasePool} (h : Sound config system) (lease : Nat)
    (hf : ∀ id, system.live lease = some id → Sound config
      { system with
        pool := f id system.pool
        live := Function.update system.live lease none }) :
    Sound config (system.settle lease f) := by
  unfold LeaseSystem.settle
  split
  · rename_i id hlive
    exact hf id hlive
  · exact h

/-- What a pass of `acquire` grants has no other holder, and is not quarantined. -/
theorem Sound.grants {middle next : LeasePool} {now : ℚ} {id : Nat}
    (h : Sound config { system with pool := middle }) (hgrants : Grants config middle now next id) :
    Sound config { system with
      pool := next
      granted := system.granted ++ [id]
      live := Function.update system.live system.granted.length (some id) } ∧
    ¬ (next.records id).quarantined ∧ ∀ lease, system.live lease ≠ some id := by
  cases hgrants with
  | idle hmem hidle =>
    rw [LeasePool.isIdle, Bool.and_eq_true, Bool.not_eq_true', Bool.not_eq_true'] at hidle
    obtain ⟨hunused, hunquarantined⟩ := hidle
    have hfree : ∀ lease, system.live lease ≠ some id := by
      intro lease hlive
      obtain ⟨-, hheld⟩ := h.held lease id hlive
      dsimp only at hheld
      rw [hunused, hunquarantined] at hheld
      exact hheld.elim nofun nofun
    have hgrant : Sound config { system with pool := middle.grant config id now } :=
      h.modify fun _ _ => .inl rfl
    refine ⟨hgrant.handOut (h.allocated id hmem) ?_ hfree, ?_, hfree⟩
    · dsimp only
      rw [LeasePool.grant, modify_self]
    · rw [LeasePool.grant, modify_self, hunquarantined]
      exact Bool.false_ne_true
  | @new scale hroom =>
    have hfree : ∀ lease, system.live lease ≠ some middle.allocated := fun lease hlive =>
      absurd (h.held lease _ hlive).1 (lt_irrefl _)
    have hprovision := h.provision scale hroom
    have hgrant : Sound config { system with
        pool := ((middle.withScale scale).provision scale).grant config middle.allocated now } :=
      hprovision.modify fun _ _ => .inl rfl
    refine ⟨hgrant.handOut (Nat.lt_succ_self _) ?_ hfree, ?_, hfree⟩
    · dsimp only
      rw [LeasePool.grant, modify_self]
    · have hnew : ((middle.withScale scale).provision scale).records middle.allocated =
          { scale } := Function.update_self ..
      rw [LeasePool.grant, modify_self, hnew]
      exact Bool.false_ne_true

theorem Sound.step (h : Sound config system) (event : LeaseEvent) :
    Sound config (system.step config event) := by
  cases event with
  | acquire scale pass =>
    rw [LeaseSystem.step]
    rcases acquire_cases config scale pass system.pool with
      ⟨middle, next, id, hretired, hgrants, hacquire⟩ | ⟨next, outcome, hretired, hacquire, hno⟩
    · rw [hacquire]
      exact ((h.retire hretired).grants hgrants).1
    · rw [hacquire]
      cases outcome with
      | granted id => exact absurd rfl (hno id)
      | waiting => exact h.retire hretired
      | raised error => exact h.retire hretired
  | release lease =>
    refine h.settle (f := fun id pool => pool.release id) lease fun id hlive =>
      (h.giveBack lease).modify fun other hother => ?_
    dsimp only at hother
    by_cases heq : other = lease
    · subst heq
      rw [Function.update_self] at hother
      cases hother
    · rw [Function.update_of_ne heq] at hother
      exact absurd (h.exclusive other lease id hother hlive) heq
  | refresh lease minSeconds now =>
    rw [LeaseSystem.step]
    split
    · rename_i id _
      rw [LeasePool.refresh]
      split
      · exact h.modify fun lease hlive => (h.held lease id hlive).2
      · exact h
    · exact h
  | quarantine lease teardown =>
    exact h.settle (f := fun id pool => (pool.quarantine teardown id).1) lease fun id _ =>
      (h.giveBack lease).retire (retired_quarantine system.pool teardown id).1
  | drain scales teardown => exact h.retire (retired_quarantineEach ..)
  | list now => exact ⟨h.bounded, h.allocated, h.removed, h.held, h.exclusive, h.issued⟩
  | reap id teardown =>
    rw [LeaseSystem.step]
    split
    · exact h.retire (retired_quarantine system.pool teardown id).1
    · exact h

theorem Sound.run (h : Sound config system) (events : List LeaseEvent) :
    Sound config (system.run config events) := by
  have hstep : ∀ system event, Sound config system → Sound config (system.step config event) :=
    fun _ event h => h.step event
  exact Run.invariant_of_step hstep h events

/-! ## Quarantined records -/

/-- The record exists and is quarantined. -/
def Quarantined (pool : LeasePool) (id : Nat) : Prop :=
  id < pool.allocated ∧ (pool.records id).quarantined

theorem Quarantined.retire {next : LeasePool} {id : Nat} (h : Quarantined pool id)
    (hnext : Retired pool next) : Quarantined next id :=
  ⟨hnext.allocated ▸ h.1, hnext.quarantined id h.2⟩

theorem Quarantined.modify {id other : Nat} {f : WarmRuntime → WarmRuntime}
    (h : Quarantined pool id) (hf : ∀ record, (f record).quarantined = record.quarantined) :
    Quarantined (pool.modify other f) id := by
  refine ⟨h.1, ?_⟩
  by_cases heq : id = other
  · rw [← heq, modify_self, hf]
    exact h.2
  · rw [modify_ne _ heq]
    exact h.2

theorem Quarantined.grants {middle next : LeasePool} {now : ℚ} {id other : Nat}
    (h : Quarantined middle id) (hgrants : Grants config middle now next other) :
    Quarantined next id := by
  cases hgrants with
  | idle hmem hidle => exact h.modify fun _ => rfl
  | @new scale hroom =>
    have hprovision : Quarantined ((middle.withScale scale).provision scale) id := by
      refine ⟨Nat.lt_succ_of_lt h.1, ?_⟩
      have hrecord : ((middle.withScale scale).provision scale).records id = middle.records id :=
        Function.update_of_ne h.1.ne ..
      rw [hrecord]
      exact h.2
    exact hprovision.modify fun _ => rfl

theorem Quarantined.settle {id lease : Nat} {f : Nat → LeasePool → LeasePool}
    (h : Quarantined system.pool id) (hf : ∀ other, Quarantined (f other system.pool) id) :
    Quarantined (system.settle lease f).pool id ∧
      (system.settle lease f).granted = system.granted := by
  unfold LeaseSystem.settle
  split
  · exact ⟨hf _, rfl⟩
  · exact ⟨h, rfl⟩

/-- A quarantined record stays quarantined, and what a step grants is another one. -/
theorem Quarantined.step {id : Nat} (hsound : Sound config system)
    (h : Quarantined system.pool id) (event : LeaseEvent) :
    Quarantined (system.step config event).pool id ∧
      ((system.step config event).granted = system.granted ∨
        ∃ other ≠ id, (system.step config event).granted = system.granted ++ [other]) := by
  cases event with
  | acquire scale pass =>
    rw [LeaseSystem.step]
    rcases acquire_cases config scale pass system.pool with
      ⟨middle, next, other, hretired, hgrants, hacquire⟩ | ⟨next, outcome, hretired, hacquire, hno⟩
    · rw [hacquire]
      have hnext : Quarantined next id := (h.retire hretired).grants hgrants
      refine ⟨hnext, .inr ⟨other, ?_, rfl⟩⟩
      rintro rfl
      exact ((hsound.retire hretired).grants hgrants).2.1 hnext.2
    · rw [hacquire]
      cases outcome with
      | granted other => exact absurd rfl (hno other)
      | waiting => exact ⟨h.retire hretired, .inl rfl⟩
      | raised error => exact ⟨h.retire hretired, .inl rfl⟩
  | release lease =>
    refine (h.settle (f := fun other pool => pool.release other) fun other => ?_).imp_right .inl
    rw [LeasePool.release]
    exact h.modify fun _ => rfl
  | refresh lease minSeconds now =>
    rw [LeaseSystem.step]
    split
    · rw [LeasePool.refresh]
      split
      · exact ⟨h.modify fun _ => rfl, .inl rfl⟩
      · exact ⟨h, .inl rfl⟩
    · exact ⟨h, .inl rfl⟩
  | quarantine lease teardown =>
    refine (h.settle (f := fun other pool => (pool.quarantine teardown other).1)
      fun other => ?_).imp_right .inl
    exact h.retire (retired_quarantine system.pool teardown other).1
  | drain scales teardown => exact ⟨h.retire (retired_quarantineEach ..), .inl rfl⟩
  | list now => exact ⟨h, .inl rfl⟩
  | reap other teardown =>
    rw [LeaseSystem.step]
    split
    · exact ⟨h.retire (retired_quarantine system.pool teardown other).1, .inl rfl⟩
    · exact ⟨h, .inl rfl⟩

/-- No run grants a quarantined record again. -/
theorem Quarantined.run {id : Nat} (hsound : Sound config system)
    (h : Quarantined system.pool id) (events : List LeaseEvent) :
    ∃ granted, (system.run config events).granted = system.granted ++ granted ∧ id ∉ granted := by
  induction events generalizing system with
  | nil => exact ⟨[], (List.append_nil _).symm, List.not_mem_nil⟩
  | cons event events ih =>
    obtain ⟨hnext, hgranted⟩ := Quarantined.step hsound h event
    obtain ⟨later, hlater, hid⟩ := ih (hsound.step event) hnext
    have hrun : system.run config (event :: events) =
        (system.step config event).run config events := rfl
    rw [hrun, hlater]
    rcases hgranted with hgranted | ⟨other, hother, hgranted⟩
    · exact ⟨later, by rw [hgranted], hid⟩
    · refine ⟨other :: later, by rw [hgranted, List.append_assoc, List.singleton_append], ?_⟩
      rw [List.mem_cons, not_or]
      exact ⟨hother.symm, hid⟩

/-! ## What is granted -/

theorem granted_settle {lease : Nat} {f : Nat → LeasePool → LeasePool} :
    (system.settle lease f).granted = system.granted := by
  unfold LeaseSystem.settle
  split <;> rfl

/-- A step that grants a record is a pass of `acquire`. -/
theorem granted_step (hsound : Sound config system) {event : LeaseEvent} {id : Nat}
    (h : (system.step config event).granted = system.granted ++ [id]) :
    ¬ ((system.step config event).pool.records id).quarantined ∧
      ∀ lease, system.live lease ≠ some id := by
  have hsame : (system.step config event).granted ≠ system.granted := by
    intro hsame
    rw [hsame] at h
    exact absurd (congrArg List.length h) (by rw [List.length_append]; exact (Nat.lt_succ_self _).ne)
  cases event with
  | acquire scale pass =>
    rw [LeaseSystem.step] at h hsame ⊢
    rcases acquire_cases config scale pass system.pool with
      ⟨middle, next, other, hretired, hgrants, hacquire⟩ | ⟨next, outcome, hretired, hacquire, hno⟩
    · rw [hacquire] at h ⊢
      rw [← List.singleton_inj.mp (List.append_cancel_left h)]
      exact ((hsound.retire hretired).grants hgrants).2
    · rw [hacquire] at hsame
      cases outcome with
      | granted other => exact absurd rfl (hno other)
      | waiting => exact absurd rfl hsame
      | raised error => exact absurd rfl hsame
  | release lease => exact absurd granted_settle hsame
  | refresh lease minSeconds now =>
    rw [LeaseSystem.step] at hsame
    split at hsame <;> exact absurd rfl hsame
  | quarantine lease teardown => exact absurd granted_settle hsame
  | drain scales teardown => exact absurd rfl hsame
  | list now => exact absurd rfl hsame
  | reap other teardown =>
    rw [LeaseSystem.step] at hsame
    split at hsame <;> exact absurd rfl hsame

end Steps

/-- In every run the pool is bounded and a live lease is the only one of its record, a record leaves
the pool only torn down, a grant is of a record that nobody has and that is not quarantined, and a
quarantined record is never granted again. -/
theorem leases_exclusive (config : SimulatorConfig) (events : List LeaseEvent) :
    let system := ({} : LeaseSystem).run config events
    system.pool.runtimeCount ≤ config.maxActiveRuntimes ∧
    (∀ lease other id, system.live lease = some id → system.live other = some id →
      lease = other) ∧
    (∀ id < system.pool.allocated, id ∉ system.pool.ids → id ∈ system.pool.tornDown) ∧
    (∀ event id, (system.step config event).granted = system.granted ++ [id] →
      ¬ ((system.step config event).pool.records id).quarantined ∧
        ∀ lease, system.live lease ≠ some id) ∧
    ∀ later id, id < system.pool.allocated → (system.pool.records id).quarantined →
      ∃ granted, (system.run config later).granted = system.granted ++ granted ∧
        id ∉ granted := by
  intro system
  have hsound : Sound config system := (sound_init config).run events
  refine ⟨hsound.bounded, hsound.exclusive, hsound.removed, fun event id h => ?_,
    fun later id hid hquarantined => ?_⟩
  · exact granted_step hsound h
  · exact Quarantined.run hsound ⟨hid, hquarantined⟩ later

end NetOpsBench.Simulator
