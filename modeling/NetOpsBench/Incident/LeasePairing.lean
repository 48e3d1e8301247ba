import NetOpsBench.Data.Run
import NetOpsBench.Incident.Engine

/-!
# An incident settles its lease

Whatever raises, a closed incident has given its lease back once: released if nobody had declared the
runtime broken by then, quarantined if not.

`lease_settled_once` says so of every sequence of calls and of every call that may raise. The phases of an
incident are `Created`, `Active` and `Over`, one lemma for each phase and call; `Phased.run` carries them
over the calls, and `Kept` is what holds in any of them.
-/

namespace NetOpsBench.Incident

open Simulator

/-! ## Histories -/

/-- Whether the entry takes a lease or gives it back. -/
def onLease : Entry → Bool
  | .acquired _ | .released _ | .quarantined _ => true
  | _ => false

/-- No lease is released after somebody declared the runtime broken. -/
def ReleasedWhole (log : List Entry) : Prop :=
  ∀ before lease, before ++ [.released lease] <+: log → .broken ∉ before

/-- The owner is told only of a backend that has finished. -/
def ToldLast (log : List Entry) : Prop :=
  ∀ before, before ++ [.onClose] <+: log → .finished ∈ before

/-- Each lease was given back, once. -/
def Paired (log : List Entry) : Prop :=
  log.filter onLease = [] ∨ ∃ lease, log.filter onLease = [.acquired lease, .released lease] ∨
    log.filter onLease = [.acquired lease, .quarantined lease]

section Histories

variable {log entries : List Entry} {entry : Entry}

theorem ReleasedWhole.concat (h : ReleasedWhole log)
    (hentry : ∀ lease, entry = .released lease → .broken ∉ log) :
    ReleasedWhole (log ++ [entry]) := by
  intro before lease hbefore
  rcases List.prefix_concat_iff.mp hbefore with heq | hbefore
  · obtain ⟨rfl, hlast⟩ := List.append_inj' heq rfl
    exact hentry lease (List.singleton_inj.mp hlast).symm
  · exact h before lease hbefore

theorem ToldLast.concat (h : ToldLast log) (hentry : entry = .onClose → .finished ∈ log) :
    ToldLast (log ++ [entry]) := by
  intro before hbefore
  rcases List.prefix_concat_iff.mp hbefore with heq | hbefore
  · obtain ⟨rfl, hlast⟩ := List.append_inj' heq rfl
    exact hentry (List.singleton_inj.mp hlast).symm
  · exact h before hbefore

theorem releasedWhole_of_not_mem (h : ∀ lease, .released lease ∉ log) : ReleasedWhole log :=
  fun _ lease hbefore => absurd (hbefore.subset (List.mem_append_right _ (List.mem_singleton_self _)))
    (h lease)

theorem toldLast_of_not_mem (h : .onClose ∉ log) : ToldLast log := fun _ hbefore =>
  absurd (hbefore.subset (List.mem_append_right _ (List.mem_singleton_self _))) h

/-- What an incident has done before its backend has finished. -/
structure Quit (log : List Entry) : Prop where
  paired : Paired log
  delegate : log.count .delegateFinished ≤ 1
  untold : .onClose ∉ log
  whole : ReleasedWhole log

/-- What holds of an incident at any time. -/
structure Kept (log : List Entry) : Prop where
  delegate : log.count .delegateFinished ≤ 1
  onClose : log.count .onClose ≤ 1
  told : ToldLast log
  whole : ReleasedWhole log

structure Settled (log : List Entry) : Prop extends Kept log where
  paired : Paired log

/-- What an incident that still has its lease has done. -/
structure Held (lease : Nat) (log : List Entry) : Prop where
  lease : log.filter onLease = [.acquired lease]
  delegate : .delegateFinished ∉ log
  untold : .onClose ∉ log
  sound : .broken ∉ log

theorem quit_nil : Quit [] where
  paired := .inl rfl
  delegate := Nat.zero_le _
  untold := List.not_mem_nil
  whole := releasedWhole_of_not_mem fun _ => List.not_mem_nil

theorem Quit.kept (h : Quit log) : Kept log where
  delegate := h.delegate
  onClose := (List.count_eq_zero.mpr h.untold).trans_le (Nat.zero_le _)
  told := toldLast_of_not_mem h.untold
  whole := h.whole

/-- A runtime may be declared broken after the lease was settled. -/
theorem Quit.declare (h : Quit log) : Quit (log ++ [.broken]) where
  paired := by
    have hfilter : (log ++ [Entry.broken]).filter onLease = log.filter onLease := by
      rw [List.filter_append]
      exact List.append_nil _
    unfold Paired
    rw [hfilter]
    exact h.paired
  delegate := by
    rw [List.count_append]
    exact h.delegate
  untold hmem := by
    rcases List.mem_append.mp hmem with hmem | hmem
    · exact h.untold hmem
    · cases List.mem_singleton.mp hmem
  whole := h.whole.concat nofun

theorem Quit.finished (h : Quit log) : Settled (log ++ [.finished]) where
  paired := by
    have hfilter : (log ++ [Entry.finished]).filter onLease = log.filter onLease := by
      rw [List.filter_append]
      exact List.append_nil _
    unfold Paired
    rw [hfilter]
    exact h.paired
  delegate := by
    rw [List.count_append]
    exact h.delegate
  onClose := by
    rw [List.count_append, List.count_eq_zero.mpr h.untold]
    exact Nat.zero_le _
  told := (toldLast_of_not_mem h.untold).concat nofun
  whole := h.whole.concat nofun

theorem Quit.told (h : Quit log) : Settled (log ++ [.finished] ++ [.onClose]) where
  paired := by
    have hfilter : (log ++ [Entry.finished] ++ [Entry.onClose]).filter onLease = log.filter onLease := by
      rw [List.filter_append, List.filter_append]
      exact (List.append_nil _).trans (List.append_nil _)
    unfold Paired
    rw [hfilter]
    exact h.paired
  delegate := by
    rw [List.count_append]
    exact h.finished.delegate
  onClose := by
    rw [List.count_append, List.count_append, List.count_eq_zero.mpr h.untold]
    exact le_rfl
  told := h.finished.told.concat fun _ => List.mem_append_right _ (List.mem_singleton_self _)
  whole := h.finished.whole.concat nofun

theorem Held.not_released {lease : Nat} (h : Held lease log) (other : Nat) :
    .released other ∉ log := by
  intro hmem
  have hfilter : Entry.released other ∈ log.filter onLease := List.mem_filter.mpr ⟨hmem, rfl⟩
  rw [h.lease] at hfilter
  cases List.mem_singleton.mp hfilter

theorem Held.kept {lease : Nat} (h : Held lease log) : Kept log where
  delegate := (List.count_eq_zero.mpr h.delegate).trans_le (Nat.zero_le _)
  onClose := (List.count_eq_zero.mpr h.untold).trans_le (Nat.zero_le _)
  told := toldLast_of_not_mem h.untold
  whole := releasedWhole_of_not_mem h.not_released

/-- A held lease is settled by one release, if nobody declared the runtime broken, or one
quarantine. -/
theorem Held.settle {lease : Nat} (h : Held lease log) (hlease : entries.filter onLease = [])
    (hdelegate : entries.count .delegateFinished ≤ 1) (htold : .onClose ∉ entries)
    (hentry : entry = .quarantined lease ∨ entry = .released lease ∧ .broken ∉ entries) :
    Quit (log ++ entries ++ [entry]) where
  paired := by
    unfold Paired
    rw [List.filter_append, List.filter_append, h.lease, hlease]
    rcases hentry with rfl | ⟨rfl, -⟩
    · exact .inr ⟨lease, .inr rfl⟩
    · exact .inr ⟨lease, .inl rfl⟩
  delegate := by
    rw [List.count_append, List.count_append, List.count_eq_zero.mpr h.delegate]
    rcases hentry with rfl | ⟨rfl, -⟩
    · exact (Nat.zero_add _).le.trans hdelegate
    · exact (Nat.zero_add _).le.trans hdelegate
  untold hmem := by
    rcases List.mem_append.mp hmem with hmem | hmem
    · exact (List.mem_append.mp hmem).elim h.untold htold
    · rcases hentry with rfl | ⟨rfl, -⟩ <;> cases List.mem_singleton.mp hmem
  whole := by
    have hno : ∀ other, .released other ∉ log ++ entries := by
      intro other hmem
      rcases List.mem_append.mp hmem with hmem | hmem
      · exact h.not_released other hmem
      · have hfilter : Entry.released other ∈ entries.filter onLease :=
          List.mem_filter.mpr ⟨hmem, rfl⟩
        rw [hlease] at hfilter
        cases hfilter
    refine (releasedWhole_of_not_mem hno).concat fun other hother hmem => ?_
    rcases hentry with rfl | ⟨-, hbroken⟩
    · cases hother
    · exact (List.mem_append.mp hmem).elim h.sound hbroken

theorem Held.refresh {lease other : Nat} (h : Held lease log) :
    Held lease (log ++ [.refreshed other]) where
  lease := by
    rw [List.filter_append, h.lease]
    rfl
  delegate hmem := by
    rcases List.mem_append.mp hmem with hmem | hmem
    · exact h.delegate hmem
    · cases List.mem_singleton.mp hmem
  untold hmem := by
    rcases List.mem_append.mp hmem with hmem | hmem
    · exact h.untold hmem
    · cases List.mem_singleton.mp hmem
  sound hmem := by
    rcases List.mem_append.mp hmem with hmem | hmem
    · exact h.sound hmem
    · cases List.mem_singleton.mp hmem

theorem held_acquired (lease : Nat) : Held lease [.acquired lease] where
  lease := rfl
  delegate h := nomatch List.mem_singleton.mp h
  untold h := nomatch List.mem_singleton.mp h
  sound h := nomatch List.mem_singleton.mp h

end Histories

/-! ## The backend -/

section Backend

variable {backend : RuntimeEpisodeBackend} {lease : Nat} {log : List Entry}

/-- The delegate finishes at most once. -/
theorem finishDelegate_cases (backend : RuntimeEpisodeBackend)
    (cleanup : Except Raised CleanupResult) :
    backend.finishDelegate cleanup = ([], none) ∨
    backend.finishDelegate cleanup = ([.delegateFinished], none) ∨
    ∃ error, backend.finishDelegate cleanup = ([.delegateFinished, .broken], some error) := by
  unfold RuntimeEpisodeBackend.finishDelegate
  split
  · exact .inl rfl
  · split
    · exact .inr (.inl rfl)
    · rename_i error _
      exact .inr (.inr ⟨error, rfl⟩)

/-- A backend with a lease ends with giving it back, whole only if nobody declared it broken. -/
theorem finish_cases (hrecord : backend.record = some lease) (outcome : FinishOutcome)
    (broken : Bool) :
    ∃ entries entry,
      (if broken then [.broken] else []) ++ (backend.finish outcome broken).2.1 =
        entries ++ [entry] ∧
      entries.filter onLease = [] ∧ entries.count .delegateFinished ≤ 1 ∧ .onClose ∉ entries ∧
      (entry = .quarantined lease ∨ entry = .released lease ∧ .broken ∉ entries) := by
  unfold RuntimeEpisodeBackend.finish
  rw [hrecord]
  dsimp only
  rcases finishDelegate_cases backend outcome.cleanup with hcase | hcase | ⟨error, hcase⟩
  · rw [hcase]
    cases broken
    · exact ⟨[], _, rfl, rfl, by decide, by decide, .inr ⟨rfl, by decide⟩⟩
    · exact ⟨[.broken], _, rfl, rfl, by decide, by decide, .inl rfl⟩
  · rw [hcase]
    cases broken
    · exact ⟨[.delegateFinished], _, rfl, rfl, by decide, by decide, .inr ⟨rfl, by decide⟩⟩
    · exact ⟨[.broken, .delegateFinished], _, rfl, rfl, by decide, by decide, .inl rfl⟩
  · rw [hcase]
    cases broken
    · exact ⟨[.delegateFinished, .broken], _, rfl, rfl, by decide, by decide, .inl rfl⟩
    · exact ⟨[.broken, .delegateFinished, .broken], _, rfl, rfl, by decide, by decide, .inl rfl⟩

theorem quit_finish (hrecord : backend.record = some lease) (h : Held lease log)
    (outcome : FinishOutcome) (broken : Bool) :
    Quit (log ++ (if broken then [.broken] else []) ++ (backend.finish outcome broken).2.1) := by
  obtain ⟨entries, entry, hentries, hlease, hdelegate, htold, hentry⟩ :=
    finish_cases hrecord outcome broken
  rw [List.append_assoc, hentries, ← List.append_assoc]
  exact h.settle hlease hdelegate htold hentry

/-- A backend without a lease has nothing to finish. -/
theorem finish_none (hrecord : backend.record = none) (outcome : FinishOutcome) (broken : Bool) :
    backend.finish outcome broken = (backend, [], .ok ()) := by
  unfold RuntimeEpisodeBackend.finish
  rw [hrecord]

theorem record_finish (backend : RuntimeEpisodeBackend) (outcome : FinishOutcome)
    (broken : Bool) : (backend.finish outcome broken).1.record = none := by
  unfold RuntimeEpisodeBackend.finish
  split
  · assumption
  · split <;> rfl

/-- A backend that prepared itself has its lease, and one that could not has it or gave it back. -/
inductive Prepared : RuntimeEpisodeBackend × List Entry × Except Raised Unit → Prop where
  | quit {backend : RuntimeEpisodeBackend} {error : Raised} {entries : List Entry}
    (hrecord : backend.record = none) (h : Quit entries) :
    Prepared (backend, entries, .error error)
  | held {backend : RuntimeEpisodeBackend} {lease : Nat} {result : Except Raised Unit}
    {entries : List Entry} (hrecord : backend.record = some lease) (h : Held lease entries) :
    Prepared (backend, entries, result)

theorem record_prepareLeased {outcome : PrepareOutcome} {leased : RuntimeEpisodeBackend}
    {result : Except Raised Unit} (h : backend.prepareLeased outcome lease = (leased, result)) :
    leased.record = some lease := by
  unfold RuntimeEpisodeBackend.prepareLeased at h
  split at h <;> cases h <;> rfl

/-- A backend that prepares itself takes a lease, and gives it back when it fails. -/
theorem prepared (backend : RuntimeEpisodeBackend) (hrecord : backend.record = none)
    (outcome : PrepareOutcome) : Prepared (backend.prepare outcome) := by
  unfold RuntimeEpisodeBackend.prepare
  split
  · exact .quit hrecord quit_nil
  · rename_i lease _
    split
    · exact .held rfl (held_acquired lease)
    · refine .quit rfl ?_
      have hnone : ([] : List Entry).filter onLease = [] := rfl
      exact (held_acquired lease).settle hnone (by decide) (by decide) (.inr ⟨rfl, by decide⟩)
    · split
      · rename_i leased heq
        exact .held (record_prepareLeased heq) (held_acquired lease)
      · rename_i leased error heq
        have hleased := record_prepareLeased heq
        split
        · -- The lease of a baseline that is not ready is given back at once.
          have hquit := quit_finish hleased (held_acquired lease) outcome.finish false
          have hnone := record_finish leased outcome.finish false
          split
          · rename_i heq
            rw [heq] at hquit hnone
            exact .quit hnone hquit
          · rename_i heq
            rw [heq] at hquit hnone
            exact .quit hnone hquit
        · exact .held hleased (held_acquired lease)

end Backend

/-! ## The incident -/

/-- The incident has finished its backend. -/
def Over (incident : PreparedIncident) : Prop :=
  (incident.state = .closed ∨ incident.state = .broken) ∧
    incident.cleanupStatus ≠ .notStarted ∧ Settled incident.log

section Incident

variable {incident : PreparedIncident} {lease : Nat}

theorem over_notifyClose {onClose : Except Raised Unit}
    (hstate : incident.state = .closed ∨ incident.state = .broken)
    (hcleanup : incident.cleanupStatus ≠ .notStarted) {log : List Entry}
    (hlog : incident.log = log ++ [.finished]) (h : Quit log) :
    Over (incident.notifyClose onClose).1 := by
  unfold PreparedIncident.notifyClose
  split
  · refine ⟨hstate, hcleanup, ?_⟩
    dsimp only
    rw [hlog]
    exact h.told
  · refine ⟨hstate, hcleanup, ?_⟩
    rw [hlog]
    exact h.finished

/-- An incident that finishes its backend is over. -/
theorem over_finishBackend {outcome : CloseOutcome} {broken : Bool}
    (h : Quit (incident.log ++ (if broken then [.broken] else []) ++
      (incident.backend.finish outcome.toFinishOutcome broken).2.1)) :
    Over (incident.finishBackend outcome broken).1 := by
  unfold PreparedIncident.finishBackend
  dsimp only
  split
  · rename_i heq
    rw [heq] at h
    exact over_notifyClose (.inr rfl) nofun rfl h
  · rename_i heq
    rw [heq] at h
    refine over_notifyClose ?_ nofun rfl h
    cases broken
    · exact .inl rfl
    · exact .inr rfl

theorem over_finishBackend_none {outcome : CloseOutcome} {broken : Bool}
    (hrecord : incident.backend.record = none) (h : Quit incident.log) :
    Over (incident.finishBackend outcome broken).1 := by
  refine over_finishBackend ?_
  rw [finish_none hrecord, List.append_nil]
  cases broken
  · exact (List.append_nil _).symm ▸ h
  · exact h.declare

theorem Over.call (h : Over incident) (call : IncidentCall) : (incident.call call).1 = incident := by
  obtain ⟨hstate, hcleanup, -⟩ := h
  have hcreated : incident.state ≠ .created := by
    rcases hstate with hstate | hstate <;> rw [hstate] <;> decide
  have hactive : incident.state ≠ .active := by
    rcases hstate with hstate | hstate <;> rw [hstate] <;> decide
  cases call with
  | prepare outcome close =>
    rw [PreparedIncident.call, PreparedIncident.prepare, if_pos hcreated]
  | openSession configured =>
    rw [PreparedIncident.call, PreparedIncident.openSession, if_pos hactive]
  | callTool name valid tool =>
    rw [PreparedIncident.call, PreparedIncident.callTool, if_pos hactive]
  | evaluate evaluation =>
    rw [PreparedIncident.call, PreparedIncident.evaluate, if_pos hactive]
  | close outcome =>
    rw [PreparedIncident.call, PreparedIncident.close, if_pos (.inr hcleanup)]

/-- The incident has its lease, and nothing was finished. -/
structure Active (incident : PreparedIncident) : Prop where
  state : incident.state = .active
  cleanup : incident.cleanupStatus = .notStarted
  held : ∃ lease, incident.backend.record = some lease ∧ Held lease incident.log

theorem Active.refreshLease (h : Active incident) : Active incident.refreshLease := by
  obtain ⟨hstate, hcleanup, lease, hrecord, hheld⟩ := h
  refine ⟨hstate, hcleanup, lease, hrecord, ?_⟩
  rw [PreparedIncident.refreshLease, RuntimeEpisodeBackend.refresh, hrecord]
  exact hheld.refresh

theorem Active.close (h : Active incident) (outcome : CloseOutcome) :
    Over (incident.close outcome).1 := by
  obtain ⟨hstate, hcleanup, lease, hrecord, hheld⟩ := h
  rw [PreparedIncident.close, hstate, hcleanup, if_neg (by decide), if_neg (by decide)]
  exact over_finishBackend (quit_finish hrecord hheld outcome.toFinishOutcome false)

theorem Active.call (h : Active incident) (call : IncidentCall) :
    Active (incident.call call).1 ∨ Over (incident.call call).1 := by
  have hstate : ¬ incident.state ≠ .active := fun hne => hne h.state
  cases call with
  | prepare outcome close =>
    rw [PreparedIncident.call, PreparedIncident.prepare, if_pos (by rw [h.state]; decide)]
    exact .inl h
  | openSession configured =>
    rw [PreparedIncident.call, PreparedIncident.openSession, if_neg hstate]
    split
    · exact .inl h
    · exact .inl h.refreshLease
  | callTool name valid tool =>
    rw [PreparedIncident.call, PreparedIncident.callTool, if_neg hstate]
    split
    · exact .inl h
    · dsimp only
      split
      · exact .inl h.refreshLease
      · exact .inl h.refreshLease.refreshLease
  | evaluate evaluation =>
    rw [PreparedIncident.call, PreparedIncident.evaluate, if_neg hstate]
    exact .inl h.refreshLease
  | close outcome => exact .inr (h.close outcome)

/-- The incident has not been prepared. -/
structure Created (incident : PreparedIncident) : Prop where
  state : incident.state = .created
  cleanup : incident.cleanupStatus = .notStarted
  record : incident.backend.record = none
  log : incident.log = []

theorem Created.prepare (h : Created incident) (outcome : PrepareOutcome) (close : CloseOutcome) :
    Active (incident.prepare outcome close).1 ∨ Over (incident.prepare outcome close).1 := by
  have hprepared := prepared incident.backend h.record outcome
  rw [PreparedIncident.prepare, if_neg fun hne => hne h.state, h.log]
  split
  · rename_i heq
    rw [heq] at hprepared
    right
    cases hprepared with
    | quit hrecord hquit => exact over_finishBackend_none hrecord hquit
    | held hrecord hheld => exact over_finishBackend (quit_finish hrecord hheld _ true)
  · rename_i heq
    rw [heq] at hprepared
    cases hprepared with
    | held hrecord hheld => exact .inl ⟨rfl, h.cleanup, _, hrecord, hheld⟩

theorem Created.close (h : Created incident) (outcome : CloseOutcome) :
    Over (incident.close outcome).1 := by
  rw [PreparedIncident.close, h.state, h.cleanup, if_neg (by decide), if_neg (by decide)]
  exact over_finishBackend_none h.record (h.log ▸ quit_nil)

/-- The first call on an incident leaves it as it is, makes it active or ends it. -/
theorem Created.call (h : Created incident) (call : IncidentCall) :
    Created (incident.call call).1 ∨ Active (incident.call call).1 ∨
      Over (incident.call call).1 := by
  have hactive : incident.state ≠ .active := by
    rw [h.state]
    decide
  cases call with
  | prepare outcome close => exact .inr (h.prepare outcome close)
  | openSession configured =>
    rw [PreparedIncident.call, PreparedIncident.openSession, if_pos hactive]
    exact .inl h
  | callTool name valid tool =>
    rw [PreparedIncident.call, PreparedIncident.callTool, if_pos hactive]
    exact .inl h
  | evaluate evaluation =>
    rw [PreparedIncident.call, PreparedIncident.evaluate, if_pos hactive]
    exact .inl h
  | close outcome => exact .inr (.inr (h.close outcome))

/-! ## Every run -/

def Phased (incident : PreparedIncident) : Prop :=
  Created incident ∨ Active incident ∨ Over incident

/-- An incident is in one of the phases after every call. -/
theorem Phased.call (h : Phased incident) (call : IncidentCall) :
    Phased (incident.call call).1 := by
  rcases h with h | h | h
  · exact h.call call
  · exact .inr (h.call call)
  · rw [h.call]
    exact .inr (.inr h)

theorem Phased.close (h : Phased incident) (outcome : CloseOutcome) :
    Over (incident.close outcome).1 := by
  rcases h with h | h | h
  · exact h.close outcome
  · exact h.close outcome
  · have hsame : (incident.close outcome).1 = incident := h.call (.close outcome)
    rw [hsame]
    exact h

/-- The phases are an invariant of every sequence of calls. -/
theorem Phased.run (h : Phased incident) (calls : List IncidentCall) :
    Phased (incident.run calls) := by
  have hstep : ∀ incident call, Phased incident → Phased (PreparedIncident.call incident call).1 :=
    fun _ call h => h.call call
  exact Run.invariant_of_step hstep h calls

/-- In every phase the log has what holds of an incident at any time. -/
theorem Phased.kept (h : Phased incident) : Kept incident.log := by
  rcases h with h | ⟨-, -, lease, -, h⟩ | ⟨-, -, h⟩
  · rw [h.log]
    exact quit_nil.kept
  · exact h.kept
  · exact h.toKept

theorem Over.run (h : Over incident) (calls : List IncidentCall) : incident.run calls = incident := by
  induction calls with
  | nil => rfl
  | cons call calls ih => rw [PreparedIncident.run, List.foldl_cons, h.call]; exact ih

/-- After a close the incident is over, whatever came before and after. -/
theorem over_of_closed (h : Phased incident) {calls : List IncidentCall} {outcome : CloseOutcome}
    (hmem : .close outcome ∈ calls) : Over (incident.run calls) := by
  obtain ⟨before, after, rfl⟩ := List.append_of_mem hmem
  rw [PreparedIncident.run, List.foldl_append, List.foldl_cons]
  have hover := (h.run before).close outcome
  have hafter := hover.run after
  unfold PreparedIncident.run at hafter hover
  rw [PreparedIncident.call, hafter]
  exact hover

end Incident

/-- An incident finishes its delegate and tells its owner at most once, the owner only when the
backend has finished, and it releases no runtime that was declared broken. Closed, it has settled its
lease with one release or one quarantine. -/
theorem lease_settled_once (notifies : Bool) (calls : List IncidentCall) :
    let incident := PreparedIncident.run { notifies } calls
    incident.log.count .delegateFinished ≤ 1 ∧ incident.log.count .onClose ≤ 1 ∧
      ToldLast incident.log ∧ ReleasedWhole incident.log ∧
      ∀ outcome, .close outcome ∈ calls → Paired incident.log := by
  intro incident
  have hinit : Phased { notifies } := .inl ⟨rfl, rfl, rfl, rfl⟩
  obtain ⟨hdelegate, honClose, htold, hwhole⟩ := (hinit.run calls).kept
  refine ⟨hdelegate, honClose, htold, hwhole, fun outcome hmem => ?_⟩
  obtain ⟨-, -, hsettled⟩ := over_of_closed hinit hmem
  exact hsettled.paired

end NetOpsBench.Incident
