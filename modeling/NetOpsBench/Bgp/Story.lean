import NetOpsBench.Bgp.Query

/-!
# The story of one session

What an event reports of a session is a function of its state before the window and its states
within it. The snapshot path tells this story from all samples, the indexed path from the changes
among them.

`snapshotEvent_report` and `fastEvent_report` are the two halves: either path reports the `story` of the
session. The second rests on `AreChanges`, by which the transitions of a window are the changes among its
samples, and no state of the window is missing from them (`AreChanges.fromkeys_timeline`).
-/

namespace NetOpsBench.Bgp
open Flux

structure EventReport where
  device : String
  peer : Option String
  eventType : EventType
  previousState : Option String
  latestState : Option String
  statesObserved : List String
deriving DecidableEq

def BgpEvent.report (event : BgpEvent) : EventReport where
  device := event.device
  peer := event.peer
  eventType := event.eventType
  previousState := event.previousState
  latestState := event.latestState
  statesObserved := event.statesObserved

/-- The report on a session with the state `previous` before the window and `states` within. -/
def story (state : StateFilter) (session : String × String) (previous : Option String)
    (states : List String) : Option EventReport :=
  states.getLast?.bind fun latest =>
    (sessionEventType state ((previous.toList ++ states).zip (previous.toList ++ states).tail)
      states latest).map fun eventType =>
        { device := session.1, peer := some session.2, eventType, previousState := previous
          latestState := some latest, statesObserved := Python.fromkeys [] states }

/-- The type of an event depends on which kinds of changes and states there are. -/
theorem sessionEventType_congr {state : StateFilter} {changes changes' : List (String × String)}
    {states states' : List String} {latest : String}
    (hdown : (∃ change ∈ changes, isDown change) ↔ ∃ change ∈ changes', isDown change)
    (hrecovery : (∃ change ∈ changes, isRecovery change) ↔ ∃ change ∈ changes', isRecovery change)
    (hstates : ∀ value, value ∈ states ↔ value ∈ states') :
    sessionEventType state changes states latest =
      sessionEventType state changes' states' latest := by
  have hdown : changes.any isDown = changes'.any isDown := by
    rw [Bool.eq_iff_iff, List.any_eq_true, List.any_eq_true, hdown]
  have hrecovery : changes.any isRecovery = changes'.any isRecovery := by
    rw [Bool.eq_iff_iff, List.any_eq_true, List.any_eq_true, hrecovery]
  have hsaw : states.any (· ≠ "ESTABLISHED") = states'.any (· ≠ "ESTABLISHED") := by
    rw [Bool.eq_iff_iff, List.any_eq_true, List.any_eq_true]
    simp only [hstates]
  simp only [sessionEventType, hdown, hrecovery, hsaw]

theorem readState_ne_empty (value : Option String) : readState value ≠ "" := by
  refine Python.upper_ne_empty ?_
  cases hvalue : Python.truthy value with
  | none => decide
  | some text => exact (Python.truthy_eq_some.mp hvalue).2

/-! ## The snapshot path -/

section
variable {roles : Roles} {filters : Filters} {session : String × String}
  {prior : Option NeighborPoint} {window : List NeighborPoint}

/-- The snapshot path reports the story of the samples of a session. -/
theorem snapshotEvent_report (hdevice : admits filters.device session.1)
    (hpeer : admits filters.peer session.2)
    (hprior : ∀ sample ∈ prior, ∀ later ∈ window, sample.time ≤ later.time)
    (hwindow : window.Pairwise fun a b => a.time ≤ b.time) :
    (snapshotEvent roles filters session
        (prior.toList.map (.neighbor true) ++ window.map (.neighbor false))).map BgpEvent.report =
      story filters.state session (prior.map (·.read)) (window.map (·.read)) := by
  have hsort : sort snapshotTime
      (prior.toList.map (.neighbor true) ++ window.map (.neighbor false)) =
        prior.toList.map (.neighbor true) ++ window.map (.neighbor false) := by
    refine sort_eq_self (List.pairwise_append.mpr ⟨?_, List.pairwise_map.mpr hwindow, ?_⟩)
    · cases prior with
      | none => exact .nil
      | some sample => exact List.pairwise_singleton _ _
    · intro row hrow row' hrow'
      obtain ⟨sample, hsample, rfl⟩ := List.mem_map.mp hrow
      obtain ⟨later, hlater, rfl⟩ := List.mem_map.mp hrow'
      exact hprior sample (Option.mem_toList.mp hsample) later hlater
  have hpriorRows : (prior.toList.map (SnapshotRow.neighbor true) ++
      window.map (SnapshotRow.neighbor false)).filterMap (scopeSample true) = prior.toList := by
    simp [List.filterMap_append, List.filterMap_map, Function.comp_def, scopeSample]
  have hwindowRows : (prior.toList.map (SnapshotRow.neighbor true) ++
      window.map (SnapshotRow.neighbor false)).filterMap (scopeSample false) = window := by
    simp [List.filterMap_append, List.filterMap_map, Function.comp_def, scopeSample]
  have hlast : prior.toList.getLast? = prior := by cases prior <;> rfl
  have htruthy : Python.truthy (prior.map (·.read)) = prior.map (·.read) := by
    cases prior with
    | none => rfl
    | some sample => exact Python.truthy_some (readState_ne_empty _)
  unfold snapshotEvent
  rw [if_neg (not_not.mpr ⟨hdevice, hpeer⟩)]
  simp only [hsort, hpriorRows, hwindowRows, hlast, htruthy]
  cases hwindowLast : window.getLast? with
  | none =>
    rw [List.getLast?_eq_none_iff] at hwindowLast
    subst hwindowLast
    rfl
  | some lastRow =>
    obtain ⟨firstRow, hfirst⟩ : ∃ firstRow, window.head? = some firstRow := by
      cases window with
      | nil => cases hwindowLast
      | cons firstRow rest => exact ⟨firstRow, rfl⟩
    simp only [hfirst, story, List.getLast?_map, hwindowLast, Option.map_some, Option.bind_some,
      Option.map_map]
    rfl

/-! ## The indexed path -/

/-- The first and last state with the changes between them show the states of the window. -/
theorem fromkeys_changesFrom {before last : String} {seen : List String}
    {samples : List (Nat × String)} (hseen : before ∈ seen)
    (hlast : last = (samples.getLast?.map (·.2)).getD before) :
    Python.fromkeys seen ((changesFrom (some before) samples).map (·.2.2) ++ [last]) =
      Python.fromkeys seen (samples.map (·.2)) := by
  induction samples generalizing before seen with
  | nil =>
    rw [hlast]
    exact Python.fromkeys_of_subset fun item hitem => by rwa [List.mem_singleton.mp hitem]
  | cons sample rest ih =>
    have hlast : last = (rest.getLast?.map (·.2)).getD sample.2 := by
      rw [hlast]
      cases rest with
      | nil => rfl
      | cons next rest => rw [List.getLast?_cons_cons]; rfl
    rw [changesFrom, List.map_append, List.append_assoc, List.map_cons, changeTo]
    by_cases hchange : before = sample.2
    · rw [if_neg (not_not.mpr hchange)]
      rw [hchange] at hseen
      rw [List.map_nil, List.nil_append, ih hseen hlast, Python.fromkeys, if_pos hseen]
    · rw [if_pos hchange, List.map_cons, List.map_nil, List.singleton_append, Python.fromkeys,
        Python.fromkeys]
      split
      · rename_i hmem
        exact ih hmem hlast
      · rw [ih List.mem_cons_self hlast]

/-- The changes of a window, with the state before it, come to the pairs of consecutive states. -/
theorem exists_change_iff {P : String × String → Prop} (hP : ∀ value, ¬ P (value, value))
    (previous : Option String) (sample : Nat × String) (rest : List (Nat × String)) :
    (∃ change ∈ (previous.map fun before => (before, sample.2)).toList ++
        (changesFrom previous (sample :: rest)).map (·.2), P change) ↔
      ∃ change ∈ (previous.toList ++ sample.2 :: rest.map (·.2)).zip
        (previous.toList ++ sample.2 :: rest.map (·.2)).tail, P change := by
  have hrest := exists_mem_changesFrom_iff (P := fun a b => P (a, b)) hP sample.2 rest
  have hfirst : ∀ before, (∃ change ∈ changeTo (some before) sample.1 sample.2, P change.2) →
      P (before, sample.2) := by
    rintro before ⟨change, hchange, h⟩
    obtain ⟨before', hbefore, -, rfl⟩ := mem_changeTo.mp hchange
    cases hbefore
    exact h
  cases previous with
  | none =>
    simp only [Option.map_none, Option.toList_none, List.nil_append, changesFrom, changeTo,
      List.mem_map, List.tail_cons]
    refine Iff.trans ?_ hrest
    constructor
    · rintro ⟨_, ⟨change, hchange, rfl⟩, h⟩
      exact ⟨change, hchange, h⟩
    · rintro ⟨change, hchange, h⟩
      exact ⟨change.2, ⟨change, hchange, rfl⟩, h⟩
  | some before =>
    simp only [Option.map_some, Option.toList_some, changesFrom, List.map_append, List.mem_cons,
      List.mem_append, List.mem_map, List.cons_append, List.nil_append, List.tail_cons,
      List.zip_cons_cons]
    constructor
    · rintro ⟨_, rfl | ⟨change, hchange, rfl⟩ | ⟨change, hchange, rfl⟩, h⟩
      · exact ⟨_, .inl rfl, h⟩
      · exact ⟨_, .inl rfl, hfirst before ⟨change, hchange, h⟩⟩
      · obtain ⟨pair, hpair, h⟩ := hrest.mp ⟨change, hchange, h⟩
        exact ⟨pair, .inr hpair, h⟩
    · rintro ⟨pair, rfl | hpair, h⟩
      · exact ⟨_, .inl rfl, h⟩
      · obtain ⟨change, hchange, h⟩ := hrest.mpr ⟨pair, hpair, h⟩
        exact ⟨change.2, .inr (.inr ⟨change, hchange, rfl⟩), h⟩

/-- What the queries of the indexed path leave of a session. -/
structure FastSession.Of (record : FastSession) (prior : Option NeighborPoint)
    (window : List NeighborPoint) (transitions : List TransitionPoint) : Prop where
  transitions : sort TransitionPoint.time record.transitions = transitions
  firstState : record.firstState = window.head?
  lastState : record.lastState = window.getLast?
  priorState : record.priorState = prior

/-- The transitions of a window are the changes of its samples. -/
def AreChanges (transitions : List TransitionPoint) (prior : Option NeighborPoint)
    (window : List NeighborPoint) : Prop :=
  transitions.map (fun point => (point.time, point.readPrevious, point.readLatest)) =
    changesFrom (prior.map (·.read)) (window.map fun sample => (sample.time, sample.read))

/-- Every transition has the time and the state of a sample. -/
theorem AreChanges.exists_sample {transitions : List TransitionPoint}
    (h : AreChanges transitions prior window) {point : TransitionPoint}
    (hpoint : point ∈ transitions) :
    ∃ sample ∈ window, sample.time = point.time ∧ sample.read = point.readLatest := by
  have hmem : (point.time, point.readPrevious, point.readLatest) ∈
      changesFrom (prior.map (·.read)) (window.map fun sample => (sample.time, sample.read)) := by
    rw [← h]
    exact List.mem_map_of_mem hpoint
  obtain ⟨sample, hsample, heq⟩ := List.mem_map.mp (exists_sample_of_mem_changesFrom hmem)
  exact ⟨sample, hsample, congrArg Prod.fst heq, congrArg Prod.snd heq⟩

theorem time_le_getLast {sample lastRow : NeighborPoint}
    (hwindow : window.Pairwise fun a b => a.time < b.time) (hsample : sample ∈ window)
    (hlast : window.getLast? = some lastRow) : sample.time ≤ lastRow.time := by
  obtain ⟨earlier, rfl⟩ := List.getLast?_eq_some_iff.mp hlast
  rcases List.mem_append.mp hsample with hsample | hsample
  · exact ((List.pairwise_append.mp hwindow).2.2 sample hsample lastRow List.mem_cons_self).le
  · rw [List.mem_singleton.mp hsample]

/-- A transition that supersedes the last sample ends in its state. -/
theorem AreChanges.latest_eq {transitions : List TransitionPoint} {lastRow : NeighborPoint}
    (h : AreChanges transitions prior window)
    (hwindow : window.Pairwise fun a b => a.time < b.time)
    (hlast : window.getLast? = some lastRow) :
    ((transitions.getLast?.filter fun point =>
        ((some lastRow).map (·.time)).all (· ≤ point.time)).map (·.readLatest)).or
      ((some lastRow).map (·.read)) = some lastRow.read := by
  cases hfilter : transitions.getLast?.filter fun point =>
      ((some lastRow).map (·.time)).all (· ≤ point.time) with
  | none => rfl
  | some point =>
    obtain ⟨hpoint, htime⟩ := Option.filter_eq_some_iff.mp hfilter
    obtain ⟨sample, hsample, hsampleTime, hread⟩ := h.exists_sample (List.mem_of_getLast? hpoint)
    have hle := time_le_getLast hwindow hsample hlast
    have htime : lastRow.time ≤ point.time := by simpa using htime
    have heq : sample = lastRow :=
      eq_of_time_eq hwindow hsample (List.mem_of_getLast? hlast) (by omega)
    rw [heq] at hread
    rw [hread]
    rfl

/-- The timeline of a session is in order. -/
theorem AreChanges.sort_timeline {transitions : List TransitionPoint}
    {firstRow lastRow : NeighborPoint} {rest : List NeighborPoint}
    (h : AreChanges transitions prior (firstRow :: rest))
    (hwindow : (firstRow :: rest).Pairwise fun a b => a.time < b.time)
    (hlast : (firstRow :: rest).getLast? = some lastRow) :
    sort Prod.fst ((firstRow.time, firstRow.read) ::
        (transitions.map (fun point => (point.time, point.readLatest)) ++
          [(lastRow.time, lastRow.read)])) =
      (firstRow.time, firstRow.read) ::
        (transitions.map (fun point => (point.time, point.readLatest)) ++
          [(lastRow.time, lastRow.read)]) := by
  have hfirst : ∀ sample ∈ firstRow :: rest, firstRow.time ≤ sample.time := by
    intro sample hsample
    rcases List.mem_cons.mp hsample with rfl | hsample
    · exact Nat.le_refl _
    · exact ((List.pairwise_cons.mp hwindow).1 sample hsample).le
  have hsorted : transitions.Pairwise fun a b => a.time ≤ b.time := by
    have hpairs : ((firstRow :: rest).map fun sample => (sample.time, sample.read)).Pairwise
        fun a b => a.1 < b.1 := List.pairwise_map.mpr hwindow
    have hchanges := changesFrom_pairwise (prior.map (·.read)) hpairs
    rw [← h] at hchanges
    exact (List.pairwise_map.mp hchanges).imp Nat.le_of_lt
  refine sort_eq_self (List.pairwise_cons.mpr ⟨?_, List.pairwise_append.mpr
    ⟨List.pairwise_map.mpr hsorted, List.pairwise_singleton _ _, ?_⟩⟩)
  · intro entry hentry
    rcases List.mem_append.mp hentry with hentry | hentry
    · obtain ⟨point, hpoint, rfl⟩ := List.mem_map.mp hentry
      obtain ⟨sample, hsample, htime, -⟩ := h.exists_sample hpoint
      rw [← htime]
      exact hfirst sample hsample
    · rw [List.mem_singleton.mp hentry]
      exact hfirst lastRow (List.mem_of_getLast? hlast)
  · intro entry hentry entry' hentry'
    obtain ⟨point, hpoint, rfl⟩ := List.mem_map.mp hentry
    obtain ⟨sample, hsample, htime, -⟩ := h.exists_sample hpoint
    rw [List.mem_singleton.mp hentry', ← htime]
    exact time_le_getLast hwindow hsample hlast

/-- The timeline shows the states of the window. -/
theorem AreChanges.fromkeys_timeline {transitions : List TransitionPoint}
    {firstRow lastRow : NeighborPoint} {rest : List NeighborPoint}
    (h : AreChanges transitions prior (firstRow :: rest))
    (hlast : (firstRow :: rest).getLast? = some lastRow) :
    Python.fromkeys [] (firstRow.read ::
        (transitions.map (·.readLatest) ++ [lastRow.read])) =
      Python.fromkeys [] ((firstRow :: rest).map (·.read)) := by
  have hlatest : transitions.map (·.readLatest) =
      (changeTo (prior.map (·.read)) firstRow.time firstRow.read).map (·.2.2) ++
        (changesFrom (some firstRow.read)
          (rest.map fun sample => (sample.time, sample.read))).map (·.2.2) := by
    rw [← List.map_append]
    calc transitions.map (·.readLatest) = (transitions.map fun point =>
          (point.time, point.readPrevious, point.readLatest)).map (·.2.2) := by
          rw [List.map_map]; rfl
      _ = _ := by rw [h]; rfl
  have hfirst : ∀ items, Python.fromkeys [firstRow.read]
      ((changeTo (prior.map (·.read)) firstRow.time firstRow.read).map (·.2.2) ++ items) =
        Python.fromkeys [firstRow.read] items := by
    intro items
    cases prior with
    | none => rfl
    | some sample =>
      rw [Option.map_some, changeTo]
      split
      · rw [List.map_cons, List.map_nil, List.singleton_append, Python.fromkeys,
          if_pos List.mem_cons_self]
      · rfl
  have hrest : lastRow.read =
      ((rest.map fun sample => (sample.time, sample.read)).getLast?.map (·.2)).getD firstRow.read := by
    cases rest with
    | nil =>
      cases hlast
      rfl
    | cons next rest =>
      rw [List.getLast?_cons_cons] at hlast
      rw [List.getLast?_map, hlast]
      rfl
  rw [Python.fromkeys, if_neg List.not_mem_nil, hlatest, List.append_assoc, hfirst,
    fromkeys_changesFrom List.mem_cons_self hrest, List.map_cons, Python.fromkeys,
    if_neg List.not_mem_nil, List.map_map]
  rfl

/-- The indexed path reports the same story, from the changes among the samples. -/
theorem fastEvent_report {record : FastSession} {transitions : List TransitionPoint}
    (hrecord : record.Of prior window transitions)
    (hprior : ∀ sample ∈ prior, Python.upper sample.sessionState = sample.read)
    (hwindow : window.Pairwise fun a b => a.time < b.time)
    (hchanges : AreChanges transitions prior window) :
    (fastEvent roles filters session record).map BgpEvent.report =
      story filters.state session (prior.map (·.read)) (window.map (·.read)) := by
  unfold fastEvent
  rw [hrecord.transitions, hrecord.firstState, hrecord.lastState, hrecord.priorState]
  cases window with
  | nil =>
    have hnil : transitions = [] := List.map_eq_nil_iff.mp hchanges
    subst hnil
    rfl
  | cons firstRow rest =>
    obtain ⟨lastRow, hlast⟩ : ∃ lastRow, (firstRow :: rest).getLast? = some lastRow :=
      ⟨_, List.getLast?_eq_some_getLast (List.cons_ne_nil _ _)⟩
    have hupper : (prior.map fun point => Python.upper point.sessionState) =
        prior.map (·.read) := by
      cases prior with
      | none => rfl
      | some sample => exact congrArg some (hprior sample rfl)
    have hlatest := hchanges.latest_eq hwindow hlast
    have hfirst : ((some firstRow).map (·.read)).or (transitions.head?.map (·.readLatest)) =
        some firstRow.read := rfl
    have hobserved : Python.fromkeys [] ((sort Prod.fst
        (((some firstRow).map fun point => (point.time, firstRow.read)).toList ++
          transitions.map (fun transition => (transition.time, transition.readLatest)) ++
          ((some lastRow).map fun point => (point.time, point.read)).toList)).map Prod.snd) =
        Python.fromkeys [] ((firstRow :: rest).map (·.read)) := by
      rw [← hchanges.fromkeys_timeline hlast]
      simp only [Option.map_some, Option.toList_some, List.cons_append, List.nil_append,
        hchanges.sort_timeline hwindow hlast, List.map_cons, List.map_append, List.map_map,
        List.map_nil, Function.comp_def]
    have hne : Python.fromkeys [] ((firstRow :: rest).map (·.read)) ≠ [] := by
      rw [List.map_cons, Python.fromkeys, if_neg List.not_mem_nil]
      exact List.cons_ne_nil _ _
    rw [hlast, List.head?_cons]
    dsimp only
    rw [hlatest, hfirst]
    dsimp only
    rw [hobserved, if_neg hne, Python.fromkeys_fromkeys, hupper, story, List.getLast?_map, hlast]
    have hpairs : transitions.map (fun point => (point.readPrevious, point.readLatest)) =
        (changesFrom (prior.map (·.read)) ((firstRow.time, firstRow.read) ::
          rest.map fun sample => (sample.time, sample.read))).map (·.2) := by
      rw [← List.map_cons (f := fun sample : NeighborPoint => (sample.time, sample.read)),
        ← hchanges, List.map_map]
      rfl
    have hchange : ∀ P : String × String → Prop, (∀ value, ¬ P (value, value)) →
        ((∃ change ∈ ((prior.map (·.read)).map fun before => (before, firstRow.read)).toList ++
            transitions.map (fun point => (point.readPrevious, point.readLatest)), P change) ↔
          ∃ change ∈ ((prior.map (·.read)).toList ++ (firstRow :: rest).map (·.read)).zip
            ((prior.map (·.read)).toList ++ (firstRow :: rest).map (·.read)).tail, P change) := by
      intro P hP
      have hiff := exists_change_iff hP (prior.map (·.read)) (firstRow.time, firstRow.read)
        (rest.map fun sample => (sample.time, sample.read))
      rw [hpairs]
      rw [List.map_map] at hiff
      exact hiff
    have hstates : ∀ value, value ∈ Python.fromkeys [] ((firstRow :: rest).map (·.read)) ↔
        value ∈ (firstRow :: rest).map (·.read) := by simp
    rw [sessionEventType_congr (hchange (isDown · = true) fun value => by simp [isDown])
      (hchange (isRecovery · = true) fun value => by simp [isRecovery]) hstates, Option.map_map]
    rfl

end

end NetOpsBench.Bgp
