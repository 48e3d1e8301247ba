import NetOpsBench.Bgp.History
import NetOpsBench.Bgp.Spool
import NetOpsBench.Bgp.Story

/-!
# The indexed path agrees with the snapshot path

Over the store of a history, both paths tell the same story of every session, as long as the state
before the window is no older than the lookback.

`bgp_paths_agree` is the agreement, for every history, scope and filter: the reports of the events are
the same set. Each path is shown to report the `story` of a session, the snapshot path from its samples
(`snapshotSession_report`) and the indexed path from what its queries return (`fastSession_report`);
`fastGaps_report` and `snapshotGaps_report` do the same for devices without telemetry.
`bgp_paths_disagree` is a session that was last sampled before the lookback.
-/

namespace NetOpsBench.Bgp
open Flux

/-! ## The rows of one session -/

section
variable (store : Store) (scope : Scope) (session : String × String)

/-- The last sample before the window that the queries read. -/
def priorSample : Option NeighborPoint :=
  (range NeighborPoint.time scope.lookback scope.start (store.samples session)).getLast?

def windowSamples : List NeighborPoint :=
  range NeighborPoint.time scope.start scope.stop (store.samples session)

def windowChanges : List TransitionPoint :=
  range TransitionPoint.time scope.start scope.stop (store.transitionsOf session)

/-- The report on a session, told from its samples. -/
def sessionReport (filters : Filters) : Option EventReport :=
  story filters.state session ((priorSample store scope session).map (·.read))
    ((windowSamples store scope session).map (·.read))

/-- The last sample before the window, of a session that has one, is within the lookback. -/
def Store.Fresh : Prop :=
  ∀ session, ∀ sample ∈ store.samples session, sample.time < scope.start →
    ∃ later ∈ store.samples session, scope.lookback ≤ later.time ∧ later.time < scope.start

end

/-- A session that both event builders look at. -/
structure Admitted (roles : Roles) (filters : Filters) (session : String × String) : Prop where
  source : admitsSource roles filters session.1
  neighbor : session.2 ≠ ""
  device : admits filters.device session.1
  peer : admits filters.peer session.2

theorem Admitted.source_ne {roles : Roles} {filters : Filters} {session : String × String}
    (h : Admitted roles filters session) : session.1 ≠ "" := by
  have hsource := h.source
  rw [admitsSource, Bool.and_eq_true, decide_eq_true_eq] at hsource
  exact hsource.1

/-- The queries read every source that the event builders look at. -/
theorem mem_selectedDevices {roles : Roles} {filters : Filters} {source : String}
    (hsource : admitsSource roles filters source) (hdevice : admits filters.device source) :
    source ∈ selectedDevices roles filters := by
  rw [admitsSource, Bool.and_eq_true] at hsource
  cases hrole : roles.lookup source with
  | none =>
    rw [hrole] at hsource
    cases hsource.2
  | some role =>
    rw [hrole] at hsource
    refine List.mem_filterMap.mpr ⟨⟨source, role⟩, AList.mem_lookup_iff.mp hrole, ?_⟩
    exact if_pos ⟨hdevice, hsource.2⟩

/-- The queries select the sessions that the builders look at. -/
theorem Admitted.selected {roles : Roles} {filters : Filters} {session : String × String}
    (h : Admitted roles filters session) : sessionFilter roles filters session := by
  rw [sessionFilter, deviceFilter, h.device, h.peer, Bool.true_and, Bool.and_true]
  split
  · exact decide_eq_true (mem_selectedDevices h.source h.device)
  · rfl

section
variable {store : Store} {scope : Scope} {session : String × String} {roles : Roles}
  {filters : Filters}

theorem Store.Coherent.transitions_pairwise (hstore : store.Coherent)
    (session : String × String) :
    (store.transitionsOf session).Pairwise fun a b => a.time < b.time := by
  have hsamples : ((store.samples session).map fun sample => (sample.time, sample.read)).Pairwise
      fun a b => a.1 < b.1 := List.pairwise_map.mpr (hstore.samples session)
  have hchanges := changesFrom_pairwise none hsamples
  rw [← hstore.transitions, List.pairwise_map] at hchanges
  exact hchanges

theorem windowSamples_pairwise (hstore : store.Coherent) :
    (windowSamples store scope session).Pairwise fun a b => a.time < b.time :=
  (hstore.samples session).filter _

theorem mem_of_priorSample {sample : NeighborPoint}
    (h : priorSample store scope session = some sample) :
    sample ∈ store.samples session ∧ scope.lookback ≤ sample.time ∧ sample.time < scope.start := by
  have hmem := List.mem_of_getLast? h
  rw [range, List.mem_filter, decide_eq_true_eq] at hmem
  exact hmem

theorem mem_windowSamples {sample : NeighborPoint} :
    sample ∈ windowSamples store scope session ↔ sample ∈ store.samples session ∧
      scope.start ≤ sample.time ∧ sample.time < scope.stop := by
  rw [windowSamples, range, List.mem_filter, decide_eq_true_eq]

/-- What a query returns of a session, in the order of time, are its samples of the window. -/
theorem sort_windowNeighbors (hstore : store.Coherent) {select : String × String → Bool}
    (hselect : select session) :
    sort NeighborPoint.time ((windowNeighbors store scope select).filter (·.session = session)) =
      windowSamples store scope session :=
  sort_select (hstore.samples session) hselect _ _

/-- The last point before the window that a query returns is the prior sample of the session. -/
theorem last_priorNeighbors (hstore : store.Coherent) {select : String × String → Bool}
    (hselect : select session) :
    last NeighborPoint.time ((priorNeighbors store scope select).filter (·.session = session)) =
      priorSample store scope session := by
  rw [last]
  exact congrArg List.getLast? (sort_select (hstore.samples session) hselect _ _)

/-- The transitions that a query returns of a session are its changes within the window. -/
theorem sort_windowTransitions (hstore : store.Coherent) {select : String × String → Bool}
    (hselect : select session) :
    sort TransitionPoint.time ((windowTransitions store scope select).filter (·.session = session)) =
      windowChanges store scope session :=
  sort_select (hstore.transitions_pairwise session) hselect _ _

/-- The state of a fresh session before the window is that of its prior sample. -/
theorem stateAfter_eq_prior (hstore : store.Coherent) (hfresh : store.Fresh scope) :
    stateAfter none (((store.samples session).map fun sample => (sample.time, sample.read)).filter
        (·.1 < scope.start)) =
      (priorSample store scope session).map (·.read) := by
  rw [stateAfter_none, List.filter_map, List.getLast?_map, Option.map_map]
  have hlast : ((store.samples session).filter (·.time < scope.start)).getLast? =
      priorSample store scope session := by
    cases hbefore : ((store.samples session).filter (·.time < scope.start)).getLast? with
    | none =>
      rw [List.getLast?_eq_none_iff, List.filter_eq_nil_iff] at hbefore
      cases hprior : priorSample store scope session with
      | none => rfl
      | some sample =>
        obtain ⟨hsample, -, hstart⟩ := mem_of_priorSample hprior
        exact absurd (decide_eq_true hstart) (hbefore sample hsample)
    | some sample =>
      obtain ⟨earlier, hsplit⟩ := List.getLast?_eq_some_iff.mp hbefore
      have hmem : sample ∈ (store.samples session).filter (·.time < scope.start) :=
        List.mem_of_getLast? hbefore
      rw [List.mem_filter, decide_eq_true_eq] at hmem
      have hlookback : scope.lookback ≤ sample.time := by
        obtain ⟨later, hlater, hlookback, hstart⟩ := hfresh session sample hmem.1 hmem.2
        have hlater : later ∈ (store.samples session).filter (·.time < scope.start) :=
          List.mem_filter.mpr ⟨hlater, decide_eq_true hstart⟩
        exact hlookback.trans (time_le_getLast ((hstore.samples session).filter _) hlater hbefore)
      have hrange : range NeighborPoint.time scope.lookback scope.start (store.samples session) =
          ((store.samples session).filter (·.time < scope.start)).filter
            (scope.lookback ≤ ·.time) := by
        rw [List.filter_filter]
        refine List.filter_congr fun row _ => ?_
        rw [← Bool.decide_and]
      rw [priorSample, hrange, hsplit, List.filter_append, List.filter_cons,
        if_pos (decide_eq_true hlookback), List.filter_nil, List.getLast?_concat]
  rw [← hlast]
  rfl

/-- With a fresh state before it, the transitions of a window are the changes of its samples. -/
theorem areChanges_window (hstore : store.Coherent) (hfresh : store.Fresh scope) :
    AreChanges (windowChanges store scope session) (priorSample store scope session)
      (windowSamples store scope session) := by
  have hsamples : ((store.samples session).map fun sample => (sample.time, sample.read)).Pairwise
      fun a b => a.1 < b.1 := List.pairwise_map.mpr (hstore.samples session)
  have hchanges : range (·.1) scope.start scope.stop (changesFrom none _) = _ :=
    range_changesFrom none hsamples
  rw [← hstore.transitions, range_map, range_map, stateAfter_eq_prior hstore hfresh] at hchanges
  exact hchanges

/-! ## The snapshot path -/

/-- The rows that the snapshot path groups under a session are the points of the session. -/
theorem snapshotSession_neighbor_iff (hsource : admitsSource roles filters session.1)
    (hneighbor : session.2 ≠ "") (scopePrior : Bool) (point : NeighborPoint) :
    snapshotSession roles filters (.neighbor scopePrior point) = some session ↔
      point.session = session := by
  rw [snapshotSession, Option.ite_none_right_eq_some, Option.some.injEq]
  constructor
  · exact And.right
  · rintro rfl
    exact ⟨⟨hsource, hneighbor⟩, rfl⟩

theorem snapshotSession_eq_some {row : SnapshotRow}
    (h : snapshotSession roles filters row = some session) :
    admitsSource roles filters session.1 ∧ session.2 ≠ "" := by
  cases row with
  | neighbor scopePrior point =>
    rw [snapshotSession, Option.ite_none_right_eq_some, Option.some.injEq] at h
    obtain ⟨hadmits, rfl⟩ := h
    exact hadmits
  | collection point => cases h

theorem snapshotRows_filter (hsource : admitsSource roles filters session.1)
    (hneighbor : session.2 ≠ "") :
    (queryBgpEventSnapshotRows store roles filters scope).filter
        (snapshotSession roles filters · = some session) =
      ((last NeighborPoint.time ((priorNeighbors store scope (sessionFilter roles filters)).filter
          (·.session = session))).toList.map (.neighbor true)) ++
        (sort NeighborPoint.time ((windowNeighbors store scope
          (sessionFilter roles filters)).filter (·.session = session))).map (.neighbor false) := by
  have hcollections : ∀ points : List CollectionPoint,
      (points.map SnapshotRow.collection).filter (snapshotSession roles filters · = some session) =
        [] := by
    intro points
    rw [List.filter_eq_nil_iff]
    intro row hrow hsession
    obtain ⟨point, -, rfl⟩ := List.mem_map.mp hrow
    exact absurd (of_decide_eq_true hsession) nofun
  rw [queryBgpEventSnapshotRows, List.filter_append, List.filter_append, List.filter_map,
    List.filter_map, hcollections, List.append_nil]
  congr 2
  · refine filter_flatMap_group (fun session' table htable point hpoint => ?_) rfl _
    rw [snapshotSession_neighbor_iff hsource hneighbor, htable point (mem_of_last hpoint)]
  · refine filter_flatMap_group (fun session' table htable point hpoint => ?_) rfl _
    rw [snapshotSession_neighbor_iff hsource hneighbor, htable point (mem_sort.mp hpoint)]

/-- The snapshot path reports what the samples of a session tell. -/
theorem snapshotSession_report (hstore : store.Coherent) (report : EventReport) :
    (∃ samples event,
      (Dict.accumulate (snapshotSession roles filters) (fun samples row => samples ++ [row]) []
        (queryBgpEventSnapshotRows store roles filters scope)).lookup session = some samples ∧
      snapshotEvent roles filters session samples = some event ∧ event.report = report) ↔
      Admitted roles filters session ∧
        sessionReport store scope session filters = some report := by
  have htold (hadmitted : Admitted roles filters session) :
      (snapshotEvent roles filters session ((queryBgpEventSnapshotRows store roles filters
        scope).filter (snapshotSession roles filters · = some session))).map BgpEvent.report =
        sessionReport store scope session filters := by
    rw [snapshotRows_filter hadmitted.source hadmitted.neighbor,
      sort_windowNeighbors hstore hadmitted.selected, last_priorNeighbors hstore hadmitted.selected,
      snapshotEvent_report hadmitted.device hadmitted.peer]
    · rfl
    · intro sample hsample later hlater
      exact (mem_of_priorSample hsample).2.2.le.trans (mem_windowSamples.mp hlater).2.1
    · exact (windowSamples_pairwise hstore).imp Nat.le_of_lt
  rw [Dict.lookup_accumulate_append]
  constructor
  · rintro ⟨samples, event, hsamples, hevent, rfl⟩
    rw [Option.ite_none_left_eq_some, Option.some.injEq] at hsamples
    obtain ⟨hne, rfl⟩ := hsamples
    obtain ⟨row, hrow⟩ := List.exists_mem_of_ne_nil _ hne
    obtain ⟨hsource, hneighbor⟩ :=
      snapshotSession_eq_some (of_decide_eq_true (List.mem_filter.mp hrow).2)
    have hfilters : admits filters.device session.1 ∧ admits filters.peer session.2 := by
      by_contra hfilters
      rw [snapshotEvent, if_pos hfilters] at hevent
      cases hevent
    have hadmitted : Admitted roles filters session :=
      ⟨hsource, hneighbor, hfilters.1, hfilters.2⟩
    refine ⟨hadmitted, ?_⟩
    rw [← htold hadmitted, hevent, Option.map_some]
  · rintro ⟨hadmitted, hreport⟩
    rw [← htold hadmitted, Option.map_eq_some_iff] at hreport
    obtain ⟨event, hevent, rfl⟩ := hreport
    refine ⟨_, event, if_neg fun hnil => ?_, hevent, rfl⟩
    rw [hnil] at hevent
    simp [snapshotEvent] at hevent

/-! ## The indexed path -/

/-- The rows that the indexed path groups under a session are those that belong to it. -/
theorem fastSession_iff (hadmitted : Admitted roles filters session) {row : FastRow}
    {session' : String × String} (hrow : row.session = some session') :
    fastSession roles filters row = some session ↔ session' = session := by
  rw [fastSession, hrow, Option.filter_eq_some_iff, Option.some.injEq]
  constructor
  · exact And.left
  · rintro rfl
    exact ⟨rfl, decide_eq_true
      ⟨hadmitted.source, hadmitted.neighbor, hadmitted.device, hadmitted.peer⟩⟩

theorem session_of_fastSession {row : FastRow} (h : fastSession roles filters row = some session) :
    row.session = some session ∧ Admitted roles filters session := by
  rw [fastSession, Option.filter_eq_some_iff, decide_eq_true_eq] at h
  obtain ⟨hsession, hsource, hneighbor, hdevice, hpeer⟩ := h
  exact ⟨hsession, hsource, hneighbor, hdevice, hpeer⟩

def FastRow.sessionEvent? : FastRow → Option TransitionPoint
  | sessionEvents point => some point
  | _ => none

def FastRow.firstState? : FastRow → Option NeighborPoint
  | firstState point => some point
  | _ => none

def FastRow.lastState? : FastRow → Option NeighborPoint
  | lastState point => some point
  | _ => none

def FastRow.priorState? : FastRow → Option NeighborPoint
  | priorState point => some point
  | _ => none

theorem foldl_add_transitions (rows : List FastRow) (record : FastSession) :
    (rows.foldl FastSession.add record).transitions =
      record.transitions ++ rows.filterMap FastRow.sessionEvent? := by
  induction rows generalizing record with
  | nil => exact (List.append_nil _).symm
  | cons row rows ih =>
    rw [List.foldl_cons, ih]
    cases row with
    | sessionEvents point => exact List.append_assoc _ [point] _
    | _ => rfl

theorem session_of_windowDetails {table : List NeighborPoint}
    (htable : ∀ point ∈ table, point.session = session) {row : FastRow}
    (h : row ∈ windowDetails table) : row.session = some session := by
  have hlast : ∀ (p : NeighborPoint → Bool), ∀ point ∈
      (last NeighborPoint.time (table.filter p)).toList, point.session = session := by
    intro p point hpoint
    exact htable point (List.mem_filter.mp (mem_of_last hpoint)).1
  simp only [windowDetails, List.mem_append, List.mem_map] at h
  rcases h with (((⟨point, hpoint, rfl⟩ | ⟨point, hpoint, rfl⟩) | h) | ⟨point, hpoint, rfl⟩) |
    ⟨point, hpoint, rfl⟩
  · exact congrArg some (htable point (mem_of_first hpoint))
  · exact congrArg some (htable point (mem_of_last hpoint))
  · rw [Option.mem_toList, Option.map_eq_some_iff] at h
    obtain ⟨point, hpoint, rfl⟩ := h
    exact congrArg some (htable point (List.mem_of_head? hpoint))
  · exact congrArg some (hlast _ point hpoint)
  · exact congrArg some (hlast _ point hpoint)

theorem session_of_priorDetails {table : List NeighborPoint}
    (htable : ∀ point ∈ table, point.session = session) {row : FastRow}
    (h : row ∈ priorDetails table) : row.session = some session := by
  rcases List.mem_append.mp h with h | h
  · obtain ⟨point, hpoint, rfl⟩ := List.mem_map.mp h
    exact congrArg some (htable point (mem_of_last hpoint))
  · obtain ⟨point, hpoint, rfl⟩ := List.mem_map.mp h
    exact congrArg some (htable point (List.mem_filter.mp (mem_of_last hpoint)).1)

/-- Of the detail rows, those of a session are made of the points of the session alone. -/
theorem detailRows_filter (hadmitted : Admitted roles filters session)
    (select : String × String → Bool) :
    (detailRows store scope select).filter (fastSession roles filters · = some session) =
      windowDetails ((windowNeighbors store scope select).filter (·.session = session)) ++
        priorDetails ((priorNeighbors store scope select).filter (·.session = session)) := by
  rw [detailRows, List.filter_append]
  congr 1
  · refine filter_flatMap_group (fun session' table htable row hrow => ?_) rfl _
    exact fastSession_iff hadmitted (session_of_windowDetails htable hrow)
  · refine filter_flatMap_group (fun session' table htable row hrow => ?_) rfl _
    exact fastSession_iff hadmitted (session_of_priorDetails htable hrow)

theorem windowDetails_filterMap (table : List NeighborPoint) :
    (windowDetails table).filterMap FastRow.firstState? = (first NeighborPoint.time table).toList ∧
      (windowDetails table).filterMap FastRow.lastState? = (last NeighborPoint.time table).toList ∧
      (windowDetails table).filterMap FastRow.priorState? = [] ∧
      (windowDetails table).filterMap FastRow.sessionEvent? = [] := by
  have hcount : ∀ {α : Type} (pick : FastRow → Option α),
      (∀ session value, pick (.stateCount session value) = none) →
      (table.head?.map fun point => FastRow.stateCount point.session table.length).toList.filterMap
        pick = [] := by
    intro α pick hpick
    cases table with
    | nil => rfl
    | cons point table => simp [hpick]
  refine ⟨?_, ?_, ?_, ?_⟩ <;>
  · rw [windowDetails, List.filterMap_append, List.filterMap_append, List.filterMap_append,
      List.filterMap_append, hcount _ fun _ _ => rfl]
    simp [List.filterMap_map, Function.comp_def, FastRow.firstState?, FastRow.lastState?,
      FastRow.priorState?, FastRow.sessionEvent?]

theorem priorDetails_filterMap (table : List NeighborPoint) :
    (priorDetails table).filterMap FastRow.firstState? = [] ∧
      (priorDetails table).filterMap FastRow.lastState? = [] ∧
      (priorDetails table).filterMap FastRow.priorState? = (last NeighborPoint.time table).toList ∧
      (priorDetails table).filterMap FastRow.sessionEvent? = [] := by
  refine ⟨?_, ?_, ?_, ?_⟩ <;>
  simp [priorDetails, List.filterMap_map, Function.comp_def, FastRow.firstState?,
    FastRow.lastState?, FastRow.priorState?, FastRow.sessionEvent?]

theorem mem_discoveryRows_cases {row : FastRow}
    (h : row ∈ discoveryRows store roles filters scope) :
    (∃ point, row = .sessionEvents point) ∨ (∃ point, row = .nonEstablishedSample point) ∨
      row.session = none := by
  simp only [discoveryRows, List.mem_append, List.mem_map, List.mem_flatMap, Option.mem_toList,
    Option.map_eq_some_iff] at h
  rcases h with (((⟨point, -, rfl⟩ | ⟨point, -, rfl⟩) | ⟨point, -, rfl⟩) | ⟨point, -, rfl⟩) |
    ⟨table, -, point, -, rfl⟩
  · exact .inl ⟨point, rfl⟩
  · exact .inr (.inl ⟨point, rfl⟩)
  · exact .inr (.inr rfl)
  · exact .inr (.inr rfl)
  · exact .inr (.inr rfl)

/-- A discovery row that belongs to a session makes it a candidate. -/
theorem candidate_of_session (hadmitted : Admitted roles filters session) {row : FastRow}
    (h : row ∈ discoveryRows store roles filters scope) (hrow : row.session = some session) :
    candidate row = some session := by
  have hsession : session.1 ≠ "" ∧ session.2 ≠ "" := ⟨hadmitted.source_ne, hadmitted.neighbor⟩
  rcases mem_discoveryRows_cases h with ⟨point, rfl⟩ | ⟨point, rfl⟩ | hnone
  · cases hrow
    exact if_pos hsession
  · cases hrow
    exact if_pos hsession
  · rw [hrow] at hnone
    cases hnone

theorem discoveryRows_filterMap {pick : FastRow → Option NeighborPoint}
    (hpick : ∀ row : FastRow, row.session = none → pick row = none)
    (hevents : ∀ point, pick (.sessionEvents point) = none)
    (hsamples : ∀ point, pick (.nonEstablishedSample point) = none) (p : FastRow → Bool) :
    ((discoveryRows store roles filters scope).filter p).filterMap pick = [] := by
  rw [List.filterMap_eq_nil_iff]
  intro row hrow
  rcases mem_discoveryRows_cases (List.mem_filter.mp hrow).1 with ⟨point, rfl⟩ | ⟨point, rfl⟩ | hnone
  · exact hevents point
  · exact hsamples point
  · exact hpick row hnone

/-- The discovery query returns every transition of a session once. -/
theorem discoveryRows_transitions (hadmitted : Admitted roles filters session) :
    (((discoveryRows store roles filters scope).filter
        (fastSession roles filters · = some session)).filterMap FastRow.sessionEvent?).Perm
      ((windowTransitions store scope (sessionFilter roles filters)).filter (·.session = session)) := by
  have hnil : ∀ (rows : List FastRow), (∀ row ∈ rows, row.sessionEvent? = none) →
      (rows.filter (fastSession roles filters · = some session)).filterMap
        FastRow.sessionEvent? = [] := by
    intro rows hrows
    rw [List.filterMap_eq_nil_iff]
    exact fun row hrow => hrows row (List.mem_filter.mp hrow).1
  have hevents : ∀ points : List TransitionPoint,
      ((points.map FastRow.sessionEvents).filter
          (fastSession roles filters · = some session)).filterMap FastRow.sessionEvent? =
        points.filter (·.session = session) := by
    intro points
    rw [List.filter_map, List.filterMap_map]
    have hpick : FastRow.sessionEvent? ∘ FastRow.sessionEvents = some := rfl
    rw [hpick, List.filterMap_some]
    refine List.filter_congr fun point _ => ?_
    exact decide_eq_decide.mpr (fastSession_iff hadmitted rfl)
  simp only [discoveryRows, List.filter_append, List.filterMap_append]
  rw [hevents, hnil, hnil, hnil, hnil, List.append_nil, List.append_nil, List.append_nil,
    List.append_nil]
  · exact (flatMap_group_sort_perm _ _ _).filter _
  all_goals
    intro row hrow
    simp only [List.mem_map, List.mem_flatMap, Option.mem_toList, Option.map_eq_some_iff] at hrow
  · obtain ⟨table, -, point, -, rfl⟩ := hrow
    rfl
  · obtain ⟨point, -, rfl⟩ := hrow
    rfl
  · obtain ⟨point, -, rfl⟩ := hrow
    rfl
  · obtain ⟨point, -, rfl⟩ := hrow
    rfl

/-! ### Sessions that the indexed path leaves out -/

/-- A session that changed within the window is a candidate. -/
theorem mem_candidates_of_change (hstore : store.Coherent)
    (hadmitted : Admitted roles filters session) {point : TransitionPoint}
    (h : point ∈ windowChanges store scope session) :
    session ∈ (discoveryRows store roles filters scope).filterMap candidate := by
  rw [← sort_windowTransitions hstore hadmitted.selected, mem_sort, List.mem_filter,
    decide_eq_true_eq] at h
  obtain ⟨hpoint, rfl⟩ := h
  have hrow : FastRow.sessionEvents point ∈ discoveryRows store roles filters scope := by
    simp only [discoveryRows, List.mem_append]
    exact .inl (.inl (.inl (.inl (List.mem_map_of_mem
      ((flatMap_group_sort_perm _ _ _).mem_iff.mpr hpoint)))))
  exact List.mem_filterMap.mpr ⟨_, hrow, candidate_of_session hadmitted hrow rfl⟩

/-- A session with a sample that is not established is a candidate. -/
theorem mem_candidates_of_sample (hstore : store.Coherent)
    (hadmitted : Admitted roles filters session) {sample : NeighborPoint}
    (h : sample ∈ windowSamples store scope session) (hstate : sample.sessionState ≠ "ESTABLISHED") :
    session ∈ (discoveryRows store roles filters scope).filterMap candidate := by
  rw [← sort_windowNeighbors hstore hadmitted.selected, mem_sort, List.mem_filter,
    decide_eq_true_eq] at h
  obtain ⟨hsample, rfl⟩ := h
  have hrow : FastRow.nonEstablishedSample sample ∈ discoveryRows store roles filters scope := by
    simp only [discoveryRows, List.mem_append]
    exact .inl (.inl (.inl (.inr (List.mem_map_of_mem
      (List.mem_filter.mpr ⟨hsample, decide_eq_true hstate⟩)))))
  exact List.mem_filterMap.mpr ⟨_, hrow, candidate_of_session hadmitted hrow rfl⟩

/-- A session that stays established is not worth a report, unless all are. -/
theorem story_eq_none {state : StateFilter} {prior : Option NeighborPoint}
    {window : List NeighborPoint} (hstate : state ≠ .all) (hchanges : AreChanges [] prior window)
    (hwindow : ∀ sample ∈ window, sample.read = "ESTABLISHED") :
    story state session (prior.map (·.read)) (window.map (·.read)) = none := by
  cases window with
  | nil => rfl
  | cons firstRow rest =>
    have hprior : ∀ value ∈ prior.map (·.read), value = "ESTABLISHED" := by
      intro value hvalue
      rw [AreChanges, List.map_nil, List.map_cons, changesFrom, hvalue, eq_comm,
        List.append_eq_nil_iff] at hchanges
      have hsame : value = firstRow.read := by
        by_contra hne
        rw [changeTo, if_pos hne] at hchanges
        cases hchanges.1
      rw [hsame]
      exact hwindow firstRow List.mem_cons_self
    have hstates : ∀ value ∈ (firstRow :: rest).map (·.read), value = "ESTABLISHED" := by
      intro value hvalue
      obtain ⟨sample, hsample, rfl⟩ := List.mem_map.mp hvalue
      exact hwindow sample hsample
    have hall : ∀ value ∈ (prior.map (·.read)).toList ++ (firstRow :: rest).map (·.read),
        value = "ESTABLISHED" := by
      intro value hvalue
      rcases List.mem_append.mp hvalue with hvalue | hvalue
      · exact hprior value (Option.mem_toList.mp hvalue)
      · exact hstates value hvalue
    have hpairs : ∀ change ∈ ((prior.map (·.read)).toList ++ (firstRow :: rest).map (·.read)).zip
        ((prior.map (·.read)).toList ++ (firstRow :: rest).map (·.read)).tail,
        change = ("ESTABLISHED", "ESTABLISHED") := by
      intro change hchange
      obtain ⟨hbefore, hafter⟩ := List.of_mem_zip hchange
      exact Prod.ext (hall _ hbefore) (hall _ (List.mem_of_mem_tail hafter))
    have hdown : (((prior.map (·.read)).toList ++ (firstRow :: rest).map (·.read)).zip
        ((prior.map (·.read)).toList ++ (firstRow :: rest).map (·.read)).tail).any isDown = false := by
      rw [List.any_eq_false]
      intro change hchange
      rw [hpairs change hchange]
      decide
    have hrecovery : (((prior.map (·.read)).toList ++ (firstRow :: rest).map (·.read)).zip
        ((prior.map (·.read)).toList ++ (firstRow :: rest).map (·.read)).tail).any isRecovery =
          false := by
      rw [List.any_eq_false]
      intro change hchange
      rw [hpairs change hchange]
      decide
    have hsaw : ((firstRow :: rest).map (·.read)).any (· ≠ "ESTABLISHED") = false := by
      rw [List.any_eq_false]
      intro value hvalue
      rw [hstates value hvalue]
      decide
    have htype : ∀ latest, sessionEventType state
        (((prior.map (·.read)).toList ++ (firstRow :: rest).map (·.read)).zip
          ((prior.map (·.read)).toList ++ (firstRow :: rest).map (·.read)).tail)
        ((firstRow :: rest).map (·.read)) latest = none := by
      intro latest
      simp only [sessionEventType, hdown, hrecovery, hsaw, hstate]
      simp
    simp only [story, htype, Option.map_none, Option.bind_fun_none]

/-! ### The sessions of the indexed path -/

/-- The rows of a session that the discovery selects. -/
theorem fastRows_of_selected (hadmitted : Admitted roles filters session)
    (hselected : filters.state = .all ∨
      session ∈ (discoveryRows store roles filters scope).filterMap candidate) :
    ∃ select : String × String → Bool, select session ∧
      queryBgpEventFastRows store roles filters scope =
        discoveryRows store roles filters scope ++ detailRows store scope select := by
  refine ⟨detailFilter roles filters _, ?_, if_neg ?_⟩
  · simpa [detailFilter, hadmitted.selected] using hselected
  · rintro ⟨hstate, hnil⟩
    rcases hselected with hall | hcandidate
    · exact hstate hall
    · rw [hnil] at hcandidate
      cases hcandidate

/-- The indexed path has no row of a session whose details are not read. -/
theorem fastRows_of_not_selected (hadmitted : Admitted roles filters session)
    (hstate : filters.state ≠ .all)
    (hcandidate : session ∉ (discoveryRows store roles filters scope).filterMap candidate) :
    (queryBgpEventFastRows store roles filters scope).filter
      (fastSession roles filters · = some session) = [] := by
  have hdiscovery : (discoveryRows store roles filters scope).filter
      (fastSession roles filters · = some session) = [] := by
    rw [List.filter_eq_nil_iff]
    intro row hrow hsession
    have hrowSession := (session_of_fastSession (of_decide_eq_true hsession)).1
    exact hcandidate (List.mem_filterMap.mpr
      ⟨row, hrow, candidate_of_session hadmitted hrow hrowSession⟩)
  have hdetail : detailFilter roles filters
      ((discoveryRows store roles filters scope).filterMap candidate) session = false := by
    simp [detailFilter, hstate, hcandidate]
  rw [queryBgpEventFastRows]
  split
  · exact hdiscovery
  · rw [List.filter_append, hdiscovery, detailRows_filter hadmitted, windowNeighbors,
      priorNeighbors, filter_select_eq_nil hdetail, filter_select_eq_nil hdetail]
    rfl

/-- What the rows of a session leave behind is what its samples and transitions are. -/
theorem fastRecord_of (hstore : store.Coherent) (hadmitted : Admitted roles filters session)
    {select : String × String → Bool} (hselect : select session) :
    (((discoveryRows store roles filters scope ++ detailRows store scope select).filter
        (fastSession roles filters · = some session)).foldl FastSession.add {}).Of
      (priorSample store scope session) (windowSamples store scope session)
      (windowChanges store scope session) := by
  rw [List.filter_append, detailRows_filter hadmitted]
  obtain ⟨hfirst, hlast, hprior, hevent⟩ :=
    windowDetails_filterMap ((windowNeighbors store scope select).filter (·.session = session))
  obtain ⟨hfirst', hlast', hprior', hevent'⟩ :=
    priorDetails_filterMap ((priorNeighbors store scope select).filter (·.session = session))
  have hfold (field : FastSession → Option NeighborPoint) (pick : FastRow → Option NeighborPoint)
      (hadd : ∀ record row, field (record.add row) = (pick row).or (field record))
      (hpick : ∀ row : FastRow, row.session = none → pick row = none)
      (hevents : ∀ point, pick (.sessionEvents point) = none)
      (hsamples : ∀ point, pick (.nonEstablishedSample point) = none)
      (hempty : field {} = none) (details : List FastRow) :
      field (((discoveryRows store roles filters scope).filter
        (fastSession roles filters · = some session) ++ details).foldl FastSession.add {}) =
          (details.filterMap pick).getLast? := by
    rw [Dict.foldl_replace field pick hadd, List.filterMap_append,
      discoveryRows_filterMap hpick hevents hsamples, List.nil_append, hempty, Option.or_none]
  have hgetLast : ∀ sample : Option NeighborPoint, sample.toList.getLast? = sample := by
    intro sample
    cases sample <;> rfl
  have hwindow : sort NeighborPoint.time ((windowNeighbors store scope select).filter
      (·.session = session)) = windowSamples store scope session :=
    sort_windowNeighbors hstore hselect
  constructor
  · rw [foldl_add_transitions, List.filterMap_append, List.filterMap_append, hevent, hevent',
      List.append_nil, List.append_nil]
    rw [← sort_windowTransitions hstore hadmitted.selected]
    refine sort_eq_of_perm ?_ (discoveryRows_transitions hadmitted)
    rw [sort_windowTransitions hstore hadmitted.selected]
    exact (hstore.transitions_pairwise session).filter _
  · rw [hfold FastSession.firstState FastRow.firstState? (fun _ row => by cases row <;> rfl)
      (fun row h => by cases row <;> first | rfl | cases h) (fun _ => rfl) (fun _ => rfl) rfl,
      List.filterMap_append, hfirst, hfirst', List.append_nil, hgetLast, first, hwindow]
  · rw [hfold FastSession.lastState FastRow.lastState? (fun _ row => by cases row <;> rfl)
      (fun row h => by cases row <;> first | rfl | cases h) (fun _ => rfl) (fun _ => rfl) rfl,
      List.filterMap_append, hlast, hlast', List.append_nil, hgetLast, last, hwindow]
  · rw [hfold FastSession.priorState FastRow.priorState? (fun _ row => by cases row <;> rfl)
      (fun row h => by cases row <;> first | rfl | cases h) (fun _ => rfl) (fun _ => rfl) rfl,
      List.filterMap_append, hprior, hprior', List.nil_append, hgetLast,
      last_priorNeighbors hstore hselect]

theorem fastEvent_empty : fastEvent roles filters session {} = none := rfl

/-- The indexed path reports what the samples of a session tell. -/
theorem fastSession_report (hstore : store.Coherent) (hfresh : store.Fresh scope)
    (report : EventReport) :
    (∃ record event,
      (Dict.accumulate (fastSession roles filters) FastSession.add {}
        (queryBgpEventFastRows store roles filters scope)).lookup session = some record ∧
      fastEvent roles filters session record = some event ∧ event.report = report) ↔
      Admitted roles filters session ∧
        sessionReport store scope session filters = some report := by
  rw [Dict.lookup_accumulate]
  by_cases hadmitted : Admitted roles filters session
  · by_cases hselected : filters.state = .all ∨
        session ∈ (discoveryRows store roles filters scope).filterMap candidate
    · obtain ⟨select, hselect, hrows⟩ := fastRows_of_selected hadmitted hselected
      have htold : (fastEvent roles filters session (((queryBgpEventFastRows store roles filters
          scope).filter (fastSession roles filters · = some session)).foldl FastSession.add {})).map
            BgpEvent.report = sessionReport store scope session filters := by
        rw [hrows]
        refine fastEvent_report (fastRecord_of hstore hadmitted hselect) (fun sample hsample => ?_)
          (windowSamples_pairwise hstore) (areChanges_window hstore hfresh)
        rw [← hstore.read session sample (mem_of_priorSample hsample).1, NeighborPoint.read,
          readState, Python.upper_upper]
      rw [← htold, Option.map_eq_some_iff]
      constructor
      · rintro ⟨record, event, hrecord, hevent, rfl⟩
        rw [Option.ite_none_left_eq_some, Option.some.injEq] at hrecord
        obtain ⟨-, rfl⟩ := hrecord
        exact ⟨hadmitted, event, hevent, rfl⟩
      · rintro ⟨-, event, hevent, rfl⟩
        refine ⟨_, event, if_neg fun hnil => ?_, hevent, rfl⟩
        rw [hnil, List.foldl_nil, fastEvent_empty] at hevent
        cases hevent
    · -- a session that is no candidate leaves no row and has nothing to report
      rw [not_or] at hselected
      obtain ⟨hstate, hcandidate⟩ := hselected
      rw [if_pos (fastRows_of_not_selected hadmitted hstate hcandidate)]
      refine iff_of_false ?_ ?_
      · rintro ⟨record, -, hrecord, -⟩
        exact Option.some_ne_none record hrecord.symm
      rintro ⟨-, hreport⟩
      have hchanges : AreChanges (windowChanges store scope session) _ _ :=
        areChanges_window hstore hfresh
      have hquiet : windowChanges store scope session = [] := by
        rw [List.eq_nil_iff_forall_not_mem]
        exact fun point hpoint => hcandidate (mem_candidates_of_change hstore hadmitted hpoint)
      rw [hquiet] at hchanges
      rw [sessionReport, story_eq_none hstate hchanges] at hreport
      · cases hreport
      · intro sample hsample
        rw [hstore.read session sample (mem_windowSamples.mp hsample).1]
        by_contra hne
        exact hcandidate (mem_candidates_of_sample hstore hadmitted hsample hne)
  · rw [if_pos]
    · refine iff_of_false ?_ fun h => hadmitted h.1
      rintro ⟨record, -, hrecord, -⟩
      exact Option.some_ne_none record hrecord.symm
    · rw [List.filter_eq_nil_iff]
      intro row _ hrow
      exact hadmitted (session_of_fastSession (of_decide_eq_true hrow)).2

/-! ## Collection gaps -/

/-- The collections of a source in the window. -/
def sourceCollections (store : Store) (scope : Scope) (roles : Roles) (filters : Filters)
    (source : String) : List CollectionPoint :=
  (windowCollections store scope (deviceFilter roles filters)).filter (·.source = source)

theorem snapshotCollection_lookup (source : String) :
    (Dict.accumulate (snapshotCollection roles filters) (fun samples row => samples ++ [row]) []
        (queryBgpEventSnapshotRows store roles filters scope)).lookup source =
      if admitsSource roles filters source ∧
          sourceCollections store scope roles filters source ≠ [] then
        some ((sort CollectionPoint.time
          (sourceCollections store scope roles filters source)).map .collection)
      else
        none := by
  have hneighbors : ∀ (scopePrior : Bool) (points : List NeighborPoint),
      (points.map (SnapshotRow.neighbor scopePrior)).filter
        (snapshotCollection roles filters · = some source) = [] := by
    intro scopePrior points
    rw [List.filter_eq_nil_iff]
    intro row hrow hsource
    obtain ⟨point, -, rfl⟩ := List.mem_map.mp hrow
    exact Option.some_ne_none _ (of_decide_eq_true hsource).symm
  have hrows : (queryBgpEventSnapshotRows store roles filters scope).filter
      (snapshotCollection roles filters · = some source) =
        if admitsSource roles filters source then (sort CollectionPoint.time
          (sourceCollections store scope roles filters source)).map .collection else [] := by
    rw [queryBgpEventSnapshotRows, List.filter_append, List.filter_append, hneighbors, hneighbors,
      List.nil_append, List.nil_append, List.filter_map]
    split
    · rename_i hadmits
      congr 1
      refine filter_flatMap_group (fun source' table htable point hpoint => ?_) rfl _
      rw [snapshotCollection, Option.ite_none_right_eq_some, Option.some.injEq,
        htable point (mem_sort.mp hpoint)]
      constructor
      · exact And.right
      · rintro rfl
        exact ⟨hadmits, rfl⟩
    · rename_i hadmits
      rw [List.map_eq_nil_iff, List.filter_eq_nil_iff]
      intro point _ hpoint
      have hsome := of_decide_eq_true hpoint
      rw [snapshotCollection, Option.ite_none_right_eq_some, Option.some.injEq] at hsome
      exact hadmits (hsome.2 ▸ hsome.1)
  have hnil : sort CollectionPoint.time (sourceCollections store scope roles filters source) = [] ↔
      sourceCollections store scope roles filters source = [] := by
    rw [← List.length_eq_zero_iff, (sort_perm _ _).length_eq, List.length_eq_zero_iff]
  rw [Dict.lookup_accumulate_append, hrows]
  by_cases hadmits : admitsSource roles filters source
  · simp [hadmits, hnil, ite_not]
  · simp [hadmits]

def FastRow.collectionLast? : FastRow → Option CollectionPoint
  | collectionLast point => some point
  | _ => none

theorem fastCollection_eq_some {row : FastRow} {source : String} :
    fastCollection roles filters row = some source ↔
      row.collection = some source ∧ admitsSource roles filters source := by
  rw [fastCollection, Option.filter_eq_some_iff]

theorem collection_of_session {row : FastRow} (h : row.session = some session) :
    row.collection = none := by
  cases row <;> first | rfl | cases h

theorem detailRows_filter_collection (select : String × String → Bool) (source : String) :
    (detailRows store scope select).filter (fastCollection roles filters · = some source) = [] := by
  have htable : ∀ {points table : List NeighborPoint}, table ∈ group NeighborPoint.session points →
      ∃ session, ∀ point ∈ table, point.session = session := by
    intro points table h
    obtain ⟨first, -, rfl⟩ := mem_group_iff.mp h
    exact ⟨first.session, fun point hpoint => of_decide_eq_true (List.mem_filter.mp hpoint).2⟩
  rw [List.filter_eq_nil_iff]
  intro row hrow hsource
  have hsession : ∃ session, row.session = some session := by
    rcases List.mem_append.mp hrow with hrow | hrow
    · obtain ⟨table, hgroup, hrow⟩ := List.mem_flatMap.mp hrow
      obtain ⟨session, hsession⟩ := htable hgroup
      exact ⟨session, session_of_windowDetails hsession hrow⟩
    · obtain ⟨table, hgroup, hrow⟩ := List.mem_flatMap.mp hrow
      obtain ⟨session, hsession⟩ := htable hgroup
      exact ⟨session, session_of_priorDetails hsession hrow⟩
  obtain ⟨session, hsession⟩ := hsession
  have hcollection := (fastCollection_eq_some.mp (of_decide_eq_true hsource)).1
  rw [collection_of_session hsession] at hcollection
  cases hcollection

/-- The rows of the collections of a source. -/
theorem fastRows_filter_collection {source : String} (hadmits : admitsSource roles filters source) :
    (queryBgpEventFastRows store roles filters scope).filter
        (fastCollection roles filters · = some source) =
      (last CollectionPoint.time (sourceCollections store scope roles filters source)).toList.map
          .collectionLast ++
        (first CollectionPoint.time (sourceCollections store scope roles filters
          source)).toList.map .collectionFirst ++
        ((sourceCollections store scope roles filters source).head?.map fun point =>
          .collectionCount point.source
            (sourceCollections store scope roles filters source).length).toList := by
  have hiff : ∀ {row : FastRow} {source' : String}, row.collection = some source' →
      (fastCollection roles filters row = some source ↔ source' = source) := by
    intro row source' hrow
    rw [fastCollection_eq_some, hrow, Option.some.injEq]
    exact and_iff_left hadmits
  have hsessions {ρ : Type} (row : ρ → FastRow) (hrow : ∀ point, (row point).collection = none)
      (points : List ρ) :
      (points.map row).filter (fastCollection roles filters · = some source) = [] := by
    rw [List.filter_eq_nil_iff]
    intro entry hentry hsource
    obtain ⟨point, -, rfl⟩ := List.mem_map.mp hentry
    have hcollection := (fastCollection_eq_some.mp (of_decide_eq_true hsource)).1
    rw [hrow] at hcollection
    cases hcollection
  have hdiscovery : (discoveryRows store roles filters scope).filter
      (fastCollection roles filters · = some source) =
        (last CollectionPoint.time (sourceCollections store scope roles filters source)).toList.map
          .collectionLast ++
        (first CollectionPoint.time (sourceCollections store scope roles filters
          source)).toList.map .collectionFirst ++
        ((sourceCollections store scope roles filters source).head?.map fun point =>
          .collectionCount point.source
            (sourceCollections store scope roles filters source).length).toList := by
    simp only [discoveryRows, List.filter_append]
    rw [hsessions _ fun _ => rfl, hsessions _ fun _ => rfl, List.nil_append, List.nil_append,
      List.filter_map, List.filter_map]
    congr 1
    · congr 2
      · refine filter_flatMap_group (fun source' table htable point hpoint => ?_) rfl _
        exact hiff (congrArg some (htable point (mem_of_last hpoint)))
      · refine filter_flatMap_group (fun source' table htable point hpoint => ?_) rfl _
        exact hiff (congrArg some (htable point (mem_of_first hpoint)))
    · refine filter_flatMap_group (fun source' table htable row hrow => ?_) rfl _
      rw [Option.mem_toList, Option.map_eq_some_iff] at hrow
      obtain ⟨point, hpoint, rfl⟩ := hrow
      exact hiff (congrArg some (htable point (List.mem_of_head? hpoint)))
  rw [queryBgpEventFastRows]
  split
  · exact hdiscovery
  · rw [List.filter_append, hdiscovery, detailRows_filter_collection, List.append_nil]

theorem fastCollection_lookup (source : String) :
    ((Dict.accumulate (fastCollection roles filters) FastCollection.add {}
        (queryBgpEventFastRows store roles filters scope)).lookup source).map FastCollection.last =
      if admitsSource roles filters source ∧
          sourceCollections store scope roles filters source ≠ [] then
        some (last CollectionPoint.time (sourceCollections store scope roles filters source))
      else
        none := by
  rw [Dict.lookup_accumulate]
  by_cases hadmits : admitsSource roles filters source
  · rw [fastRows_filter_collection hadmits]
    cases hpoints : sourceCollections store scope roles filters source with
    | nil => simp [last, first]
    | cons point points =>
      obtain ⟨latest, hlatest⟩ : ∃ latest,
          last CollectionPoint.time (point :: points) = some latest := by
        refine ⟨_, List.getLast?_eq_some_getLast fun hnil => ?_⟩
        have hlength := (sort_perm CollectionPoint.time (point :: points)).length_eq
        rw [hnil] at hlength
        cases hlength
      rw [hlatest, if_neg (by simp), if_pos ⟨hadmits, List.cons_ne_nil _ _⟩, Option.map_some,
        Dict.foldl_replace FastCollection.last FastRow.collectionLast?]
      · simp [List.filterMap_map, List.filterMap_cons, Function.comp_def, FastRow.collectionLast?]
      · intro record row
        cases row <;> rfl
  · have hnil : (queryBgpEventFastRows store roles filters scope).filter
        (fastCollection roles filters · = some source) = [] := by
      rw [List.filter_eq_nil_iff]
      intro row _ hsource
      exact hadmits (fastCollection_eq_some.mp (of_decide_eq_true hsource)).2
    rw [if_pos hnil, if_neg fun h => hadmits h.1]
    rfl

theorem filterMap_collectionSample (points : List CollectionPoint) :
    (points.map SnapshotRow.collection).filterMap collectionSample = points := by
  rw [List.filterMap_map]
  exact List.filterMap_some

/-- The snapshot path and the indexed path know the same last collections. -/
theorem collections_agree (source : String) :
    ((Dict.accumulate (fastCollection roles filters) FastCollection.add {}
        (queryBgpEventFastRows store roles filters scope)).lookup source).map FastCollection.last =
      ((Dict.accumulate (snapshotCollection roles filters) (fun samples row => samples ++ [row]) []
        (queryBgpEventSnapshotRows store roles filters scope)).lookup source).map fun samples =>
          (samples.filterMap collectionSample).getLast? := by
  rw [fastCollection_lookup, snapshotCollection_lookup]
  split
  · rw [Option.map_some, filterMap_collectionSample]
    rfl
  · rfl

/-- The report of a gap, from the last collection of a source. -/
def gapReport (source : String) (latest : Option CollectionPoint) : Option EventReport :=
  if (latest.map (·.collectionOk)).getD false then none
  else some
    { device := source, peer := none, eventType := .collectionGap, previousState := none
      latestState := none, statesObserved := [] }

/-- The gap of a source depends on its last collection alone. -/
theorem fastGap_report (roles : Roles) (source : String) (collection : FastCollection) :
    (fastGap roles source collection).map BgpEvent.report = gapReport source collection.last := by
  unfold fastGap gapReport
  split <;> rfl

theorem snapshotGap_report (source : String) {samples : List CollectionPoint}
    (hne : samples ≠ []) :
    (snapshotGap roles source samples).map BgpEvent.report =
      gapReport source samples.getLast? := by
  obtain ⟨latest, hlatest⟩ : ∃ latest, samples.getLast? = some latest :=
    ⟨_, List.getLast?_eq_some_getLast hne⟩
  unfold snapshotGap gapReport
  rw [hlatest, Option.map_some, Option.getD_some]
  dsimp only
  split <;> rfl

theorem fastGaps_report (source : String) (report : EventReport) :
    (∃ record event,
      (Dict.accumulate (fastCollection roles filters) FastCollection.add {}
        (queryBgpEventFastRows store roles filters scope)).lookup source = some record ∧
      fastGap roles source record = some event ∧ event.report = report) ↔
      ∃ latest ∈ ((Dict.accumulate (fastCollection roles filters) FastCollection.add {}
        (queryBgpEventFastRows store roles filters scope)).lookup source).map FastCollection.last,
        gapReport source latest = some report := by
  constructor
  · rintro ⟨record, event, hrecord, hevent, rfl⟩
    refine ⟨record.last, Option.mem_map_of_mem _ hrecord, ?_⟩
    rw [← fastGap_report roles, hevent, Option.map_some]
  · rintro ⟨latest, hlatest, hreport⟩
    obtain ⟨record, hrecord, rfl⟩ := Option.map_eq_some_iff.mp hlatest
    rw [← fastGap_report roles, Option.map_eq_some_iff] at hreport
    obtain ⟨event, hevent, rfl⟩ := hreport
    exact ⟨record, event, hrecord, hevent, rfl⟩

theorem snapshotGaps_report (source : String) (report : EventReport) :
    (∃ samples event,
      (Dict.accumulate (snapshotCollection roles filters) (fun samples row => samples ++ [row]) []
        (queryBgpEventSnapshotRows store roles filters scope)).lookup source = some samples ∧
      snapshotGap roles source (samples.filterMap collectionSample) = some event ∧
      event.report = report) ↔
      ∃ latest ∈ ((Dict.accumulate (snapshotCollection roles filters)
          (fun samples row => samples ++ [row]) []
        (queryBgpEventSnapshotRows store roles filters scope)).lookup source).map fun samples =>
          (samples.filterMap collectionSample).getLast?,
        gapReport source latest = some report := by
  have hgap : ∀ samples ∈ (Dict.accumulate (snapshotCollection roles filters)
      (fun samples row => samples ++ [row]) []
        (queryBgpEventSnapshotRows store roles filters scope)).lookup source,
      (snapshotGap roles source (samples.filterMap collectionSample)).map BgpEvent.report =
        gapReport source (samples.filterMap collectionSample).getLast? := by
    intro samples hsamples
    rw [snapshotCollection_lookup, Option.mem_def, Option.ite_none_right_eq_some,
      Option.some.injEq] at hsamples
    obtain ⟨⟨-, hne⟩, rfl⟩ := hsamples
    refine snapshotGap_report source fun hnil => hne ?_
    rw [filterMap_collectionSample, ← List.length_eq_zero_iff, (sort_perm _ _).length_eq,
      List.length_eq_zero_iff] at hnil
    exact hnil
  constructor
  · rintro ⟨samples, event, hsamples, hevent, rfl⟩
    refine ⟨_, Option.mem_map_of_mem _ hsamples, ?_⟩
    rw [← hgap samples hsamples, hevent, Option.map_some]
  · rintro ⟨latest, hlatest, hreport⟩
    obtain ⟨samples, hsamples, rfl⟩ := Option.map_eq_some_iff.mp hlatest
    rw [← hgap samples hsamples, Option.map_eq_some_iff] at hreport
    obtain ⟨event, hevent, rfl⟩ := hreport
    exact ⟨samples, event, hsamples, hevent, rfl⟩

end

/-! ## Agreement -/

def reports (events : List BgpEvent) : Set EventReport :=
  { report | ∃ event ∈ events, event.report = report }

theorem mem_reports_append {first second : List BgpEvent} {report : EventReport} :
    report ∈ reports (first ++ second) ↔ report ∈ reports first ∨ report ∈ reports second := by
  simp only [reports, Set.mem_ofPred_eq, List.mem_append, or_and_right, exists_or]

/-- The reports of the events that the entries of a dictionary make. -/
theorem mem_reports_filterMap {κ α : Type} [DecidableEq κ] {dict : Dict κ α}
    {f : κ → α → Option BgpEvent} {report : EventReport} :
    report ∈ reports (dict.entries.filterMap fun entry => f entry.1 entry.2) ↔
      ∃ key value event, dict.lookup key = some value ∧ f key value = some event ∧
        event.report = report := by
  simp only [reports, Set.mem_ofPred_eq, Dict.mem_filterMap_entries]
  constructor
  · rintro ⟨event, ⟨key, value, hlookup, hf⟩, hreport⟩
    exact ⟨key, value, event, hlookup, hf, hreport⟩
  · rintro ⟨key, value, event, hlookup, hf, hreport⟩
    exact ⟨event, ⟨key, value, hlookup, hf⟩, hreport⟩

/-- Over a coherent store whose states before the window are fresh, both paths report the same. -/
theorem Store.Coherent.reports_eq {store : Store} (hstore : store.Coherent) {scope : Scope}
    (hfresh : store.Fresh scope) (roles : Roles) (filters : Filters) :
    reports (buildBgpEventsFast (queryBgpEventFastRows store roles filters scope) roles filters) =
      reports (buildBgpEvents (queryBgpEventSnapshotRows store roles filters scope) roles filters) := by
  have hkeys : (missingDevices roles filters (Dict.accumulate (fastCollection roles filters)
      FastCollection.add {} (queryBgpEventFastRows store roles filters scope)).keys) =
        missingDevices roles filters (Dict.accumulate (snapshotCollection roles filters)
          (fun samples row => samples ++ [row]) []
          (queryBgpEventSnapshotRows store roles filters scope)).keys := by
    unfold missingDevices
    split
    · refine List.filter_congr fun source _ => ?_
      have hiff : source ∈ Dict.accumulate (fastCollection roles filters) FastCollection.add {}
          (queryBgpEventFastRows store roles filters scope) ↔
            source ∈ Dict.accumulate (snapshotCollection roles filters)
              (fun samples row => samples ++ [row]) []
              (queryBgpEventSnapshotRows store roles filters scope) := by
        rw [← AList.lookup_isSome, ← AList.lookup_isSome, ← Option.isSome_map (f :=
          FastCollection.last), collections_agree, Option.isSome_map]
      rw [AList.mem_keys, AList.mem_keys] at hiff
      rw [decide_eq_decide, hiff]
    · rfl
  ext report
  unfold buildBgpEventsFast buildBgpEvents
  simp only [mem_reports_append, hkeys]
  refine or_congr (or_congr ?_ ?_) Iff.rfl
  · rw [mem_reports_filterMap, mem_reports_filterMap]
    refine exists_congr fun session => ?_
    rw [fastSession_report hstore hfresh, snapshotSession_report hstore]
  · rw [mem_reports_filterMap, mem_reports_filterMap (f := fun source (samples : List SnapshotRow) =>
      snapshotGap roles source (samples.filterMap collectionSample))]
    refine exists_congr fun source => ?_
    rw [fastGaps_report, snapshotGaps_report, collections_agree]

/-- A session that a successful poll lists before the window is listed by one within the lookback
before the window. -/
def History.Fresh (history : History) (scope : Scope) : Prop :=
  ∀ session, ∀ poll ∈ history.polls, (poll.row? session).isSome → poll.time < scope.start →
    ∃ later ∈ history.polls, (later.row? session).isSome ∧ scope.lookback ≤ later.time ∧
      later.time < scope.start

/-- A history in which a session is listed within the lookback has a fresh store. -/
theorem History.Fresh.store {history : History} {scope : Scope} (h : history.Fresh scope) :
    history.store.Fresh scope := by
  intro session sample hsample hstart
  rw [history.samples_eq] at hsample ⊢
  obtain ⟨poll, hpoll, hsample⟩ := List.mem_filterMap.mp hsample
  obtain ⟨-, htime, -, row, hrow, -⟩ := eq_of_sample? hsample
  obtain ⟨later, hlater, hlisted, hlookback, hstart⟩ :=
    h session poll hpoll (Option.isSome_of_mem hrow) (htime ▸ hstart)
  have hmap := sample?_map later session
  obtain ⟨laterRow, hlaterRow⟩ := Option.isSome_iff_exists.mp hlisted
  rw [hlaterRow, Option.map_some, Option.map_eq_some_iff] at hmap
  obtain ⟨laterSample, hlaterSample, heq⟩ := hmap
  have htime : laterSample.time = later.time := congrArg (·.2.1) heq
  refine ⟨laterSample, List.mem_filterMap.mpr ⟨later, hlater, hlaterSample⟩, ?_⟩
  rw [htime]
  exact ⟨hlookback, hstart⟩

/-- The indexed path and the snapshot path report the same events of a history whose sessions were
listed within the lookback. -/
theorem bgp_paths_agree (history : History) (scope : Scope) (hfresh : history.Fresh scope)
    (roles : Roles) (filters : Filters) :
    reports (buildBgpEventsFast (queryBgpEventFastRows history.store roles filters scope) roles
        filters) =
      reports (buildBgpEvents (queryBgpEventSnapshotRows history.store roles filters scope) roles
        filters) :=
  history.coherent.reports_eq hfresh.store roles filters

/-! ## One session of one leaf -/

theorem leafPoll_row?_isSome {time : Nat} {row : BgpRow} (hrow : row.neighbor ≠ "")
    {session : String × String} :
    ((leafPoll time row).row? session).isSome ↔ ("leaf1", row.neighbor) = session := by
  rw [row?_eq]
  by_cases h : ("leaf1", row.neighbor) = session <;> simp [leafPoll, PollResult.parsed, hrow, h]

/-- The leaf is polled while its session is established, and again after it went down. -/
def downHistory (before after : Nat) (hlt : before < after) : History where
  polls := [leafPoll before established, leafPoll after idle]
  clock := by simpa [TimesIncrease, leafPoll] using hlt
  full := by simp [leafPoll]
  listedAgain := by
    refine List.pairwise_pair.mpr fun _ _ session hlisted => ?_
    rw [leafPoll_row?_isSome (by decide)] at hlisted ⊢
    exact hlisted

def leafRoles : Roles := AList.singleton "leaf1" "leaf"

def noFilters : Filters where
  device := none
  peer := none
  role := none
  state := .nonEstablished

/-- A scope in hours; thirty days before the query are 720 hours before its end. -/
def lastHour (stop : Nat) (h : 1 ≤ stop) : Scope where
  start := stop - 1
  stop
  lookback := stop - 720
  start_lt_stop := by omega

/-- The session went down while the leaf could not be polled for forty days: only the indexed path
still knows that it was established. -/
theorem bgp_paths_disagree :
    reports (buildBgpEventsFast (queryBgpEventFastRows (downHistory 0 960 (by decide)).store
        leafRoles noFilters (lastHour 961 (by decide))) leafRoles noFilters) ≠
      reports (buildBgpEvents (queryBgpEventSnapshotRows (downHistory 0 960 (by decide)).store
        leafRoles noFilters (lastHour 961 (by decide))) leafRoles noFilters) := by
  have hfast : (buildBgpEventsFast (queryBgpEventFastRows (downHistory 0 960 (by decide)).store
      leafRoles noFilters (lastHour 961 (by decide))) leafRoles noFilters).map
        (·.eventType) = [.sessionDown] := by decide +kernel
  have hslow : (buildBgpEvents (queryBgpEventSnapshotRows (downHistory 0 960 (by decide)).store
      leafRoles noFilters (lastHour 961 (by decide))) leafRoles noFilters).map
        (·.eventType) = [.nonEstablishedObserved] := by decide +kernel
  intro heq
  obtain ⟨event, hevent, htype⟩ := List.mem_map.mp (hfast ▸ List.mem_singleton_self _)
  have hreport : event.report ∈ reports (buildBgpEventsFast _ _ _) := ⟨event, hevent, rfl⟩
  rw [heq] at hreport
  obtain ⟨other, hother, hreport⟩ := hreport
  have hotherType : other.eventType = .sessionDown := (congrArg EventReport.eventType hreport).trans htype
  have hmem := List.mem_map_of_mem (f := (·.eventType)) hother
  rw [hslow, List.mem_singleton, hotherType] at hmem
  cases hmem

theorem downHistory_paths_agree :
    reports (buildBgpEventsFast (queryBgpEventFastRows (downHistory 900 960 (by decide)).store
        leafRoles noFilters (lastHour 961 (by decide))) leafRoles noFilters) =
      reports (buildBgpEvents (queryBgpEventSnapshotRows (downHistory 900 960 (by decide)).store
        leafRoles noFilters (lastHour 961 (by decide))) leafRoles noFilters) := by
  refine bgp_paths_agree _ _ ?_ _ _
  intro session poll hpoll hlisted hstart
  refine ⟨poll, hpoll, hlisted, ?_, hstart⟩
  rcases List.mem_pair.mp hpoll with rfl | rfl <;> decide

end NetOpsBench.Bgp
