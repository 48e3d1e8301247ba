import NetOpsBench.Bgp.Query
import NetOpsBench.Bgp.Tracker

/-!
# What a history of polls leaves in the store

A session has one sample for every poll that lists it, and one transition for every change between
consecutive samples.

`History.samples_eq` and `History.transitionsOf_eq` are these two facts. What the queries need of a store
is `Store.Coherent`: samples that are a series in time, and transitions that are the changes among them;
`History.coherent` says that the store of every history is.
-/

namespace NetOpsBench.Bgp
open Flux

/-- Every successful poll lists the neighbors that an earlier one of its device listed. -/
def ListedAgain (polls : List Poll) : Prop :=
  polls.Pairwise fun earlier later => earlier.device = later.device → later.result.ok →
    ∀ session, (earlier.row? session).isSome → (later.row? session).isSome

/-- The polls of one collector process, whose lines are all written. -/
structure History where
  polls : List Poll
  clock : TimesIncrease polls
  full : ∀ poll ∈ polls, poll.includeFullSnapshot
  listedAgain : ListedAgain polls

def History.store (history : History) : Store :=
  .ofLines (collectPolls ∅ history.polls).2.flatten

/-! ## Samples -/

def Poll.neighborPoint (poll : Poll) (row : BgpRow) : NeighborPoint where
  source := poll.device
  neighborAddress := row.neighbor
  time := poll.time
  sessionState := row.sessionState
  asn := row.asn
  prefixesReceived := row.prefixesReceived

def Poll.neighborPoints (poll : Poll) : List NeighborPoint :=
  (poll.result.parsed.filter (·.neighbor ≠ "")).map poll.neighborPoint

/-- The sample of a session in a poll. -/
def Poll.sample? (poll : Poll) (session : String × String) : Option NeighborPoint :=
  merged NeighborPoint.merge (poll.neighborPoints.filter (·.session = session))

theorem neighborPoints_filter (poll : Poll) (session : String × String) :
    poll.neighborPoints.filter (·.session = session) =
      ((poll.result.parsed.filter (·.neighbor ≠ "")).filter fun row =>
        (poll.device, row.neighbor) = session).map poll.neighborPoint := by
  rw [Poll.neighborPoints, List.filter_map]
  rfl

theorem row?_eq (poll : Poll) (session : String × String) :
    poll.row? session = ((poll.result.parsed.filter (·.neighbor ≠ "")).filter fun row =>
      (poll.device, row.neighbor) = session).getLast? := by
  rw [Poll.row?, currentRows, Dict.lookup_ofItems, List.filter_map, List.getLast?_map,
    Option.map_map]
  exact Option.map_id'

/-- The sample of a session has the time of the poll and the state of its row. -/
theorem sample?_map (poll : Poll) (session : String × String) :
    (poll.sample? session).map (fun point => (point.session, point.time, point.sessionState)) =
      (poll.row? session).map fun row => (session, poll.time, row.sessionState) := by
  have hmerge : ∀ old new : NeighborPoint,
      ((old.merge new).session, (old.merge new).time, (old.merge new).sessionState) =
        (new.session, new.time, new.sessionState) := fun _ _ => rfl
  rw [Poll.sample?, map_merged hmerge, neighborPoints_filter, List.getLast?_map, row?_eq,
    Option.map_map]
  refine Option.map_congr fun row hrow => ?_
  have hsession := (List.mem_filter.mp (List.mem_of_getLast? hrow)).2
  rw [decide_eq_true_eq] at hsession
  rw [← hsession]
  rfl

theorem neighbors_collectDeviceBgp (tracker : BgpTransitionTracker) {poll : Poll}
    (hfull : poll.includeFullSnapshot) :
    (collectDeviceBgp tracker poll).2.filterMap Line.neighbor? = poll.neighborPoints := by
  have htracked : (tracker.process poll.device poll.result.parsed poll.time
      poll.result.ok).2.filterMap Line.neighbor? = [] := by
    rw [List.filterMap_eq_nil_iff]
    intro line hline
    rcases mem_process_cases hline with rfl | ⟨point, rfl⟩ <;> rfl
  simp only [collectDeviceBgp, hfull, if_true, List.filterMap_append, htracked, buildBgpLines,
    List.filterMap_map, List.append_nil]
  show List.filterMap (fun row => some (poll.neighborPoint row)) _ ++ [] = _
  rw [List.append_nil, List.filterMap_eq_map']
  rfl

/-- With full snapshots, the neighbor lines of a history are the points of its polls. -/
theorem neighbors_collectPolls (tracker : BgpTransitionTracker) {polls : List Poll}
    (hfull : ∀ poll ∈ polls, poll.includeFullSnapshot) :
    (collectPolls tracker polls).2.flatten.filterMap Line.neighbor? =
      polls.flatMap Poll.neighborPoints := by
  induction polls generalizing tracker with
  | nil => rfl
  | cons poll polls ih =>
    obtain ⟨hpoll, hpolls⟩ := List.forall_mem_cons.mp hfull
    rw [collectPolls, List.flatten_cons, List.filterMap_append, List.flatMap_cons,
      neighbors_collectDeviceBgp _ hpoll, ih _ hpolls]

theorem eq_of_mem_neighborPoints {poll : Poll} {point : NeighborPoint}
    (h : point ∈ poll.neighborPoints) : point.source = poll.device ∧ point.time = poll.time := by
  obtain ⟨row, -, rfl⟩ := List.mem_map.mp h
  exact ⟨rfl, rfl⟩

/-- The writes of one session and time are those of one poll. -/
theorem flatMap_neighborPoints_filter {polls : List Poll} (hclock : TimesIncrease polls)
    {poll : Poll} (hpoll : poll ∈ polls) {session : String × String}
    (hsession : session.1 = poll.device) :
    (polls.flatMap Poll.neighborPoints).filter
        (fun point => (point.session, point.time) = (session, poll.time)) =
      poll.neighborPoints.filter (·.session = session) := by
  obtain ⟨before, after, rfl⟩ := List.append_of_mem hpoll
  obtain ⟨-, hafter, hbefore⟩ := List.pairwise_append.mp hclock
  have hother : ∀ polls : List Poll,
      (∀ other ∈ polls, other.device = poll.device → other.time ≠ poll.time) →
      (polls.flatMap Poll.neighborPoints).filter
        (fun point => (point.session, point.time) = (session, poll.time)) = [] := by
    intro polls htimes
    rw [List.filter_eq_nil_iff]
    intro point hpoint hkey
    rw [decide_eq_true_eq, Prod.mk.injEq] at hkey
    obtain ⟨other, hother, hpoint⟩ := List.mem_flatMap.mp hpoint
    obtain ⟨hsource, htime⟩ := eq_of_mem_neighborPoints hpoint
    refine htimes other hother ?_ (htime.symm.trans hkey.2)
    rw [← hsource, ← hsession, ← hkey.1]
    rfl
  rw [List.flatMap_append, List.flatMap_cons, List.filter_append, List.filter_append,
    hother before fun other hother hdevice =>
      (hbefore other hother poll List.mem_cons_self hdevice).ne,
    hother after fun other hother hdevice =>
      ((List.pairwise_cons.mp hafter).1 other hother hdevice.symm).ne',
    List.nil_append, List.append_nil]
  refine List.filter_congr fun point hpoint => ?_
  simp [(eq_of_mem_neighborPoints hpoint).2]

/-- The samples of a session in the store, by time. -/
def Store.samples (store : Store) (session : String × String) : List NeighborPoint :=
  sort NeighborPoint.time (store.neighbors.filter (·.session = session))

/-- A sample of a session carries the session, the time of its poll and the state of its row. -/
theorem eq_of_sample? {poll : Poll} {session : String × String} {point : NeighborPoint}
    (h : poll.sample? session = some point) :
    point.session = session ∧ point.time = poll.time ∧ poll.device = session.1 ∧
      ∃ row, poll.row? session = some row ∧ point.sessionState = row.sessionState := by
  have hmap := sample?_map poll session
  rw [h, Option.map_some, eq_comm, Option.map_eq_some_iff] at hmap
  obtain ⟨row, hrow, heq⟩ := hmap
  simp only [Prod.mk.injEq] at heq
  obtain ⟨hsession, htime, hstate⟩ := heq
  exact ⟨hsession.symm, htime.symm, row?_isSome_device (Option.isSome_of_mem hrow), row, hrow,
    hstate.symm⟩

/-- The samples of a session are in the order of time, and no two have the same time. -/
theorem neighbors_pairwise {polls : List Poll} (hclock : TimesIncrease polls)
    (session : String × String) :
    (polls.filterMap (·.sample? session)).Pairwise fun a b => a.time < b.time := by
  refine List.Pairwise.filterMap _ (fun earlier later hlt => ?_) hclock
  intro a ha b hb
  obtain ⟨-, ha, hdevice, -⟩ := eq_of_sample? ha
  obtain ⟨-, hb, hdevice', -⟩ := eq_of_sample? hb
  rw [ha, hb]
  exact hlt (hdevice.trans hdevice'.symm)

/-- The store has one sample of a session for every poll that lists it. -/
theorem History.samples_eq (history : History) (session : String × String) :
    history.store.samples session = history.polls.filterMap (·.sample? session) := by
  have hneighbors : history.store.neighbors = upsert (fun point => (point.session, point.time))
      NeighborPoint.merge (history.polls.flatMap Poll.neighborPoints) := by
    rw [← neighbors_collectPolls ∅ history.full]
    rfl
  refine sort_eq ?_ (neighbors_pairwise history.clock session) fun point => ?_
  · rw [hneighbors]
    refine (nodup_upsert (fun old new => ?_) _).filter _
    rfl
  · rw [List.mem_filter, hneighbors, mem_upsert_iff, List.mem_filterMap, decide_eq_true_eq]
    constructor
    · rintro ⟨⟨first, hfirst, hmerged⟩, rfl⟩
      obtain ⟨poll, hpoll, hfirst⟩ := List.mem_flatMap.mp hfirst
      obtain ⟨hsource, htime⟩ := eq_of_mem_neighborPoints hfirst
      rw [htime, flatMap_neighborPoints_filter history.clock hpoll hsource] at hmerged
      obtain ⟨hsession, -⟩ := eq_of_sample? hmerged
      rw [hsession]
      exact ⟨poll, hpoll, hmerged⟩
    · rintro ⟨poll, hpoll, hsample⟩
      obtain ⟨hsession, -, hdevice, -⟩ := eq_of_sample? hsample
      obtain ⟨first, hfirst⟩ : ∃ first, first ∈ poll.neighborPoints.filter (·.session = session) := by
        refine List.exists_mem_of_ne_nil _ fun hnil => ?_
        rw [Poll.sample?, hnil] at hsample
        cases hsample
      obtain ⟨hfirst, hfirstSession⟩ := List.mem_filter.mp hfirst
      rw [decide_eq_true_eq] at hfirstSession
      refine ⟨⟨first, List.mem_flatMap.mpr ⟨poll, hpoll, hfirst⟩, ?_⟩, hsession⟩
      rw [hfirstSession, (eq_of_mem_neighborPoints hfirst).2,
        flatMap_neighborPoints_filter history.clock hpoll hdevice.symm]
      exact hsample

/-! ## Transitions -/

/-- The transition that a poll emits for a session with the tracked row `previous`. -/
def Poll.transition? (poll : Poll) (session : String × String) (previous : Option BgpRow) :
    Option TransitionPoint :=
  if poll.result.ok ∧ poll.device = session.1 then
    previous.bind fun previous => (poll.observe session (some previous)).bind fun current =>
      if previous.sessionState ≠ current.sessionState then
        some (buildBgpTransition session.1 session.2 previous current poll.time)
      else
        none
  else
    none

/-- The transitions of a session in a sequence of polls. -/
def transitionsFrom (session : String × String) (previous : Option BgpRow) :
    List Poll → List TransitionPoint
  | [] => []
  | poll :: polls => (poll.transition? session previous).toList ++
      transitionsFrom session (poll.observe session previous) polls

theorem transition?_eq_some {tracker : BgpTransitionTracker} {poll : Poll}
    {session : String × String} {point : TransitionPoint} :
    poll.transition? session (tracker.lookup session) = some point ↔
      ∃ previous current, Changes tracker poll session previous current ∧
        point = buildBgpTransition session.1 session.2 previous current poll.time := by
  simp only [Poll.transition?, Option.ite_none_right_eq_some, Option.bind_eq_some_iff,
    Option.some.injEq, Changes]
  constructor
  · rintro ⟨⟨hok, hdevice⟩, previous, hprevious, current, hcurrent, hne, rfl⟩
    exact ⟨previous, current, ⟨hok, hdevice, hprevious, hcurrent, hne⟩, rfl⟩
  · rintro ⟨previous, current, ⟨hok, hdevice, hprevious, hcurrent, hne⟩, rfl⟩
    exact ⟨⟨hok, hdevice⟩, previous, hprevious, current, hcurrent, hne, rfl⟩

/-- The transitions among the lines of a history are those that the tracker sees, session by
session. -/
theorem mem_transitionsFrom_iff {tracker : BgpTransitionTracker} {polls : List Poll}
    {point : TransitionPoint} :
    Line.transition point ∈ (collectPolls tracker polls).2.flatten ↔
      point ∈ transitionsFrom point.session (tracker.lookup point.session) polls := by
  induction polls generalizing tracker with
  | nil => simp [collectPolls, transitionsFrom]
  | cons poll polls ih =>
    rw [collectPolls, List.flatten_cons, List.mem_append, ih, transitionsFrom, List.mem_append,
      collectDeviceBgp_lookup, Option.mem_toList, transition?_eq_some,
      transition_mem_collectDeviceBgp_iff]
    refine or_congr ?_ Iff.rfl
    constructor
    · rintro ⟨session, previous, current, hchanges, rfl⟩
      exact ⟨previous, current, hchanges, rfl⟩
    · rintro ⟨previous, current, hchanges, hpoint⟩
      exact ⟨_, previous, current, hchanges, hpoint⟩

/-- The state of a session in a poll. -/
def Poll.state? (poll : Poll) (session : String × String) : Option (Nat × String) :=
  (poll.row? session).map fun row => (poll.time, row.sessionState)

theorem Poll.sample?_read (poll : Poll) (session : String × String) :
    (poll.sample? session).map (fun sample => (sample.time, sample.read)) = poll.state? session := by
  calc (poll.sample? session).map (fun sample => (sample.time, sample.read))
      = ((poll.sample? session).map fun point =>
          (point.session, point.time, point.sessionState)).map fun entry =>
            (entry.2.1, readState (some entry.2.2)) := by rw [Option.map_map]; rfl
    _ = ((poll.row? session).map fun row => (session, poll.time, row.sessionState)).map fun entry =>
            (entry.2.1, readState (some entry.2.2)) := by rw [sample?_map]
    _ = poll.state? session := by
      rw [Option.map_map, Poll.state?]
      refine Option.map_congr fun row _ => ?_
      exact congrArg (Prod.mk poll.time) row.readState_sessionState

theorem ok_of_row? {poll : Poll} {session : String × String} {row : BgpRow}
    (h : poll.row? session = some row) : poll.result.ok := by
  cases hresult : poll.result with
  | listed rows => rfl
  | failed error =>
    rw [row?_eq, hresult] at h
    cases h

/-- The transitions of a session are the changes of its states. -/
theorem transitionsFrom_map {session : String × String} {previous : Option BgpRow}
    {polls : List Poll} (hlisted : ListedAgain polls)
    (hprevious : previous.isSome → ∀ poll ∈ polls, poll.result.ok → poll.device = session.1 →
      (poll.row? session).isSome) :
    (transitionsFrom session previous polls).map (fun point =>
        (point.time, point.previousState, point.latestState)) =
      changesFrom (previous.map BgpRow.sessionState) (polls.filterMap (·.state? session)) := by
  induction polls generalizing previous with
  | nil => rfl
  | cons poll polls ih =>
    obtain ⟨hpoll, hpolls⟩ := List.pairwise_cons.mp hlisted
    rw [transitionsFrom, List.map_append]
    cases hrow : poll.row? session with
    | some row =>
      have hok := ok_of_row? hrow
      have hdevice := row?_isSome_device (Option.isSome_of_mem hrow)
      have hobserve : ∀ previous, poll.observe session previous = some row := by
        intro previous
        rw [Poll.observe, if_pos ⟨hok, hdevice⟩, hrow]
      have hstate : poll.state? session = some (poll.time, row.sessionState) := by
        rw [Poll.state?, hrow, Option.map_some]
      rw [List.filterMap_cons_some (f := fun poll : Poll => poll.state? session) hstate, changesFrom,
        hobserve, ih hpolls]
      · congr 1
        rw [Poll.transition?, if_pos ⟨hok, hdevice⟩]
        cases previous with
        | none => rfl
        | some previous =>
          rw [Option.bind_some, hobserve, Option.bind_some, Option.map_some, changeTo]
          split <;> rfl
      · intro _ later hlater hlaterOk hlaterDevice
        exact hpoll later hlater (hdevice.trans hlaterDevice.symm) hlaterOk session
          (Option.isSome_of_mem hrow)
    | none =>
      have hstate : poll.state? session = none := by rw [Poll.state?, hrow, Option.map_none]
      have hquiet : poll.observe session previous = previous ∧
          poll.transition? session previous = none := by
        by_cases hok : poll.result.ok ∧ poll.device = session.1
        · -- a session that the poll leaves out was never listed
          cases previous with
          | none =>
            rw [Poll.observe, if_pos hok, hrow, Poll.transition?, if_pos hok]
            exact ⟨rfl, rfl⟩
          | some previous =>
            have hsome := hprevious rfl poll List.mem_cons_self hok.1 hok.2
            rw [hrow] at hsome
            cases hsome
        · rw [Poll.observe, if_neg hok, Poll.transition?, if_neg hok]
          exact ⟨rfl, rfl⟩
      rw [List.filterMap_cons_none (f := fun poll : Poll => poll.state? session) hstate, hquiet.1, hquiet.2]
      exact ih hpolls fun hsome later hlater => hprevious hsome later (List.mem_cons_of_mem _ hlater)

theorem states_pairwise {polls : List Poll} (hclock : TimesIncrease polls)
    (session : String × String) :
    (polls.filterMap (·.state? session)).Pairwise fun a b => a.1 < b.1 := by
  refine List.Pairwise.filterMap _ (fun earlier later hlt => ?_) hclock
  intro a ha b hb
  obtain ⟨row, hrow, rfl⟩ := Option.map_eq_some_iff.mp ha
  obtain ⟨row', hrow', rfl⟩ := Option.map_eq_some_iff.mp hb
  exact hlt ((row?_isSome_device (Option.isSome_of_mem hrow)).trans
    (row?_isSome_device (Option.isSome_of_mem hrow')).symm)

/-- The transitions of a session in the store, by time. -/
def Store.transitionsOf (store : Store) (session : String × String) : List TransitionPoint :=
  sort TransitionPoint.time (store.transitions.filter (·.session = session))

/-- The transitions of a session are the changes of its states, poll by poll. -/
theorem History.transitionsFrom_map (history : History) (session : String × String) :
    (transitionsFrom session none history.polls).map (fun point =>
        (point.time, point.previousState, point.latestState)) =
      changesFrom none (history.polls.filterMap (·.state? session)) :=
  NetOpsBench.Bgp.transitionsFrom_map history.listedAgain nofun

theorem History.transitionsFrom_pairwise (history : History) (session : String × String) :
    (transitionsFrom session none history.polls).Pairwise fun a b => a.time < b.time := by
  have hchanges := changesFrom_pairwise none (states_pairwise history.clock session)
  rw [← history.transitionsFrom_map, List.pairwise_map] at hchanges
  exact hchanges

theorem eq_of_mem_transitionsFrom {session : String × String} {previous : Option BgpRow}
    {polls : List Poll} {point : TransitionPoint}
    (h : point ∈ transitionsFrom session previous polls) :
    point.session = session ∧ point.readPrevious = point.previousState ∧
      point.readLatest = point.latestState := by
  induction polls generalizing previous with
  | nil => cases h
  | cons poll polls ih =>
    rcases List.mem_append.mp h with h | h
    · rw [Option.mem_toList, Poll.transition?, Option.ite_none_right_eq_some] at h
      obtain ⟨previous, -, h⟩ := Option.bind_eq_some_iff.mp h.2
      obtain ⟨current, -, h⟩ := Option.bind_eq_some_iff.mp h
      rw [Option.ite_none_right_eq_some, Option.some.injEq] at h
      rw [← h.2]
      exact ⟨rfl, previous.readState_sessionState, current.readState_sessionState⟩
    · exact ih h

/-- The store has one transition for each change of a session between polls. -/
theorem History.transitionsOf_eq (history : History) (session : String × String) :
    history.store.transitionsOf session = transitionsFrom session none history.polls := by
  have hlines : ∀ point : TransitionPoint,
      point ∈ (collectPolls ∅ history.polls).2.flatten.filterMap Line.transition? ↔
        point ∈ transitionsFrom point.session none history.polls := by
    intro point
    have hiff : Line.transition point ∈ (collectPolls ∅ history.polls).2.flatten ↔
        point ∈ transitionsFrom point.session none history.polls := mem_transitionsFrom_iff
    rw [← hiff, List.mem_filterMap]
    constructor
    · rintro ⟨line, hline, hpoint⟩
      cases line <;> cases hpoint
      exact hline
    · intro h
      exact ⟨_, h, rfl⟩
  have hmem : ∀ point, point ∈ history.store.transitions ↔
      point ∈ transitionsFrom point.session none history.polls := by
    intro point
    rw [← hlines]
    refine mem_upsert_of_injOn (fun point => ?_) fun a ha b hb hkey => ?_
    · simp [TransitionPoint.merge]
    · have hsession : a.session = b.session := congrArg (·.1) hkey
      rw [hlines] at ha hb
      rw [hsession] at ha
      exact eq_of_time_eq (history.transitionsFrom_pairwise _) ha hb (congrArg (·.2.2) hkey)
  refine sort_eq ?_ (history.transitionsFrom_pairwise session) fun point => ?_
  · refine (nodup_upsert (fun old new => ?_) _).filter _
    rfl
  · rw [List.mem_filter, hmem, decide_eq_true_eq]
    constructor
    · rintro ⟨h, rfl⟩
      exact h
    · intro h
      have hsession := (eq_of_mem_transitionsFrom h).1
      rw [hsession]
      exact ⟨h, rfl⟩

/-! ## The store -/

/-- The samples of a session are a series in time with the states as they were written, and its
transitions are the changes of the series. -/
structure Store.Coherent (store : Store) : Prop where
  samples : ∀ session, (store.samples session).Pairwise fun a b => a.time < b.time
  read : ∀ session, ∀ sample ∈ store.samples session, sample.read = sample.sessionState
  transitions : ∀ session, (store.transitionsOf session).map (fun point =>
      (point.time, point.readPrevious, point.readLatest)) =
    changesFrom none ((store.samples session).map fun sample => (sample.time, sample.read))

/-- What a history leaves in the store is coherent. -/
theorem History.coherent (history : History) : history.store.Coherent where
  samples session := by
    rw [history.samples_eq]
    exact neighbors_pairwise history.clock session
  read session sample hsample := by
    rw [history.samples_eq] at hsample
    obtain ⟨poll, -, hsample⟩ := List.mem_filterMap.mp hsample
    obtain ⟨-, -, -, row, -, hstate⟩ := eq_of_sample? hsample
    rw [NeighborPoint.read, hstate, row.readState_sessionState]
  transitions session := by
    have hsamples : (history.store.samples session).map (fun sample => (sample.time, sample.read)) =
        history.polls.filterMap (·.state? session) := by
      rw [history.samples_eq, List.map_filterMap]
      exact congrArg (history.polls.filterMap ·) (funext fun poll => poll.sample?_read session)
    have hread : (history.store.transitionsOf session).map (fun point =>
        (point.time, point.readPrevious, point.readLatest)) =
          (transitionsFrom session none history.polls).map fun point =>
            (point.time, point.previousState, point.latestState) := by
      rw [history.transitionsOf_eq]
      refine List.map_congr_left fun point hpoint => ?_
      obtain ⟨-, hprevious, hlatest⟩ := eq_of_mem_transitionsFrom hpoint
      rw [hprevious, hlatest]
    rw [hread, history.transitionsFrom_map, hsamples]

end NetOpsBench.Bgp
