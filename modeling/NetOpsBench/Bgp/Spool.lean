import NetOpsBench.Bgp.Tracker

/-!
# The spool of a collector process

A round polls the fleet over a thread pool and hands each result to the spool as it completes. The
tracker has advanced by then: a result that the spool refuses, and every result the round drops
after the refusal, is lost with the transitions in it. While no lost poll had a transition to
report, two good heartbeats of a device prove that the spool has the transitions between them.

`heartbeats_prove_coverage` is this result, over every run whose rounds are `Lossless`; it goes through
`recorded_of_lossless`, by which the lines of every poll with a transition due are in the spool.
`refusedDown_not_proved` is a run in which two good heartbeats enclose a transition that was refused.
-/

namespace NetOpsBench.Bgp

/-- The collector process; its spool is every line that a write accepted. -/
structure BgpCollector where
  tracker : BgpTransitionTracker
  spool : List Line

/-- One paced round: its polls as the tracker saw them, and the positions of the results that were
written, in the order of the writes. A refused write ends the round, an interrupted round has fewer
polls. -/
structure Round where
  polls : List Poll
  written : List Nat

def collectBgpLinesPaced (collector : BgpCollector) (round : Round) : BgpCollector :=
  let (tracker, results) := collectPolls collector.tracker round.polls
  { tracker
    spool := collector.spool ++ round.written.flatMap fun index => results[index]?.getD [] }

def runLoop (rounds : List Round) : BgpCollector :=
  rounds.foldl collectBgpLinesPaced { tracker := ∅, spool := [] }

theorem runLoop_concat (rounds : List Round) (round : Round) :
    runLoop (rounds ++ [round]) = collectBgpLinesPaced (runLoop rounds) round := by
  rw [runLoop, List.foldl_append]
  rfl

/-- All polls of a run, in the order of the tracker. -/
def history (rounds : List Round) : List Poll := rounds.flatMap (·.polls)

theorem history_concat (rounds : List Round) (round : Round) :
    history (rounds ++ [round]) = history rounds ++ round.polls := by
  simp [history]

/-- The tracker of a run has seen all of its polls, also those whose results were lost. -/
theorem runLoop_tracker (rounds : List Round) :
    (runLoop rounds).tracker = trackerAfter (history rounds) := by
  induction rounds using List.reverseRecOn with
  | nil => rfl
  | append_singleton rounds round ih =>
    rw [runLoop_concat, history_concat, ← trackerAfter_append, ← ih]
    rfl

/-! ## What the heartbeats promise -/

/-- A run of the collector process under a clock that does not go back. -/
structure CollectorRun where
  rounds : List Round
  clock : TimesIncrease (history rounds)

/-- The good heartbeat of a poll. -/
def Poll.heartbeat (poll : Poll) : Line :=
  .eventIndex { source := poll.device, time := poll.time, collectionOk := true }

/-- Between two good heartbeats of a device in the spool, a session whose states differ has a
transition in the spool. -/
def HeartbeatsProveCoverage (rounds : List Round) : Prop :=
  ∀ earlier first rest, history rounds = earlier ++ first :: rest →
  ∀ earlier' second rest', history rounds = earlier' ++ second :: rest' →
  first.device = second.device → first.time < second.time →
  first.result.ok → first.heartbeat ∈ (runLoop rounds).spool →
  second.result.ok → second.heartbeat ∈ (runLoop rounds).spool →
  ∀ neighbor before after, stateIn earlier first neighbor = some before →
  stateIn earlier' second neighbor = some after → before ≠ after →
  ∃ point, Line.transition point ∈ (runLoop rounds).spool ∧ point.source = first.device ∧
    point.neighborAddress = neighbor ∧ first.time < point.time ∧ point.time ≤ second.time

/-- A successful poll that finds a session in another state than the tracker has for it. -/
def TransitionDue (tracker : BgpTransitionTracker) (poll : Poll) : Prop :=
  poll.result.ok ∧ ∃ neighbor previous, tracker.lookup (poll.device, neighbor) = some previous ∧
    match poll.row? (poll.device, neighbor) with
    | some current => previous.sessionState ≠ current.sessionState
    | none => previous.sessionState ≠ "MISSING"

/-- The tracker that a poll of a round meets. -/
def trackerBefore (collector : BgpCollector) (round : Round) (index : Nat) :
    BgpTransitionTracker :=
  (collectPolls collector.tracker (round.polls.take index)).1

/-- A round loses no poll with a transition due. -/
def Lossless (collector : BgpCollector) (round : Round) : Prop :=
  ∀ index poll, round.polls[index]? = some poll → index ∉ round.written →
    ¬ TransitionDue (trackerBefore collector round index) poll

theorem transitionDue_of_changes {tracker : BgpTransitionTracker} {poll : Poll}
    {key : String × String} {previous current : BgpRow}
    (h : Changes tracker poll key previous current) : TransitionDue tracker poll := by
  obtain ⟨hok, hdevice, hprevious, hobserve, hne⟩ := h
  obtain ⟨device, neighbor⟩ := key
  cases hdevice
  refine ⟨hok, neighbor, previous, hprevious, ?_⟩
  rw [Poll.observe, if_pos ⟨hok, rfl⟩] at hobserve
  cases hrow : poll.row? (poll.device, neighbor) with
  | some row =>
    rw [hrow] at hobserve
    cases hobserve
    exact hne
  | none =>
    rw [hrow] at hobserve
    intro hmissing
    simp only [Option.map_some, if_pos hmissing, Option.some.injEq] at hobserve
    exact hne (congrArg _ hobserve)

/-! ## Every due transition is in the spool -/

theorem length_collectPolls (tracker : BgpTransitionTracker) (polls : List Poll) :
    (collectPolls tracker polls).2.length = polls.length := by
  induction polls generalizing tracker with
  | nil => rfl
  | cons poll polls ih => simp [collectPolls, ih]

/-- The lines of a poll of a round. -/
theorem collectPolls_getElem? (tracker : BgpTransitionTracker) {polls before after : List Poll}
    {poll : Poll} (h : polls = before ++ poll :: after) :
    (collectPolls tracker polls).2[before.length]? =
      some (collectDeviceBgp (collectPolls tracker before).1 poll).2 := by
  rw [h, collectPolls_append, List.getElem?_append_right (length_collectPolls ..).le,
    length_collectPolls, Nat.sub_self]
  rfl

/-- The lines of every poll with a transition due are in the spool. -/
def Recorded (rounds : List Round) : Prop :=
  ∀ before poll after, history rounds = before ++ poll :: after →
    TransitionDue (trackerAfter before) poll →
    ∀ line ∈ (collectDeviceBgp (trackerAfter before) poll).2, line ∈ (runLoop rounds).spool

/-- A round without losses records the transitions of its polls. -/
theorem recorded_concat {rounds : List Round} {round : Round} (h : Recorded rounds)
    (hlossless : Lossless (runLoop rounds) round) : Recorded (rounds ++ [round]) := by
  intro before poll after hsplit hdue line hline
  rw [runLoop_concat]
  show line ∈ (runLoop rounds).spool ++ _
  rw [history_concat] at hsplit
  have hround : ∀ earlier, before = history rounds ++ earlier →
      round.polls = earlier ++ poll :: after →
      line ∈ (runLoop rounds).spool ++ round.written.flatMap fun index =>
        (collectPolls (runLoop rounds).tracker round.polls).2[index]?.getD [] := by
    rintro earlier rfl hpolls
    refine List.mem_append_right _ (List.mem_flatMap.mpr ⟨earlier.length, ?_, ?_⟩)
    · by_contra hwritten
      refine hlossless earlier.length poll ?_ hwritten ?_
      · rw [hpolls, List.getElem?_append_right (Nat.le_refl _), Nat.sub_self]
        rfl
      · rw [trackerBefore, hpolls, List.take_left, runLoop_tracker, trackerAfter_append]
        exact hdue
    · rw [collectPolls_getElem? _ hpolls, Option.getD_some, runLoop_tracker, trackerAfter_append]
      exact hline
  rcases List.append_eq_append_iff.mp hsplit with ⟨earlier, hbefore, hpolls⟩ | ⟨later, hhistory, hrest⟩
  · exact hround earlier hbefore hpolls
  · cases later with
    | nil => exact hround [] (by simpa using hhistory.symm) hrest.symm
    | cons first later =>
      -- the poll is one of an earlier round
      rw [List.cons_append, List.cons.injEq] at hrest
      obtain ⟨rfl, hrest⟩ := hrest
      exact List.mem_append_left _ (h before poll later hhistory hdue line hline)

/-- In a run without losses every transition that was due is in the spool. -/
theorem recorded_of_lossless {rounds : List Round}
    (h : ∀ before round after, rounds = before ++ round :: after →
      Lossless (runLoop before) round) : Recorded rounds := by
  induction rounds using List.reverseRecOn with
  | nil =>
    intro before poll after hsplit
    simp [history] at hsplit
  | append_singleton rounds round ih =>
    refine recorded_concat (ih fun before round' after hrounds => ?_) (h rounds round [] rfl)
    exact h before round' (after ++ [round]) (by rw [hrounds, List.append_assoc, List.cons_append])

/-! ## A difference is a transition -/

/-- Some poll changes a state that is another one at the end. -/
theorem exists_changes {key : String × String} (polls : List Poll) {before : List Poll}
    {previous latest : BgpRow} (hprevious : (trackerAfter before).lookup key = some previous)
    (hlatest : (trackerAfter (before ++ polls)).lookup key = some latest)
    (hne : previous.sessionState ≠ latest.sessionState) :
    ∃ middle poll after, polls = middle ++ poll :: after ∧
      ∃ row row', Changes (trackerAfter (before ++ middle)) poll key row row' := by
  induction polls generalizing before previous with
  | nil =>
    rw [List.append_nil, hprevious] at hlatest
    cases hlatest
    exact absurd rfl hne
  | cons poll polls ih =>
    have hstep := lookup_trackerAfter_concat before poll key
    rw [hprevious] at hstep
    obtain ⟨current, hcurrent⟩ : ∃ current, poll.observe key (some previous) = some current := by
      unfold Poll.observe
      split
      · split <;> exact ⟨_, rfl⟩
      · exact ⟨_, rfl⟩
    by_cases hchange : previous.sessionState = current.sessionState
    · rw [List.append_cons] at hlatest
      rw [hchange] at hne
      obtain ⟨middle, poll', after, rfl, hchanges⟩ := ih (hstep.trans hcurrent) hlatest hne
      refine ⟨poll :: middle, poll', after, rfl, ?_⟩
      rw [List.append_cons]
      exact hchanges
    · refine ⟨[], poll, polls, rfl, previous, current, ?_⟩
      rw [List.append_nil]
      have hobserved : poll.result.ok ∧ poll.device = key.1 := by
        by_contra hother
        rw [Poll.observe, if_neg hother] at hcurrent
        cases hcurrent
        exact hchange rfl
      exact ⟨hobserved.1, hobserved.2, hprevious, hcurrent, hchange⟩

/-- The later of two polls of a device is further down the history. -/
theorem exists_between {polls earlier rest earlier' rest' : List Poll} {first second : Poll}
    (htimes : TimesIncrease polls) (hfirst : polls = earlier ++ first :: rest)
    (hsecond : polls = earlier' ++ second :: rest') (hdevice : first.device = second.device)
    (hlt : first.time < second.time) : ∃ middle, earlier' = earlier ++ first :: middle := by
  subst hfirst
  rcases List.append_eq_append_iff.mp hsecond with ⟨middle, rfl, hrest⟩ | ⟨middle, rfl, hrest⟩
  · cases middle with
    | nil =>
      rw [List.nil_append, List.cons.injEq] at hrest
      rw [hrest.1] at hlt
      exact absurd hlt (Nat.lt_irrefl _)
    | cons poll middle =>
      rw [List.cons_append, List.cons.injEq] at hrest
      rw [hrest.1]
      exact ⟨middle, rfl⟩
  · cases middle with
    | nil =>
      rw [List.nil_append, List.cons.injEq] at hrest
      rw [← hrest.1] at hlt
      exact absurd hlt (Nat.lt_irrefl _)
    | cons poll middle =>
      -- the second poll would come first
      rw [List.cons_append, List.cons.injEq] at hrest
      obtain ⟨rfl, -⟩ := hrest
      have hpair : second.time < first.time := by
        rw [TimesIncrease, List.append_assoc, List.pairwise_append] at htimes
        refine (List.pairwise_cons.mp htimes.2.1).1 first ?_ hdevice.symm
        simp
      omega

/-- As long as no lost poll had a transition due, the heartbeats prove the coverage of the
transition index. -/
theorem heartbeats_prove_coverage (run : CollectorRun)
    (hlossless : ∀ before round after, run.rounds = before ++ round :: after →
      Lossless (runLoop before) round) : HeartbeatsProveCoverage run.rounds := by
  intro earlier first rest hfirst earlier' second rest' hsecond hdevice hlt hok _ hok' _
    neighbor before after hbefore hafter hne
  have hrecorded := recorded_of_lossless hlossless
  obtain ⟨middle, rfl⟩ := exists_between run.clock hfirst hsecond hdevice hlt
  have hstate := trackerAfter_state earlier hok neighbor
  have hstate' := trackerAfter_state (earlier ++ first :: middle) hok' neighbor
  rw [hbefore, Option.map_eq_some_iff] at hstate
  rw [hafter, Option.map_eq_some_iff, ← hdevice] at hstate'
  obtain ⟨previous, hprevious, rfl⟩ := hstate
  obtain ⟨latest, hlatest, rfl⟩ := hstate'
  have hsplit : earlier ++ first :: middle ++ [second] =
      (earlier ++ [first]) ++ (middle ++ [second]) := by simp
  rw [hsplit] at hlatest
  obtain ⟨middle', poll, after, hpolls, row, row', hchanges⟩ :=
    exists_changes _ hprevious hlatest hne
  have htimes := run.clock
  have hhistory : history run.rounds =
      (earlier ++ [first] ++ middle') ++ poll :: (after ++ rest') := by
    calc history run.rounds = (earlier ++ [first]) ++ (middle ++ [second]) ++ rest' := by
          rw [hsecond]; simp
      _ = _ := by rw [hpolls]; simp
  have hspool := hrecorded _ _ _ hhistory (transitionDue_of_changes hchanges)
  refine ⟨buildBgpTransition first.device neighbor row row' poll.time,
    hspool _ (transition_mem_collectDeviceBgp_iff.mpr ⟨_, row, row', hchanges, rfl⟩),
    rfl, rfl, ?_, ?_⟩
  · -- the poll comes after the first one
    show first.time < poll.time
    rw [hhistory, TimesIncrease, List.append_assoc, List.append_assoc, List.pairwise_append] at htimes
    refine (List.pairwise_cons.mp htimes.2.1).1 poll (by simp) hchanges.2.1.symm
  · show poll.time ≤ second.time
    have hmem : poll ∈ middle ++ [second] := by rw [hpolls]; simp
    rcases List.mem_append.mp hmem with hmem | hmem
    · rw [hsecond, TimesIncrease, List.append_assoc, List.pairwise_append] at htimes
      have hpair := (List.pairwise_append.mp (List.pairwise_cons.mp htimes.2.1).2).2.2
      exact (hpair poll hmem second List.mem_cons_self (hchanges.2.1.trans hdevice)).le
    · rw [List.mem_singleton.mp hmem]

/-! ## One session that goes down -/

def sessionRow (state : String) (h : ∃ c ∈ state.toList, ¬ Python.isSpace c) : BgpRow where
  neighbor := "10.1.1.1"
  asn := some 65001
  state := some state
  prefixesReceived := none
  state_word := by
    intro word hword
    cases hword
    exact h

def established : BgpRow := sessionRow "Established" ⟨'E', by decide, by decide⟩
def idle : BgpRow := sessionRow "Idle" ⟨'I', by decide, by decide⟩

def leafPoll (time : Nat) (row : BgpRow) : Poll where
  device := "leaf1"
  time
  result := .listed [row]
  includeFullSnapshot := true

/-- A round that polls one leaf; its result is written, or refused by the spool. -/
def leafRound (time : Nat) (row : BgpRow) (accepted : Bool) : Round where
  polls := [leafPoll time row]
  written := if accepted then [0] else []

/-- The spool refuses the poll that sees the session go down. -/
def refusedDown : CollectorRun where
  rounds := [leafRound 10 established true, leafRound 20 idle false, leafRound 30 idle true]
  clock := by simp [TimesIncrease, history, leafRound, leafPoll]

def Line.isTransition : Line → Bool
  | .transition _ => true
  | _ => false

/-- The transition is lost, and the next heartbeat still vouches for it. -/
theorem refusedDown_not_proved : ¬ HeartbeatsProveCoverage refusedDown.rounds := by
  have hlines : (runLoop refusedDown.rounds).spool.all (fun line => !line.isTransition) = true := by
    decide +kernel
  intro h
  obtain ⟨point, hmem, -⟩ := h [] (leafPoll 10 established) _ rfl
    [leafPoll 10 established, leafPoll 20 idle] (leafPoll 30 idle) [] rfl rfl (by decide)
    (by decide) (by decide +kernel) (by decide) (by decide +kernel) "10.1.1.1" "ESTABLISHED"
    "IDLE" (by decide +kernel) (by decide +kernel) (by decide)
  have hline := List.all_eq_true.mp hlines _ hmem
  cases hline

/-- The spool refuses a poll that sees nothing new. -/
def refusedIdle : CollectorRun where
  rounds := [leafRound 10 established true, leafRound 20 established false, leafRound 30 idle true]
  clock := by simp [TimesIncrease, history, leafRound, leafPoll]

theorem lossless_leafRound_true (collector : BgpCollector) (time : Nat) (row : BgpRow) :
    Lossless collector (leafRound time row true) := by
  intro index poll hpoll hwritten
  cases index with
  | zero => exact absurd List.mem_cons_self hwritten
  | succ index => cases hpoll

theorem lossless_refusedIdle :
    Lossless (runLoop [leafRound 10 established true]) (leafRound 20 established false) := by
  intro index poll hpoll _
  cases index with
  | succ index => cases hpoll
  | zero =>
    cases hpoll
    -- the only session of the tracker keeps its state
    rintro ⟨-, neighbor, previous, hprevious, hne⟩
    by_cases hneighbor : neighbor = "10.1.1.1"
    · subst hneighbor
      cases hprevious
      exact hne rfl
    · have hmem : ("leaf1", neighbor) ∈ (runLoop [leafRound 10 established true]).tracker := by
        rw [← AList.lookup_isSome]
        exact Option.isSome_of_mem hprevious
      have hkeys : (runLoop [leafRound 10 established true]).tracker.keys =
          [("leaf1", "10.1.1.1")] := by decide +kernel
      rw [AList.mem_keys, hkeys, List.mem_singleton, Prod.mk.injEq] at hmem
      exact hneighbor hmem.2

theorem refusedIdle_proved : HeartbeatsProveCoverage refusedIdle.rounds := by
  refine heartbeats_prove_coverage refusedIdle ?_
  intro before round after hrounds
  rcases before with _ | ⟨first, _ | ⟨second, _ | ⟨third, before⟩⟩⟩ <;>
    simp only [refusedIdle, List.nil_append, List.cons_append, List.cons.injEq, List.nil_eq,
      List.append_eq_nil_iff, reduceCtorEq, and_false] at hrounds
  · obtain ⟨rfl, -⟩ := hrounds
    exact lossless_leafRound_true _ _ _
  · obtain ⟨rfl, rfl, -⟩ := hrounds
    exact lossless_refusedIdle
  · obtain ⟨rfl, rfl, rfl, -⟩ := hrounds
    exact lossless_leafRound_true _ _ _

end NetOpsBench.Bgp
