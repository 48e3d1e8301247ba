import NetOpsBench.Bgp.Collector

/-!
# What the transition tracker knows

The tracker holds, for every session that a successful poll ever listed, its row in the latest
successful poll of its device, `MISSING` when that poll no longer lists it. A poll emits a transition
for exactly the sessions whose tracked state it changes.

`trackerAfter_state` is the first fact, and `transition_mem_collectDeviceBgp_iff` the second.
-/

namespace NetOpsBench.Bgp

/-- The last row of a successful poll for a session. -/
def Poll.row? (poll : Poll) (key : String × String) : Option BgpRow :=
  (currentRows poll.device poll.result.parsed).lookup key

/-- What a poll makes of the tracked row of one session. -/
def Poll.observe (poll : Poll) (key : String × String) (previous : Option BgpRow) :
    Option BgpRow :=
  if poll.result.ok ∧ poll.device = key.1 then
    match poll.row? key with
    | some current => some current
    | none => previous.map fun previous =>
        if previous.sessionState = "MISSING" then previous else previous.missing
  else
    previous

theorem device_of_mem_currentRows {device : String} {rows : List BgpRow} {key : String × String}
    (h : key ∈ currentRows device rows) : key.1 = device := by
  obtain ⟨item, hitem, rfl⟩ := Dict.mem_ofItems.mp h
  obtain ⟨row, -, rfl⟩ := List.mem_map.mp hitem
  rfl

/-- The sessions that a poll misses are the tracked ones of its device that it does not list, unless
they are missing already. -/
theorem lookup_missingRows (tracker : BgpTransitionTracker) (device : String)
    (rows : List BgpRow) (key : String × String) :
    (missingRows tracker device rows).lookup key = (tracker.lookup key).bind fun previous =>
      if key.1 = device ∧ key ∉ currentRows device rows ∧ previous.sessionState ≠ "MISSING" then
        some previous.missing
      else
        none :=
  Dict.lookup_filterMap ..

/-- The left dictionary of a union answers first. -/
theorem lookup_union (first second : Dict (String × String) BgpRow) (key : String × String) :
    (first ∪ second).lookup key = (first.lookup key).or (second.lookup key) := by
  by_cases h : key ∈ first
  · rw [AList.lookup_union_left h]
    obtain ⟨row, hrow⟩ := Option.isSome_iff_exists.mp (AList.lookup_isSome.mpr h)
    rw [hrow, Option.some_or]
  · rw [AList.lookup_union_right h, AList.lookup_eq_none.mpr h, Option.none_or]

/-- One poll updates every session on its own. -/
theorem collectDeviceBgp_lookup (tracker : BgpTransitionTracker) (poll : Poll)
    (key : String × String) :
    (collectDeviceBgp tracker poll).1.lookup key = poll.observe key (tracker.lookup key) := by
  show (tracker.process poll.device poll.result.parsed poll.time poll.result.ok).1.lookup key = _
  unfold BgpTransitionTracker.process Poll.observe Poll.row?
  cases hok : poll.result.ok with
  | false => simp
  | true =>
    simp only [Bool.not_true, Bool.false_eq_true, if_false, true_and]
    rw [lookup_union, lookup_union, lookup_missingRows]
    by_cases hcurrent : key ∈ currentRows poll.device poll.result.parsed
    · -- a listed session is not missing
      obtain ⟨row, hrow⟩ := Option.isSome_iff_exists.mp (AList.lookup_isSome.mpr hcurrent)
      rw [if_pos (device_of_mem_currentRows hcurrent).symm]
      simp [hcurrent, hrow]
    · rw [AList.lookup_eq_none.mpr hcurrent]
      by_cases hdevice : poll.device = key.1
      · rw [if_pos hdevice]
        cases hprevious : tracker.lookup key with
        | none => rfl
        | some previous =>
          by_cases hmissing : previous.sessionState = "MISSING"
          · simp [hmissing]
          · rw [hdevice] at hcurrent
            simp [hcurrent, hdevice, hmissing]
      · rw [if_neg hdevice]
        simp [Ne.symm hdevice]

/-- A poll changes the tracked state of a session that it has seen before. -/
def Changes (tracker : BgpTransitionTracker) (poll : Poll) (key : String × String)
    (previous current : BgpRow) : Prop :=
  poll.result.ok ∧ poll.device = key.1 ∧ tracker.lookup key = some previous ∧
    poll.observe key (some previous) = some current ∧
    previous.sessionState ≠ current.sessionState

theorem mem_filterMap_transitionTo {tracker : BgpTransitionTracker} {time : Nat}
    {rows : Dict (String × String) BgpRow} {point : TransitionPoint} :
    Line.transition point ∈
        rows.entries.filterMap (fun entry => transitionTo tracker time entry.1 entry.2) ↔
      ∃ key previous current, rows.lookup key = some current ∧
        tracker.lookup key = some previous ∧ previous.sessionState ≠ current.sessionState ∧
        point = buildBgpTransition key.1 key.2 previous current time := by
  rw [Dict.mem_filterMap_entries]
  simp only [transitionTo, Option.bind_eq_some_iff, Option.ite_none_right_eq_some,
    Option.some.injEq, Line.transition.injEq]
  constructor
  · rintro ⟨key, current, hcurrent, previous, hprevious, hne, rfl⟩
    exact ⟨key, previous, current, hcurrent, hprevious, hne, rfl⟩
  · rintro ⟨key, previous, current, hcurrent, hprevious, hne, rfl⟩
    exact ⟨key, current, hcurrent, previous, hprevious, hne, rfl⟩

/-- A poll emits a transition for exactly the sessions whose tracked state it changes. -/
theorem transition_mem_collectDeviceBgp_iff {tracker : BgpTransitionTracker} {poll : Poll}
    {point : TransitionPoint} :
    Line.transition point ∈ (collectDeviceBgp tracker poll).2 ↔
      ∃ key previous current, Changes tracker poll key previous current ∧
        point = buildBgpTransition key.1 key.2 previous current poll.time := by
  have hlines : Line.transition point ∈ (collectDeviceBgp tracker poll).2 ↔
      Line.transition point ∈
        (tracker.process poll.device poll.result.parsed poll.time poll.result.ok).2 := by
    simp [collectDeviceBgp, buildBgpLines]
  rw [hlines]
  unfold BgpTransitionTracker.process
  cases hok : poll.result.ok with
  | false => simp [Changes, hok]
  | true =>
    simp only [Bool.not_true, Bool.false_eq_true, if_false, List.mem_cons, reduceCtorEq,
      false_or, List.mem_append, mem_filterMap_transitionTo]
    constructor
    · rintro (⟨key, previous, current, hcurrent, hprevious, hne, rfl⟩ |
        ⟨key, previous, current, hcurrent, hprevious, hne, rfl⟩)
      · have hmem : key ∈ currentRows poll.device poll.result.parsed := by
          rw [← AList.lookup_isSome, hcurrent]
          rfl
        have hdevice := (device_of_mem_currentRows hmem).symm
        refine ⟨key, previous, current, ⟨hok, hdevice, hprevious, ?_, hne⟩, rfl⟩
        rw [Poll.observe, if_pos ⟨hok, hdevice⟩, Poll.row?, hcurrent]
      · rw [lookup_missingRows, hprevious, Option.bind_some, Option.ite_none_right_eq_some] at hcurrent
        obtain ⟨⟨hdevice, hmem, hmissing⟩, hcurrent⟩ := hcurrent
        refine ⟨key, previous, current, ⟨hok, hdevice.symm, hprevious, ?_, hne⟩, rfl⟩
        rw [Poll.observe, if_pos ⟨hok, hdevice.symm⟩, Poll.row?, AList.lookup_eq_none.mpr hmem]
        simp only [Option.map_some, if_neg hmissing, hcurrent]
    · rintro ⟨key, previous, current, ⟨-, hdevice, hprevious, hobserve, hne⟩, rfl⟩
      rw [Poll.observe, if_pos ⟨hok, hdevice⟩] at hobserve
      cases hrow : poll.row? key with
      | some row =>
        rw [hrow] at hobserve
        exact .inl ⟨key, previous, current, hrow.trans hobserve, hprevious, hne, rfl⟩
      | none =>
        rw [hrow] at hobserve
        have hmem := AList.lookup_eq_none.mp hrow
        simp only [Option.map_some, Option.some.injEq] at hobserve
        have hmissing : previous.sessionState ≠ "MISSING" := by
          intro hmissing
          rw [if_pos hmissing] at hobserve
          exact hne (congrArg _ hobserve)
        rw [if_neg hmissing] at hobserve
        refine .inr ⟨key, previous, current, ?_, hprevious, hne, rfl⟩
        rw [lookup_missingRows, hprevious, Option.bind_some,
          if_pos ⟨hdevice.symm, hmem, hmissing⟩, hobserve]

/-- The tracker emits a heartbeat and transitions, nothing else. -/
theorem mem_process_cases {tracker : BgpTransitionTracker} {device : String} {rows : List BgpRow}
    {time : Nat} {collectionOk : Bool} {line : Line}
    (h : line ∈ (tracker.process device rows time collectionOk).2) :
    line = .eventIndex { source := device, time, collectionOk } ∨
      ∃ point, line = .transition point := by
  have htransition : ∀ rows : Dict (String × String) BgpRow,
      line ∈ rows.entries.filterMap (fun entry => transitionTo tracker time entry.1 entry.2) →
        ∃ point, line = .transition point := by
    intro rows hmem
    obtain ⟨key, current, -, h⟩ := Dict.mem_filterMap_entries.mp hmem
    obtain ⟨previous, -, h⟩ := Option.bind_eq_some_iff.mp h
    rw [Option.ite_none_right_eq_some, Option.some.injEq] at h
    exact ⟨_, h.2.symm⟩
  unfold BgpTransitionTracker.process at h
  cases collectionOk with
  | false => exact .inl (List.mem_singleton.mp h)
  | true =>
    simp only [Bool.not_true, Bool.false_eq_true, if_false, List.mem_cons, List.mem_append] at h
    rcases h with rfl | h | h
    · exact .inl rfl
    · exact .inr (htransition _ h)
    · exact .inr (htransition _ h)

/-! ## Many polls -/

/-- The clock of a device's polls. -/
def TimesIncrease (polls : List Poll) : Prop :=
  polls.Pairwise fun earlier later => earlier.device = later.device → earlier.time < later.time

theorem collectPolls_append (tracker : BgpTransitionTracker) (first second : List Poll) :
    collectPolls tracker (first ++ second) =
      ((collectPolls (collectPolls tracker first).1 second).1,
        (collectPolls tracker first).2 ++ (collectPolls (collectPolls tracker first).1 second).2) := by
  induction first generalizing tracker with
  | nil => rfl
  | cons poll polls ih =>
    simp only [List.cons_append, collectPolls, ih]

/-- The tracker of a collector process after some polls. -/
def trackerAfter (polls : List Poll) : BgpTransitionTracker := (collectPolls ∅ polls).1

@[simp] theorem trackerAfter_nil : trackerAfter [] = ∅ := rfl

theorem trackerAfter_append (before polls : List Poll) :
    (collectPolls (trackerAfter before) polls).1 = trackerAfter (before ++ polls) := by
  rw [trackerAfter, trackerAfter, collectPolls_append]

theorem trackerAfter_concat (polls : List Poll) (poll : Poll) :
    trackerAfter (polls ++ [poll]) = (collectDeviceBgp (trackerAfter polls) poll).1 := by
  rw [← trackerAfter_append]
  rfl

/-- One poll changes the tracked row of a session to what it observes of the session. -/
theorem lookup_trackerAfter_concat (polls : List Poll) (poll : Poll) (key : String × String) :
    (trackerAfter (polls ++ [poll])).lookup key =
      poll.observe key ((trackerAfter polls).lookup key) := by
  rw [trackerAfter_concat, collectDeviceBgp_lookup]

/-- The state of a session in a poll of its device: that of its row, `MISSING` for a session that an
earlier successful poll listed, and none for a session never listed. -/
def stateIn (earlier : List Poll) (poll : Poll) (neighbor : String) : Option String :=
  match poll.row? (poll.device, neighbor) with
  | some row => some row.sessionState
  | none =>
    if ∃ previous ∈ earlier, previous.result.ok ∧
        (previous.row? (poll.device, neighbor)).isSome then
      some "MISSING"
    else
      none

theorem row?_isSome_device {poll : Poll} {key : String × String} (h : (poll.row? key).isSome) :
    poll.device = key.1 :=
  (device_of_mem_currentRows (AList.lookup_isSome.mp h)).symm

/-- The tracker knows the sessions that a successful poll listed. -/
theorem lookup_trackerAfter_isSome_iff (polls : List Poll) (key : String × String) :
    ((trackerAfter polls).lookup key).isSome ↔
      ∃ poll ∈ polls, poll.result.ok ∧ (poll.row? key).isSome := by
  induction polls using List.reverseRecOn with
  | nil => simp
  | append_singleton polls poll ih =>
    rw [lookup_trackerAfter_concat, Poll.observe]
    simp only [List.mem_append, List.mem_singleton, or_and_right, exists_or, exists_eq_left, ← ih]
    by_cases hok : poll.result.ok ∧ poll.device = key.1
    · rw [if_pos hok]
      cases hrow : poll.row? key with
      | some row => simp [hok.1]
      | none => simp
    · rw [if_neg hok]
      constructor
      · exact .inl
      · rintro (h | ⟨hpoll, hrow⟩)
        · exact h
        · exact absurd ⟨hpoll, row?_isSome_device hrow⟩ hok

/-- After a successful poll the tracker holds the states of that poll. -/
theorem trackerAfter_state (earlier : List Poll) {poll : Poll} (hok : poll.result.ok)
    (neighbor : String) :
    ((trackerAfter (earlier ++ [poll])).lookup (poll.device, neighbor)).map BgpRow.sessionState =
      stateIn earlier poll neighbor := by
  rw [lookup_trackerAfter_concat, Poll.observe, if_pos ⟨hok, rfl⟩, stateIn]
  cases hrow : poll.row? (poll.device, neighbor) with
  | some row => rfl
  | none =>
    simp only [← lookup_trackerAfter_isSome_iff]
    cases (trackerAfter earlier).lookup (poll.device, neighbor) with
    | none => rfl
    | some previous =>
      by_cases hmissing : previous.sessionState = "MISSING"
      · simp [hmissing]
      · simp [hmissing]

end NetOpsBench.Bgp
