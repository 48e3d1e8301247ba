import NetOpsBench.Pingmesh.Schedule

/-!
# Probe coverage of one epoch

An epoch of the probe loop schedules every RTT probe of the agent once. The destination batches
partition the targets, the port batches partition the socket pool, and the counter pairs them as
the cells of a grid; the three facts are the tilings of `Data.Tiling` at the values the loop
computes.

`probe_coverage` is the main result, for every accepted configuration, and every window of one epoch in
which the counter does not wrap around. `ProbeLoop.Of` says what the loop of such a configuration works
with, and `ProbeLoop.Of.epoch_rttProbes_perm` is the tiling.
-/

namespace NetOpsBench.Pingmesh
open ClientAgent Tiling
open scoped List

/-! ## The probes of one cycle -/

/-- A schedule has every active target with every active socket. -/
theorem rttProbes_eq_product (cycle : ProbeCycle) :
    (buildProbeSchedule cycle.activeTargets.length cycle.activeSockets.length).filterMap
        cycle.rttProbe =
      cycle.activeTargets.map (·.client) ×ˢ cycle.activeSockets := by
  have htarget : ∀ targetIndex < cycle.activeTargets.length,
      ((List.range cycle.activeSockets.length).map
          (fun socketIndex => (ProbeKind.rtt, targetIndex, socketIndex)) ++
        if cycle.activeSockets.length > 0 then
          [(ProbeKind.df, targetIndex, targetIndex % cycle.activeSockets.length)]
        else []).filterMap cycle.rttProbe =
      cycle.activeTargets[targetIndex]?.elim []
        fun target => cycle.activeSockets.map fun port => (target.client, port) := by
    intro targetIndex htarget
    rw [List.filterMap_append, List.filterMap_map, List.getElem?_eq_getElem htarget]
    have hdf : (if cycle.activeSockets.length > 0 then
        [(ProbeKind.df, targetIndex, targetIndex % cycle.activeSockets.length)]
        else []).filterMap cycle.rttProbe = [] := by
      split <;> simp [ProbeCycle.rttProbe]
    rw [hdf, List.append_nil]
    refine Eq.trans ?_ (filterMap_range_getElem? cycle.activeSockets _)
    simp [ProbeCycle.rttProbe, List.getElem?_eq_getElem htarget, Function.comp_def]
  rw [buildProbeSchedule, List.filterMap_flatMap]
  calc _ = (List.range cycle.activeTargets.length).flatMap (fun targetIndex =>
        cycle.activeTargets[targetIndex]?.elim []
          fun target => cycle.activeSockets.map fun port => (target.client, port)) :=
        List.flatMap_congr fun targetIndex h => htarget targetIndex (List.mem_range.mp h)
    _ = cycle.activeTargets.flatMap
          fun target => cycle.activeSockets.map fun port => (target.client, port) :=
        flatMap_range_getElem? _ _
    _ = _ := (List.flatMap_map (fun target : Target => target.client)
        (fun client => cycle.activeSockets.map fun port => (client, port)) _).symm

/-- A rotation loses nothing. -/
theorem rotateProbeSchedule_perm (queue : List α) (phase : Nat) :
    rotateProbeSchedule queue phase ~ queue := by
  unfold rotateProbeSchedule
  split
  · exact .refl _
  · exact List.rotate_perm _ _

/-- A cycle sends one RTT probe over every active socket to every active target. -/
theorem ProbeLoop.cycle_rttProbes_perm (loop : ProbeLoop) (counter : Nat) :
    (loop.cycle counter).rttProbes ~
      (loop.cycle counter).activeTargets.map (·.client) ×ˢ (loop.cycle counter).activeSockets := by
  rw [← rttProbes_eq_product]
  exact (rotateProbeSchedule_perm _ _).filterMap _

/-! ## The targets -/

/-- The other clients of the configuration. -/
def otherClients (config : ClientAgentConfig) (localClient : Client) : List Client :=
  config.clients.filter (·.name ≠ localClient.name)

theorem localIndex_eq {config : ClientAgentConfig} {localClient : Client}
    (hnames : (config.clients.map (·.name)).Nodup) (hlocal : localClient ∈ config.clients) :
    ∃ i, ∃ hi : i < config.clients.length, localIndex config localClient = some i ∧
      config.clients[i] = localClient := by
  cases hindex : localIndex config localClient with
  | none =>
    rw [localIndex, List.findIdx?_eq_none_iff] at hindex
    simpa using hindex localClient hlocal
  | some i =>
    obtain ⟨hi, hname, -⟩ := List.findIdx?_eq_some_iff_getElem.mp hindex
    have hname : config.clients[i].name = localClient.name := by simpa using hname
    exact ⟨i, hi, rfl,
      List.inj_on_of_nodup_map hnames (List.getElem_mem hi) hlocal hname⟩

theorem localClient_cons_otherClients_perm {config : ClientAgentConfig} {localClient : Client}
    (hnames : (config.clients.map (·.name)).Nodup) (hlocal : localClient ∈ config.clients) :
    localClient :: otherClients config localClient ~ config.clients := by
  have hnodup := hnames.of_map
  refine (List.perm_ext_iff_of_nodup ?_ hnodup).mpr fun client => ?_
  · exact List.nodup_cons.mpr ⟨by simp [otherClients], hnodup.filter _⟩
  · simp only [otherClients, List.mem_cons, List.mem_filter, decide_eq_true_eq]
    constructor
    · rintro (rfl | ⟨h, -⟩)
      · exact hlocal
      · exact h
    · intro h
      by_cases hname : client.name = localClient.name
      · exact .inl (List.inj_on_of_nodup_map hnames h hlocal hname)
      · exact .inr ⟨h, hname⟩

theorem buildTargets_spec {config : ClientAgentConfig} {localClient : Client}
    (hnames : (config.clients.map (·.name)).Nodup) (hlocal : localClient ∈ config.clients) :
    ∃ targets, buildTargets config localClient = some targets ∧
      targets.map (·.client) ~ otherClients config localClient ∧
      targets.length = config.clients.length - 1 := by
  obtain ⟨i, hi, hindex, hclient⟩ := localIndex_eq hnames hlocal
  have hpos : 0 < config.clients.length := by omega
  simp only [buildTargets, hindex, Option.bind_some]
  rw [mapM_some (g := fun offset =>
    let client := config.clients.getD ((i + offset) % config.clients.length) localClient
    { client, pathType := if client.rack = localClient.rack then "same_rack" else "cross_rack" })
    fun offset _ => by
      rw [List.getElem?_eq_getElem (Nat.mod_lt _ hpos),
        List.getD_eq_getElem _ _ (Nat.mod_lt _ hpos)]
      rfl]
  refine ⟨_, rfl, ?_, by simp⟩
  rw [List.map_map]
  have hcyclic := cyclic_perm hi localClient
  rw [hclient] at hcyclic
  exact (hcyclic.trans (localClient_cons_otherClients_perm hnames hlocal).symm).cons_inv

/-! ## The batches -/

theorem clamp_clamp (value high : Nat) (h : 1 ≤ high) :
    clamp (clamp value 1 high) 1 high = clamp value 1 high := by
  simp only [clamp]; omega

/-- Below the batch count, a destination batch is one strided traversal of the rotated list. -/
theorem rotatingDestinationBatch_eq {targets : List α} {size batch phase : Nat}
    (hb : batch < divCeil targets.length (clamp size 1 targets.length)) :
    rotatingDestinationBatch targets size batch phase =
      stepFrom (divCeil targets.length (clamp size 1 targets.length)) batch
        (targets.drop (phase % targets.length) ++ targets.take (phase % targets.length)) := by
  cases targets with
  | nil => simp [rotatingDestinationBatch]
  | cons x xs =>
    simp only [rotatingDestinationBatch, List.isEmpty_cons, Bool.false_eq_true, if_false]
    rw [stepFrom_drop, Nat.mod_eq_of_lt hb]

theorem mem_of_mem_rotatingDestinationBatch {targets : List α} {size batch phase : Nat} {target : α}
    (h : target ∈ rotatingDestinationBatch targets size batch phase) : target ∈ targets := by
  unfold rotatingDestinationBatch at h
  split at h
  · cases h
  · have h := List.mem_of_mem_drop (mem_of_mem_stepFrom h)
    rcases List.mem_append.mp h with h | h
    · exact List.mem_of_mem_drop h
    · exact List.mem_of_mem_take h

/-- The destination batches partition the targets. -/
theorem flatMap_rotatingDestinationBatch_perm {targets : List α} {size : Nat} (phase : Nat)
    (h : targets ≠ []) :
    (List.range (divCeil targets.length (clamp size 1 targets.length))).flatMap
        (fun batch => rotatingDestinationBatch targets size batch phase) ~ targets := by
  have hlen : 0 < targets.length := List.length_pos_of_ne_nil h
  rw [List.flatMap_congr fun batch hb => rotatingDestinationBatch_eq (List.mem_range.mp hb)]
  refine (flatMap_stepFrom_perm (divCeil_pos hlen (clamp_pos hlen)) _).trans ?_
  exact List.perm_append_comm.trans (.of_eq (List.take_append_drop _ _))

theorem extract_range (n start stop : Nat) (h : stop ≤ n) :
    (List.range n).extract start stop = List.range' start (stop - start) := by
  rw [List.extract_eq_take_drop]
  exact List.ext_getElem (by simp; omega) (by simp)

/-- The counter runs through the batches as through the cells of a grid. -/
theorem probeBatchIndices_eq_gridCell {columns rows : Nat} (hc : 0 < columns) (hr : 0 < rows)
    (counter phase : Nat) :
    probeBatchIndices counter columns rows phase = gridCell columns rows phase counter := by
  simp only [probeBatchIndices, gridCell, Nat.max_eq_left hc, Nat.max_eq_left hr]

/-- Without a wrap-around of the counter, the loop runs through consecutive cycles. -/
theorem iterate_nextCycle {start count : Nat} (h : start + count ≤ 2 ^ 64) :
    List.iterate nextCycle start count = List.range' start count := by
  induction count generalizing start with
  | zero => rfl
  | succ count ih =>
    rw [List.iterate, List.range'_succ]
    congr 1
    cases count with
    | zero => rfl
    | succ count =>
      have hnext : nextCycle start = start + 1 := Nat.mod_eq_of_lt (by omega)
      rw [hnext]
      exact ih (by omega)

/-! ## One epoch -/

section
variable {config : ClientAgentConfig} {localClient : Client} {hostSeed : Nat} {loop : ProbeLoop}

/-- What the loop of an accepted configuration works with. -/
structure ProbeLoop.Of (config : ClientAgentConfig) (localClient : Client) (loop : ProbeLoop) :
    Prop where
  policy : loop.policy = config.pingmeshPolicy
  targets : loop.targets.map (·.client) ~ otherClients config localClient
  sockets : loop.sockets = List.range config.pingmeshPolicy.rttPortPoolSize
  targets_ne_nil : loop.targets ≠ []
  destinationBatches : config.pingmeshPolicy.destinationBatchCount =
    divCeil loop.targets.length (clamp loop.destinationBatchSize 1 loop.targets.length)

/-- The loop of an accepted configuration starts, with what it derives. -/
theorem probeLoop_spec (haccepted : Accepted config)
    (hnames : (config.clients.map (·.name)).Nodup) (hlocal : localClient ∈ config.clients)
    (hostSeed : Nat) :
    ∃ loop, probeLoop config localClient hostSeed = some loop ∧ loop.Of config localClient := by
  obtain ⟨targets, htargets, hperm, hlen⟩ := buildTargets_spec hnames hlocal
  have htwo := haccepted.two_clients
  refine ⟨_, by rw [probeLoop, htargets]; rfl, ?_⟩
  exact {
    policy := rfl
    targets := hperm
    sockets := rfl
    targets_ne_nil := by rintro rfl; simp at hlen; omega
    destinationBatches := by
      rw [clamp_clamp _ _ (by omega), haccepted.destinationBatches, hlen] }

/-- A cycle reads its batch of targets and its batch of sockets off the cell of its counter. -/
theorem ProbeLoop.Of.cycle_eq (hloop : loop.Of config localClient) (haccepted : Accepted config)
    (counter : Nat) :
    ((loop.cycle counter).destinationBatch, (loop.cycle counter).portBatch) =
      gridCell config.pingmeshPolicy.destinationBatchCount config.pingmeshPolicy.portBatchCount
        loop.portPhase counter := by
  rw [← probeBatchIndices_eq_gridCell haccepted.destinationBatchCount_pos
    haccepted.portBatchCount_pos, ← hloop.policy]
  rfl

/-- The active sockets of a cycle are those of its port batch. -/
theorem ProbeLoop.Of.activeSockets_eq (hloop : loop.Of config localClient) (counter : Nat) :
    (loop.cycle counter).activeSockets = chunk config.pingmeshPolicy.rttPortPoolSize
      config.pingmeshPolicy.rttPortsPerCycle (loop.cycle counter).portBatch := by
  rw [← hloop.policy]
  show loop.sockets.extract _ _ = _
  rw [hloop.sockets, extract_range _ _ _ (by simp), chunk, List.length_range, ← hloop.policy]
  rfl

/-- Over an epoch the active targets of the destination batches, paired with anything that the
port batches determine, run through all pairs once. -/
theorem ProbeLoop.Of.epoch_perm (hloop : loop.Of config localClient)
    (haccepted : Accepted config) {start : Nat}
    (hwrap : start + config.pingmeshPolicy.coverageEpochCycles ≤ 2 ^ 64) (rows : Nat → List β) :
    (loop.run start config.pingmeshPolicy.coverageEpochCycles).flatMap
        (fun cycle => cycle.activeTargets.map (·.client) ×ˢ rows cycle.portBatch) ~
      otherClients config localClient ×ˢ
        (List.range config.pingmeshPolicy.portBatchCount).flatMap rows := by
  let columns := fun batch => (rotatingDestinationBatch loop.targets loop.destinationBatchSize batch
    loop.destinationPhase).map (·.client)
  have hcycle : ∀ counter, (loop.cycle counter).activeTargets.map (·.client) =
      columns (gridCell config.pingmeshPolicy.destinationBatchCount
        config.pingmeshPolicy.portBatchCount loop.portPhase counter).1 := by
    intro counter
    rw [← hloop.cycle_eq haccepted]
    rfl
  have hrow : ∀ counter, (loop.cycle counter).portBatch =
      (gridCell config.pingmeshPolicy.destinationBatchCount
        config.pingmeshPolicy.portBatchCount loop.portPhase counter).2 := by
    intro counter
    rw [← hloop.cycle_eq haccepted]
  have hcolumns : (List.range config.pingmeshPolicy.destinationBatchCount).flatMap columns ~
      otherClients config localClient := by
    refine List.Perm.trans ?_ hloop.targets
    rw [hloop.destinationBatches, ← List.map_flatMap]
    exact (flatMap_rotatingDestinationBatch_perm _ hloop.targets_ne_nil).map _
  rw [ProbeLoop.run, iterate_nextCycle hwrap, List.flatMap_map, haccepted.epochCycles]
  simp only [hcycle, hrow]
  rw [← List.flatMap_map (f := gridCell _ _ _)
    (g := fun cell => columns cell.1 ×ˢ rows cell.2)]
  refine ((gridCell_window_perm haccepted.destinationBatchCount_pos haccepted.portBatchCount_pos
    _ _).flatMap_right _).trans ?_
  exact (flatMap_product_perm ..).trans (hcolumns.product (.refl _))

/-- An epoch schedules the product of the other clients and the socket pool. -/
theorem ProbeLoop.Of.epoch_rttProbes_perm (hloop : loop.Of config localClient)
    (haccepted : Accepted config) {start : Nat}
    (hwrap : start + config.pingmeshPolicy.coverageEpochCycles ≤ 2 ^ 64) :
    (loop.run start config.pingmeshPolicy.coverageEpochCycles).flatMap (·.rttProbes) ~
      otherClients config localClient ×ˢ List.range config.pingmeshPolicy.rttPortPoolSize := by
  have hchunks := flatMap_chunk (n := config.pingmeshPolicy.rttPortPoolSize)
    haccepted.portsPerCycle_pos
  rw [← haccepted.portBatches] at hchunks
  rw [← hchunks]
  refine List.Perm.trans ?_ (hloop.epoch_perm haccepted hwrap _)
  refine List.Perm.flatMap (.refl _) fun cycle hcycle => ?_
  obtain ⟨counter, -, rfl⟩ := List.mem_map.mp hcycle
  rw [← hloop.activeSockets_eq]
  exact loop.cycle_rttProbes_perm counter

end

/-- Every window of one epoch schedules every RTT probe once: a probe for each other client of the
configuration over each source port of the pool, and no other probe. -/
theorem probe_coverage {config : ClientAgentConfig} (hvalid : config.validate = .ok ())
    (hnames : (config.clients.map (·.name)).Nodup) {localClient : Client}
    (hlocal : localClient ∈ config.clients) (hostSeed start : Nat)
    (hwrap : start + config.pingmeshPolicy.coverageEpochCycles ≤ 2 ^ 64) :
    ∃ loop, probeLoop config localClient hostSeed = some loop ∧
      let probes :=
        (loop.run start config.pingmeshPolicy.coverageEpochCycles).flatMap (·.rttProbes)
      (∀ destination port, (destination, port) ∈ probes →
        destination ∈ config.clients ∧ destination.name ≠ localClient.name ∧
          port < config.pingmeshPolicy.rttPortPoolSize) ∧
      ∀ destination ∈ config.clients, destination.name ≠ localClient.name →
        ∀ port < config.pingmeshPolicy.rttPortPoolSize, probes.count (destination, port) = 1 := by
  have haccepted := config.accepted_of_validate hvalid
  obtain ⟨loop, hloop, hof⟩ := probeLoop_spec haccepted hnames hlocal hostSeed
  refine ⟨loop, hloop, ?_⟩
  have hperm := hof.epoch_rttProbes_perm haccepted hwrap
  constructor
  · intro destination port hmem
    have hmem := hperm.mem_iff.mp hmem
    rw [List.mem_product, List.mem_range] at hmem
    simpa [otherClients, and_assoc] using hmem
  · intro destination hdestination hname port hport
    rw [hperm.count_eq]
    refine List.count_eq_one_of_mem ?_ ?_
    · exact (hnames.of_map.filter _).product List.nodup_range
    · rw [List.mem_product, List.mem_range]
      exact ⟨List.mem_filter.mpr ⟨hdestination, by simpa using hname⟩, hport⟩

/-- Three clients that probe one destination over two of three source ports a cycle. -/
def threeClients : ClientAgentConfig where
  schemaVersion := 1
  topologyId := "dcn"
  pingmeshPolicy :=
    { destinationBatchSize := some 1, rttPortPoolSize := 3, rttPortsPerCycle := 2
      cycleIntervalSeconds := (1 : Nat), destinationBatchCount := 2, portBatchCount := 2
      coverageEpochCycles := 4, coverageEpochSeconds := 4, dfPayloadSize := 9072 }
  clients := [1, 2, 3].map fun i =>
    { name := s!"client{i}", dataIp := .ofOctets 192 168 101 (4 * i), leaf := "leaf1"
      managementIp := .ofOctets 172 20 20 (10 + i), rack := "rack1" }

theorem threeClients_valid : threeClients.validate = .ok () := by
  have hseconds : expectedEpochSeconds threeClients.pingmeshPolicy = 4 :=
    expectedEpochSeconds_eq (show threeClients.pingmeshPolicy.cycleIntervalSeconds = (1 : Nat) from rfl)
      (by decide) (by decide)
  have hinterval : ¬ threeClients.pingmeshPolicy.cycleIntervalSeconds ≤ 0 := by
    norm_num [threeClients]
  rw [ClientAgentConfig.validate]
  simp only [hseconds, hinterval]
  decide

theorem probe_coverage_threeClients :
    ∃ loop, probeLoop threeClients threeClients.clients[0] 7 = some loop ∧
      ((loop.run 9 4).flatMap (·.rttProbes)).count (threeClients.clients[1], 2) = 1 := by
  obtain ⟨loop, hloop, -, hcount⟩ := probe_coverage threeClients_valid (by decide)
    (List.getElem_mem (by decide : 0 < threeClients.clients.length)) 7 9 (by decide)
  exact ⟨loop, hloop, hcount _ (List.getElem_mem _) (by decide) 2 (by decide)⟩

end NetOpsBench.Pingmesh
