import NetOpsBench.ClientAgent.Generate
import NetOpsBench.Pingmesh.Audit
import NetOpsBench.Pingmesh.Coverage

/-!
# The audit agrees with the schedule

The rows that the agents write over one epoch each pass the coverage audit, and a snapshot that
passes it holds every pair of clients with every port batch. Both directions go through
`CompleteCoverage`, the verdict of the audit as a property of the rows.

`coverage_audit_agrees` has the two directions. `completeCoverage_of_covers` leads from rows that cover
the pairs to the verdict and `CompleteCoverage.covers` back; `fleet_completeCoverage` says that the rows
of one epoch of every agent have the property. `coverage_audit_gaps` are three snapshots that show why
each of the restrictions is there.
-/

namespace NetOpsBench.Pingmesh
open ClientAgent Models Tiling
open scoped List

/-! ## The verdict -/

/-- The batches, sources, pairs and socket counts that the audit asks of a complete snapshot. -/
structure CompleteCoverage (names : Finset String) (policy : Models.PingmeshPolicy)
    (rows : List Row) : Prop where
  destinationBatches : ∀ batch < policy.destinationBatchCount names.card,
    ∃ row ∈ rows, fieldInt row.destinationBatchIndex = some (batch : ℤ)
  portBatches : ∀ batch < policy.portBatchCount,
    ∃ row ∈ rows, fieldInt row.portBatchIndex = some (batch : ℤ)
  sources : names.card ≤ ((cycleRows rows).filterMap (Python.truthy ·.srcName)).toFinset.card
  pairs : ((cycleRows rows).filterMap pair).toFinset.card = names.card * (names.card - 1)
  pairPorts : ((cycleRows rows).filterMap pairPort).toFinset.card =
    names.card * (names.card - 1) * policy.portBatchCount
  sockets : ∀ row ∈ cycleRows rows, hasValidSocketBatch row policy.rttPortPoolSize
    policy.rttPortsPerCycle policy.portBatchCount (regularLossBySocketBatch (cycleRows rows))

/-- No batch is missing when each of them has a row. -/
theorem missingBatches_eq_nil {count : Nat} {rows : List Row} (field : Row → Option ℚ) :
    missingBatches count (rows.filterMap (fieldInt <| field ·)) = [] ↔
      ∀ batch < count, ∃ row ∈ rows, fieldInt (field row) = some (batch : ℤ) := by
  rw [missingBatches, List.filter_eq_nil_iff]
  simp only [List.mem_map, List.mem_range, List.mem_filterMap, decide_eq_true_eq, not_not]
  constructor
  · intro h batch hbatch
    exact h _ ⟨batch, hbatch, rfl⟩
  · rintro h _ ⟨batch, hbatch, rfl⟩
    exact h batch hbatch

/-- The manifest of a set of clients: pairwise distinct names, which its facts count. -/
structure ClientSet (manifest : TopologyManifest) : Prop where
  two_clients : 2 ≤ manifest.clients.length
  names_nodup : (manifest.clients.map (·.name)).Nodup
  totalClients : manifest.facts.totalClients = manifest.clients.length

def clientNames (manifest : TopologyManifest) : Finset String :=
  (manifest.clients.map (·.name)).toFinset

theorem ClientSet.card_clientNames {manifest : TopologyManifest} (h : ClientSet manifest) :
    (clientNames manifest).card = manifest.clients.length := by
  rw [clientNames, List.toFinset_card_of_nodup h.names_nodup, List.length_map]

/-- The audit never fails on the manifest of a set of clients, and calls a snapshot complete
exactly when its coverage is. -/
theorem summarizeCoverage_complete_iff {manifest : TopologyManifest} (h : ClientSet manifest)
    (rows : List Row) :
    ∃ report, summarizeCoverage (.ofManifest manifest) rows = .ok report ∧
      (report.coverageStatus = .complete ↔
        CompleteCoverage (clientNames manifest) manifest.pingmesh rows) := by
  have hcard := h.card_clientNames
  have hlength : (AnomalyDetector.ofManifest manifest).pingmeshClients.length =
      (clientNames manifest).card := by
    rw [hcard]
    exact List.length_map ..
  have hcycles : (AnomalyDetector.ofManifest manifest).pingmeshPolicy.coverageEpochCycles =
      manifest.pingmesh.destinationBatchCount (clientNames manifest).card *
        manifest.pingmesh.portBatchCount := by
    rw [hcard, ← h.totalClients]
    rfl
  unfold summarizeCoverage
  rw [hlength]
  refine ⟨_, if_neg (not_not.mpr hcycles), ?_⟩
  simp only [ite_eq_left_iff, reduceCtorEq, imp_false, not_not, decide_eq_true_eq,
    Python.length_counter, ← List.card_toFinset, Nat.sub_eq_zero_iff_le, List.countP_eq_zero,
    Bool.not_eq_true, Bool.not_eq_false', missingBatches_eq_nil]
  constructor
  · rintro ⟨hdestinations, hports, hsources, hpairs, hpairPorts, hsockets⟩
    exact ⟨hdestinations, hports, hsources, hpairs, hpairPorts, hsockets⟩
  · rintro ⟨hdestinations, hports, hsources, hpairs, hpairPorts, hsockets⟩
    exact ⟨hdestinations, hports, hsources, hpairs, hpairPorts, hsockets⟩

/-! ## Coverage of a snapshot -/

/-- The row of a probe between two distinct clients. -/
def ProbeRow (names : Finset String) (row : Row) : Prop :=
  ∃ source destination, (source, destination) ∈ names.offDiag ∧
    row.srcName = some source ∧ row.dstName = some destination

/-- The row counts as many sockets as its port batch has: all of the pool, and the active ones. -/
def HasSocketCounts (policy : Models.PingmeshPolicy) (row : Row) : Prop :=
  ∃ batch < policy.portBatchCount, fieldInt row.portBatchIndex = some (batch : ℤ) ∧
    fieldInt row.rttPortsTotal = some (policy.rttPortPoolSize : ℤ) ∧
    fieldInt row.rttPortsActive =
      some ((chunk policy.rttPortPoolSize policy.rttPortsPerCycle batch).length : ℤ)

/-- Every ordered pair of distinct clients has a row of every port batch. -/
def Covers (names : Finset String) (portBatchCount : Nat) (rows : List Row) : Prop :=
  ∀ source destination, (source, destination) ∈ names.offDiag → ∀ batch < portBatchCount,
    ∃ row ∈ rows, row.srcName = some source ∧ row.dstName = some destination ∧
      fieldInt row.portBatchIndex = some (batch : ℤ)

/-- The audit expects as many active sockets as the port batch has. -/
theorem expectedActive_eq (policy : Models.PingmeshPolicy) {batch : Nat}
    (h : batch < policy.portBatchCount) :
    min (policy.rttPortsPerCycle : ℤ) (policy.rttPortPoolSize - batch * policy.rttPortsPerCycle) =
      (chunk policy.rttPortPoolSize policy.rttPortsPerCycle batch).length := by
  rw [portBatchCount_eq] at h
  have hbatch := mul_lt_of_lt_divCeil h
  rw [length_chunk hbatch.le]
  push_cast [Nat.cast_sub hbatch.le]
  rfl

/-- A row that the audit takes for valid has the counts of its batch. -/
theorem hasSocketCounts_of_valid {policy : Models.PingmeshPolicy} {row : Row}
    {losses : SocketBatchKey → ℤ} (h : hasValidSocketBatch row policy.rttPortPoolSize
      policy.rttPortsPerCycle policy.portBatchCount losses) : HasSocketCounts policy row := by
  unfold hasValidSocketBatch at h
  split at h
  · cases h
  rename_i index hindex
  split at h
  · cases h
  rename_i hrange
  obtain ⟨hnonneg, hlt⟩ := not_not.mp hrange
  lift index to ℕ using hnonneg
  have hlt : index < policy.portBatchCount := by exact_mod_cast hlt
  simp only [Bool.decide_and, Bool.and_eq_true, decide_eq_true_eq] at h
  exact ⟨index, hlt, hindex, h.1, by rw [← expectedActive_eq policy hlt]; exact h.2.1⟩

/-- A row without local errors that has these counts is valid. -/
theorem valid_of_hasSocketCounts {policy : Models.PingmeshPolicy} {row : Row}
    {losses : SocketBatchKey → ℤ} (h : HasSocketCounts policy row)
    (herrors : fieldInt row.localProbeErrors = some 0) :
    hasValidSocketBatch row policy.rttPortPoolSize policy.rttPortsPerCycle policy.portBatchCount
      losses := by
  obtain ⟨batch, hlt, hindex, htotal, hactive⟩ := h
  have hrange : (0 : ℤ) ≤ batch ∧ (batch : ℤ) < policy.portBatchCount := by
    exact ⟨Int.natCast_nonneg _, by exact_mod_cast hlt⟩
  simp only [hasValidSocketBatch, hindex, hrange, and_self, not_true_eq_false, if_false, htotal,
    hactive, herrors, expectedActive_eq policy hlt, true_or, decide_true]

/-- The keys that the audit counts over a covered epoch. -/
def expectedPairPorts (names : Finset String) (portBatchCount : Nat) :
    Finset (String × String × ℤ) :=
  (names.offDiag ×ˢ Finset.range portBatchCount).image fun (pair, batch) =>
    (pair.1, pair.2, (batch : ℤ))

theorem card_offDiag (names : Finset String) :
    names.offDiag.card = names.card * (names.card - 1) := by
  rw [Finset.offDiag_card, Nat.mul_sub, mul_one]

theorem card_expectedPairPorts (names : Finset String) (portBatchCount : Nat) :
    (expectedPairPorts names portBatchCount).card =
      names.card * (names.card - 1) * portBatchCount := by
  rw [expectedPairPorts, Finset.card_image_of_injective, Finset.card_product, card_offDiag,
    Finset.card_range]
  rintro ⟨⟨source, destination⟩, batch⟩ ⟨⟨source', destination'⟩, batch'⟩ h
  simp only [Prod.mk.injEq, Nat.cast_inj] at h
  obtain ⟨rfl, rfl, rfl⟩ := h
  rfl

theorem pair_eq_some {row : Row} {source destination : String}
    (h : pair row = some (source, destination)) :
    row.srcName = some source ∧ row.dstName = some destination := by
  unfold pair at h
  split at h
  · rename_i hsource hdestination
    cases h
    exact ⟨(Python.truthy_eq_some.mp hsource).1, (Python.truthy_eq_some.mp hdestination).1⟩
  · cases h

theorem pairPort_eq_some {row : Row} {source destination : String} {batch : ℤ}
    (h : pairPort row = some (source, destination, batch)) :
    row.srcName = some source ∧ row.dstName = some destination ∧
      fieldInt row.portBatchIndex = some batch := by
  unfold pairPort at h
  split at h
  · rename_i hpair hbatch
    cases h
    obtain ⟨hsource, hdestination⟩ := pair_eq_some hpair
    exact ⟨hsource, hdestination, hbatch⟩
  · cases h

theorem mem_cycleRows {rows : List Row} {row : Row} :
    row ∈ cycleRows rows ↔ row ∈ rows ∧ row.probeCycle.isSome := List.mem_filter

section
variable {names : Finset String} {policy : Models.PingmeshPolicy} {rows : List Row}

/-- The audit counts no key but the expected ones. -/
theorem pairPorts_subset (hrows : ∀ row ∈ rows, ProbeRow names row)
    (hcounts : ∀ row ∈ cycleRows rows, HasSocketCounts policy row) :
    ((cycleRows rows).filterMap pairPort).toFinset ⊆
      expectedPairPorts names policy.portBatchCount := by
  rintro ⟨source, destination, index⟩ hmem
  rw [List.mem_toFinset, List.mem_filterMap] at hmem
  obtain ⟨row, hrow, hpair⟩ := hmem
  obtain ⟨hsource, hdestination, hindex⟩ := pairPort_eq_some hpair
  obtain ⟨batch, hbatch, hindex', -⟩ := hcounts row hrow
  obtain ⟨source', destination', hoff, hsource', hdestination'⟩ :=
    hrows row (mem_cycleRows.mp hrow).1
  cases Option.some.inj (hsource.symm.trans hsource')
  cases Option.some.inj (hdestination.symm.trans hdestination')
  cases Option.some.inj (hindex.symm.trans hindex')
  refine Finset.mem_image.mpr ⟨((source, destination), batch), ?_, rfl⟩
  exact Finset.mem_product.mpr ⟨hoff, Finset.mem_range.mpr hbatch⟩

/-- Rows of probes count no pair that is not expected. -/
theorem pairs_subset (hrows : ∀ row ∈ rows, ProbeRow names row) :
    ((cycleRows rows).filterMap pair).toFinset ⊆ names.offDiag := by
  rintro ⟨source, destination⟩ hmem
  rw [List.mem_toFinset, List.mem_filterMap] at hmem
  obtain ⟨row, hrow, hpair⟩ := hmem
  obtain ⟨hsource, hdestination⟩ := pair_eq_some hpair
  obtain ⟨source', destination', hoff, hsource', hdestination'⟩ :=
    hrows row (mem_cycleRows.mp hrow).1
  cases Option.some.inj (hsource.symm.trans hsource')
  cases Option.some.inj (hdestination.symm.trans hdestination')
  exact hoff

/-- As many keys as expected, and no others, are all expected keys. -/
theorem CompleteCoverage.covers (h : CompleteCoverage names policy rows)
    (hrows : ∀ row ∈ rows, ProbeRow names row) : Covers names policy.portBatchCount rows := by
  have hcounts : ∀ row ∈ cycleRows rows, HasSocketCounts policy row := by
    intro row hrow
    exact hasSocketCounts_of_valid (h.sockets row hrow)
  have heq := Finset.eq_of_subset_of_card_le (pairPorts_subset hrows hcounts)
    (by rw [card_expectedPairPorts, h.pairPorts])
  intro source destination hoff batch hbatch
  have hmem : (source, destination, (batch : ℤ)) ∈
      expectedPairPorts names policy.portBatchCount := by
    refine Finset.mem_image.mpr ⟨((source, destination), batch), ?_, rfl⟩
    exact Finset.mem_product.mpr ⟨hoff, Finset.mem_range.mpr hbatch⟩
  rw [← heq, List.mem_toFinset, List.mem_filterMap] at hmem
  obtain ⟨row, hrow, hpair⟩ := hmem
  exact ⟨row, (mem_cycleRows.mp hrow).1, pairPort_eq_some hpair⟩

theorem portBatchCount_pos (policy : Models.PingmeshPolicy) : 0 < policy.portBatchCount :=
  Nat.lt_of_lt_of_le Nat.one_pos (Nat.le_max_left ..)

/-- Rows that cover the epoch and count their sockets pass the audit. -/
theorem completeCoverage_of_covers (hnames : ∀ name ∈ names, name ≠ "") (htwo : 2 ≤ names.card)
    (hrows : ∀ row ∈ rows, ProbeRow names row) (hcycles : ∀ row ∈ rows, row.probeCycle.isSome)
    (hcounts : ∀ row ∈ rows, HasSocketCounts policy row)
    (herrors : ∀ row ∈ rows, fieldInt row.localProbeErrors = some 0)
    (hcovers : Covers names policy.portBatchCount rows)
    (hdestinations : ∀ batch < policy.destinationBatchCount names.card,
      ∃ row ∈ rows, fieldInt row.destinationBatchIndex = some (batch : ℤ)) :
    CompleteCoverage names policy rows := by
  have hcycleRows : cycleRows rows = rows := List.filter_eq_self.mpr hcycles
  have hpair : ∀ {row source destination}, (source, destination) ∈ names.offDiag →
      row.srcName = some source → row.dstName = some destination →
      pair row = some (source, destination) := by
    intro row source destination hoff hsource hdestination
    obtain ⟨hs, hd, -⟩ := Finset.mem_offDiag.mp hoff
    rw [pair, hsource, hdestination, Python.truthy_some (hnames _ hs),
      Python.truthy_some (hnames _ hd)]
  have hpairs : ((cycleRows rows).filterMap pair).toFinset = names.offDiag := by
    refine Finset.Subset.antisymm (pairs_subset hrows) ?_
    rintro ⟨source, destination⟩ hoff
    obtain ⟨row, hrow, hsource, hdestination, -⟩ :=
      hcovers source destination hoff 0 (portBatchCount_pos policy)
    rw [hcycleRows, List.mem_toFinset, List.mem_filterMap]
    exact ⟨row, hrow, hpair hoff hsource hdestination⟩
  have hpairPorts : ((cycleRows rows).filterMap pairPort).toFinset =
      expectedPairPorts names policy.portBatchCount := by
    refine Finset.Subset.antisymm (pairPorts_subset hrows (by rwa [hcycleRows])) ?_
    intro key hkey
    obtain ⟨⟨⟨source, destination⟩, batch⟩, hmem, rfl⟩ := Finset.mem_image.mp hkey
    obtain ⟨hoff, hbatch⟩ := Finset.mem_product.mp hmem
    obtain ⟨row, hrow, hsource, hdestination, hindex⟩ :=
      hcovers source destination hoff batch (Finset.mem_range.mp hbatch)
    rw [hcycleRows, List.mem_toFinset, List.mem_filterMap]
    refine ⟨row, hrow, ?_⟩
    rw [pairPort, hpair hoff hsource hdestination, hindex]
  have hother : ∀ source ∈ names, ∃ destination, (source, destination) ∈ names.offDiag := by
    intro source hsource
    obtain ⟨destination, hdestination, hne⟩ := Finset.exists_mem_ne (show 1 < names.card by omega) source
    exact ⟨destination, Finset.mem_offDiag.mpr ⟨hsource, hdestination, hne.symm⟩⟩
  refine {
    destinationBatches := hdestinations
    portBatches := ?_
    sources := ?_
    pairs := by rw [hpairs, card_offDiag]
    pairPorts := by rw [hpairPorts, card_expectedPairPorts]
    sockets := ?_ }
  · intro batch hbatch
    obtain ⟨source, hsource⟩ := Finset.card_pos.mp (by omega : 0 < names.card)
    obtain ⟨destination, hoff⟩ := hother source hsource
    obtain ⟨row, hrow, -, -, hindex⟩ := hcovers source destination hoff batch hbatch
    exact ⟨row, hrow, hindex⟩
  · refine Finset.card_le_card fun source hsource => ?_
    obtain ⟨destination, hoff⟩ := hother source hsource
    obtain ⟨row, hrow, hname, -⟩ :=
      hcovers source destination hoff 0 (portBatchCount_pos policy)
    rw [hcycleRows, List.mem_toFinset, List.mem_filterMap]
    exact ⟨row, hrow, by rw [hname]; exact Python.truthy_some (hnames source hsource)⟩
  · intro row hrow
    have hrow := (mem_cycleRows.mp hrow).1
    exact valid_of_hasSocketCounts (hcounts row hrow) (herrors row hrow)

end

/-! ## The rows of the agents -/

/-- One agent's run over an epoch: where its counter starts, the hash that sets its port phase, and
what the probes of each cycle and target measured. -/
structure AgentEpoch where
  start : Nat
  hostSeed : Nat
  stats : Nat → Nat → ProbeStats × ProbeStats

def agentRows (config : ClientAgentConfig) (client : Client) (epoch : AgentEpoch) :
    Option (List Row) :=
  (probeLoop config client epoch.hostSeed).map fun loop =>
    (loop.run epoch.start config.pingmeshPolicy.coverageEpochCycles).flatMap fun cycle =>
      loop.rows client (epoch.stats cycle.cycle) cycle

/-- The rows of all agents, each over its own epoch. -/
def fleetRows (config : ClientAgentConfig) (epochs : Client → AgentEpoch) : Option (List Row) :=
  (config.clients.mapM fun client => agentRows config client (epochs client)).map List.flatten

def AgentEpoch.NoLocalErrors (epoch : AgentEpoch) : Prop :=
  ∀ cycle target, (epoch.stats cycle target).1.localErrors = 0 ∧
    (epoch.stats cycle target).2.localErrors = 0

/-- The counter of the epoch does not wrap around, and no probe of it fails locally. -/
structure AgentEpoch.Clean (epoch : AgentEpoch) (config : ClientAgentConfig) : Prop where
  no_wrap : epoch.start + config.pingmeshPolicy.coverageEpochCycles ≤ 2 ^ 64
  no_errors : epoch.NoLocalErrors

section
variable {config : ClientAgentConfig} {client : Client} {loop : ProbeLoop} {epoch : AgentEpoch}

theorem mem_rows {stats : Nat → ProbeStats × ProbeStats} {cycle : ProbeCycle} {row : Row} :
    row ∈ loop.rows client stats cycle ↔ ∃ target index, cycle.activeTargets[index]? = some target ∧
      row = metricRow client target.client (loop.result cycle (stats index)) := by
  simp only [ProbeLoop.rows, List.mem_map, List.mk_mem_zipIdx_iff_getElem?, Prod.exists]
  constructor
  · rintro ⟨target, index, htarget, rfl⟩
    exact ⟨target, index, htarget, rfl⟩
  · rintro ⟨target, index, htarget, rfl⟩
    exact ⟨target, index, htarget, rfl⟩

theorem ProbeLoop.Of.batches_lt (hloop : loop.Of config client) (haccepted : Accepted config)
    (counter : Nat) :
    (loop.cycle counter).destinationBatch < config.pingmeshPolicy.destinationBatchCount ∧
      (loop.cycle counter).portBatch < config.pingmeshPolicy.portBatchCount := by
  have hcell := gridCell_mem haccepted.destinationBatchCount_pos haccepted.portBatchCount_pos
    loop.portPhase counter
  rw [← hloop.cycle_eq haccepted, List.mem_product, List.mem_range, List.mem_range] at hcell
  exact hcell

theorem ProbeLoop.Of.activeTargets_ne_nil (hloop : loop.Of config client)
    (haccepted : Accepted config) (counter : Nat) : (loop.cycle counter).activeTargets ≠ [] := by
  have hbatch := (hloop.batches_lt haccepted counter).1
  rw [hloop.destinationBatches] at hbatch
  show rotatingDestinationBatch _ _ (loop.cycle counter).destinationBatch _ ≠ []
  rw [rotatingDestinationBatch_eq hbatch]
  refine stepFrom_ne_nil ?_
  have hlength : 0 < loop.targets.length := List.length_pos_of_ne_nil hloop.targets_ne_nil
  have hsize : 0 < clamp loop.destinationBatchSize 1 loop.targets.length := clamp_pos hlength
  have hle := divCeil_le_self (n := loop.targets.length) hsize
  rw [List.perm_append_comm.length_eq, List.take_append_drop]
  exact Nat.lt_of_lt_of_le hbatch hle

theorem ProbeLoop.Of.mem_activeTargets (hloop : loop.Of config client) {counter : Nat}
    {target : Target} (h : target ∈ (loop.cycle counter).activeTargets) :
    target.client ∈ otherClients config client := by
  refine hloop.targets.subset (List.mem_map_of_mem (mem_of_mem_rotatingDestinationBatch h))

/-- Over an epoch every other client is a target in every port batch. -/
theorem ProbeLoop.Of.exists_cycle (hloop : loop.Of config client) (haccepted : Accepted config)
    {start : Nat} (hwrap : start + config.pingmeshPolicy.coverageEpochCycles ≤ 2 ^ 64)
    {destination : Client} (hdestination : destination ∈ otherClients config client) {batch : Nat}
    (hbatch : batch < config.pingmeshPolicy.portBatchCount) :
    ∃ cycle ∈ loop.run start config.pingmeshPolicy.coverageEpochCycles,
      cycle.portBatch = batch ∧ ∃ target ∈ cycle.activeTargets, target.client = destination := by
  have hmem : (destination, batch) ∈ otherClients config client ×ˢ
      (List.range config.pingmeshPolicy.portBatchCount).flatMap fun batch => [batch] := by
    rw [List.mem_product]
    exact ⟨hdestination, by simpa using hbatch⟩
  rw [← (hloop.epoch_perm haccepted hwrap fun batch => [batch]).mem_iff, List.mem_flatMap] at hmem
  obtain ⟨cycle, hcycle, hmem⟩ := hmem
  obtain ⟨htarget, hport⟩ := List.mem_product.mp hmem
  obtain ⟨target, htarget, hclient⟩ := List.mem_map.mp htarget
  exact ⟨cycle, hcycle, (List.mem_singleton.mp hport).symm, target, htarget, hclient⟩

/-- An epoch runs through every destination batch. -/
theorem ProbeLoop.Of.exists_destinationBatch (hloop : loop.Of config client)
    (haccepted : Accepted config) {start : Nat}
    (hwrap : start + config.pingmeshPolicy.coverageEpochCycles ≤ 2 ^ 64) {batch : Nat}
    (hbatch : batch < config.pingmeshPolicy.destinationBatchCount) :
    ∃ cycle ∈ loop.run start config.pingmeshPolicy.coverageEpochCycles,
      cycle.destinationBatch = batch := by
  have hmem : (batch, 0) ∈ List.range config.pingmeshPolicy.destinationBatchCount ×ˢ
      List.range config.pingmeshPolicy.portBatchCount := by
    rw [List.mem_product, List.mem_range, List.mem_range]
    exact ⟨hbatch, haccepted.portBatchCount_pos⟩
  rw [← (gridCell_window_perm haccepted.destinationBatchCount_pos haccepted.portBatchCount_pos
    loop.portPhase start).mem_iff, ← haccepted.epochCycles] at hmem
  obtain ⟨counter, hcounter, hcell⟩ := List.mem_map.mp hmem
  rw [← hloop.cycle_eq haccepted] at hcell
  refine ⟨loop.cycle counter, ?_, congrArg Prod.fst hcell⟩
  rw [ProbeLoop.run, iterate_nextCycle hwrap]
  exact List.mem_map_of_mem hcounter

end

/-- What the rows of one agent's epoch show. -/
structure EpochRows (config : ClientAgentConfig) (policy : Models.PingmeshPolicy) (client : Client)
    (rows : List Row) : Prop where
  source : ∀ row ∈ rows, row.srcName = some client.name
  destination : ∀ row ∈ rows, ∃ destination ∈ otherClients config client,
    row.dstName = some destination.name
  cycle : ∀ row ∈ rows, row.probeCycle.isSome
  counts : ∀ row ∈ rows, HasSocketCounts policy row
  errors : ∀ row ∈ rows, fieldInt row.localProbeErrors = some 0
  covers : ∀ destination ∈ otherClients config client, ∀ batch < policy.portBatchCount,
    ∃ row ∈ rows, row.dstName = some destination.name ∧
      fieldInt row.portBatchIndex = some (batch : ℤ)
  destinationBatches : ∀ batch < policy.destinationBatchCount config.clients.length,
    ∃ row ∈ rows, fieldInt row.destinationBatchIndex = some (batch : ℤ)

theorem fieldInt_natCast (n : Nat) : fieldInt (some (n : ℚ)) = some (n : ℤ) := by
  rw [fieldInt, Option.map_some, Python.int_natCast]

/-- A row of a run reports on a target of one of its cycles. -/
theorem exists_of_mem_runRows {loop : ProbeLoop} {client : Client} {start count : Nat}
    {stats : Nat → Nat → ProbeStats × ProbeStats} {row : Row}
    (hrow : row ∈ (loop.run start count).flatMap
      fun cycle => loop.rows client (stats cycle.cycle) cycle) :
    ∃ counter target index, (loop.cycle counter).activeTargets[index]? = some target ∧
      row = metricRow client target.client
        (loop.result (loop.cycle counter) (stats counter index)) := by
  obtain ⟨cycle, hcycle, hrow⟩ := List.mem_flatMap.mp hrow
  obtain ⟨counter, -, rfl⟩ := List.mem_map.mp hcycle
  obtain ⟨target, index, htarget, rfl⟩ := mem_rows.mp hrow
  exact ⟨counter, target, index, htarget, rfl⟩

/-- A run has a row for each target of its cycles. -/
theorem exists_runRow {loop : ProbeLoop} {client : Client} {start count : Nat}
    (stats : Nat → Nat → ProbeStats × ProbeStats) {cycle : ProbeCycle}
    (hcycle : cycle ∈ loop.run start count) {target : Target} (htarget : target ∈ cycle.activeTargets) :
    ∃ row ∈ (loop.run start count).flatMap
        (fun cycle => loop.rows client (stats cycle.cycle) cycle),
      row.dstName = some target.client.name ∧
      fieldInt row.portBatchIndex = some (cycle.portBatch : ℤ) ∧
      fieldInt row.destinationBatchIndex = some (cycle.destinationBatch : ℤ) := by
  obtain ⟨index, htarget⟩ := List.getElem?_of_mem htarget
  exact ⟨_, List.mem_flatMap.mpr ⟨cycle, hcycle, mem_rows.mpr ⟨target, index, htarget, rfl⟩⟩,
    rfl, fieldInt_natCast _, fieldInt_natCast _⟩

/-- What the rows of an agent over one epoch show. -/
theorem agentRows_spec {manifest : TopologyManifest} {config : ClientAgentConfig} {client : Client}
    {epoch : AgentEpoch} (hgenerated : Generated manifest config) (haccepted : Accepted config)
    (hnames : (config.clients.map (·.name)).Nodup) (hclient : client ∈ config.clients)
    (hepoch : epoch.Clean config) :
    ∃ rows, agentRows config client epoch = some rows ∧
      EpochRows config manifest.pingmesh client rows := by
  obtain ⟨loop, hloop, hof⟩ := probeLoop_spec haccepted hnames hclient epoch.hostSeed
  refine ⟨_, by rw [agentRows, hloop]; rfl, ?_⟩
  constructor
  · intro row hrow
    obtain ⟨counter, target, index, -, rfl⟩ := exists_of_mem_runRows hrow
    rfl
  · intro row hrow
    obtain ⟨counter, target, index, htarget, rfl⟩ := exists_of_mem_runRows hrow
    exact ⟨target.client, hof.mem_activeTargets (List.mem_of_getElem? htarget), rfl⟩
  · intro row hrow
    obtain ⟨counter, target, index, -, rfl⟩ := exists_of_mem_runRows hrow
    rfl
  · intro row hrow
    obtain ⟨counter, target, index, -, rfl⟩ := exists_of_mem_runRows hrow
    have hport := (hof.batches_lt haccepted counter).2
    rw [hgenerated.portBatchCount] at hport
    refine ⟨(loop.cycle counter).portBatch, hport, fieldInt_natCast _, ?_, ?_⟩
    · refine (fieldInt_natCast loop.sockets.length).trans ?_
      rw [hof.sockets, List.length_range, hgenerated.rttPortPoolSize]
    · refine (fieldInt_natCast (loop.cycle counter).activeSockets.length).trans ?_
      rw [hof.activeSockets_eq, hgenerated.rttPortPoolSize, hgenerated.rttPortsPerCycle]
  · intro row hrow
    obtain ⟨counter, target, index, -, rfl⟩ := exists_of_mem_runRows hrow
    refine (fieldInt_natCast _).trans ?_
    simp only [ProbeLoop.result, buildResult, (hepoch.no_errors counter index).1,
      (hepoch.no_errors counter index).2]
    rfl
  · intro destination hdestination batch hbatch
    rw [← hgenerated.portBatchCount] at hbatch
    obtain ⟨cycle, hcycle, rfl, target, htarget, rfl⟩ :=
      hof.exists_cycle haccepted hepoch.no_wrap hdestination hbatch
    obtain ⟨row, hrow, hname, hport, -⟩ := exists_runRow epoch.stats hcycle htarget
    exact ⟨row, hrow, hname, hport⟩
  · intro batch hbatch
    rw [← hgenerated.destinationBatchCount] at hbatch
    obtain ⟨cycle, hcycle, rfl⟩ :=
      hof.exists_destinationBatch haccepted hepoch.no_wrap hbatch
    obtain ⟨counter, -, rfl⟩ := List.mem_map.mp hcycle
    obtain ⟨target, htarget⟩ :=
      List.exists_mem_of_ne_nil _ (hof.activeTargets_ne_nil haccepted counter)
    obtain ⟨row, hrow, -, -, hdest⟩ := exists_runRow epoch.stats hcycle htarget
    exact ⟨row, hrow, hdest⟩

/-! ## Agreement -/

/-- The rows of all agents: each of them has those of its epoch. -/
theorem fleetRows_spec {manifest : TopologyManifest} {config : ClientAgentConfig}
    {epochs : Client → AgentEpoch} (hgenerated : Generated manifest config)
    (haccepted : Accepted config) (hnames : (config.clients.map (·.name)).Nodup)
    (hepochs : ∀ client ∈ config.clients, (epochs client).Clean config) :
    ∃ rows : Client → List Row, fleetRows config epochs = some (config.clients.flatMap rows) ∧
      ∀ client ∈ config.clients, EpochRows config manifest.pingmesh client (rows client) := by
  refine ⟨fun client => (agentRows config client (epochs client)).getD [], ?_, ?_⟩
  · rw [fleetRows, mapM_some (g := fun client => (agentRows config client (epochs client)).getD [])]
    · rw [Option.map_some, List.flatMap_def]
    · intro client hclient
      obtain ⟨rows, hrows, -⟩ :=
        agentRows_spec hgenerated haccepted hnames hclient (hepochs client hclient)
      rw [hrows, Option.getD_some]
  · intro client hclient
    obtain ⟨rows, hrows, hspec⟩ :=
      agentRows_spec hgenerated haccepted hnames hclient (hepochs client hclient)
    show EpochRows _ _ _ ((agentRows config client (epochs client)).getD [])
    rw [hrows, Option.getD_some]
    exact hspec

/-- The rows of a whole fleet cover the epoch. -/
theorem fleet_completeCoverage {manifest : TopologyManifest} {config : ClientAgentConfig}
    (hclients : ClientSet manifest) (hgenerated : Generated manifest config)
    (hnonempty : ∀ client ∈ config.clients, client.name ≠ "") {agents : Client → List Row}
    (hagents : ∀ client ∈ config.clients,
      EpochRows config manifest.pingmesh client (agents client))
    {rows : List Row} (hrows : rows ~ config.clients.flatMap agents) :
    CompleteCoverage (clientNames manifest) manifest.pingmesh rows := by
  have hcard : (clientNames manifest).card = config.clients.length := by
    rw [hclients.card_clientNames, hgenerated.clients_length]
  have hname : ∀ name, name ∈ clientNames manifest ↔
      ∃ client ∈ config.clients, client.name = name := by
    intro name
    rw [clientNames, List.mem_toFinset, ← hgenerated.names, List.mem_map]
  have hmem : ∀ {row}, row ∈ rows → ∃ client ∈ config.clients, row ∈ agents client := by
    intro row hrow
    exact List.mem_flatMap.mp (hrows.mem_iff.mp hrow)
  have hexists : ∀ client ∈ config.clients, ∀ {row}, row ∈ agents client → row ∈ rows := by
    intro client hclient row hrow
    exact hrows.mem_iff.mpr (List.mem_flatMap.mpr ⟨client, hclient, hrow⟩)
  have htwo : 2 ≤ (clientNames manifest).card := by
    rw [hclients.card_clientNames]
    exact hclients.two_clients
  apply completeCoverage_of_covers ?_ htwo
  · intro row hrow
    obtain ⟨client, hclient, hrow⟩ := hmem hrow
    obtain ⟨destination, hdestination, hdst⟩ := (hagents client hclient).destination row hrow
    obtain ⟨hother, hne⟩ := List.mem_filter.mp hdestination
    refine ⟨client.name, destination.name, Finset.mem_offDiag.mpr ⟨?_, ?_, ?_⟩,
      (hagents client hclient).source row hrow, hdst⟩
    · exact (hname _).mpr ⟨client, hclient, rfl⟩
    · exact (hname _).mpr ⟨destination, hother, rfl⟩
    · exact Ne.symm (by simpa using hne)
  · intro row hrow
    obtain ⟨client, hclient, hrow⟩ := hmem hrow
    exact (hagents client hclient).cycle row hrow
  · intro row hrow
    obtain ⟨client, hclient, hrow⟩ := hmem hrow
    exact (hagents client hclient).counts row hrow
  · intro row hrow
    obtain ⟨client, hclient, hrow⟩ := hmem hrow
    exact (hagents client hclient).errors row hrow
  · intro source destination hoff batch hbatch
    obtain ⟨hsource, hdestination, hne⟩ := Finset.mem_offDiag.mp hoff
    obtain ⟨client, hclient, rfl⟩ := (hname source).mp hsource
    obtain ⟨other, hother, rfl⟩ := (hname destination).mp hdestination
    have hother : other ∈ otherClients config client :=
      List.mem_filter.mpr ⟨hother, by simpa using hne.symm⟩
    obtain ⟨row, hrow, hdst, hport⟩ := (hagents client hclient).covers other hother batch hbatch
    exact ⟨row, hexists client hclient hrow, (hagents client hclient).source row hrow, hdst, hport⟩
  · intro batch hbatch
    rw [hcard] at hbatch
    obtain ⟨client, hclient⟩ := List.exists_mem_of_length_pos (l := config.clients) (by omega)
    obtain ⟨row, hrow, hbatch⟩ := (hagents client hclient).destinationBatches batch hbatch
    exact ⟨row, hexists client hclient hrow, hbatch⟩
  · intro name hmem
    obtain ⟨client, hclient, rfl⟩ := (hname name).mp hmem
    exact hnonempty client hclient

/-- The audit and the schedule agree. The rows of all agents over an epoch each are complete, and
complete rows have every pair with every port batch and the socket counts of their batches. -/
theorem coverage_audit_agrees {manifest : TopologyManifest} (hclients : ClientSet manifest)
    (hports : manifest.pingmesh.ValidPortBatches) :
    (∀ config, buildClientAgentConfig manifest = .ok config →
      (∀ client ∈ config.clients, client.name ≠ "") → ∀ epochs : Client → AgentEpoch,
      (∀ client ∈ config.clients, (epochs client).Clean config) →
      ∃ fleet, fleetRows config epochs = some fleet ∧ ∀ rows, rows ~ fleet →
        ∃ report, summarizeCoverage (.ofManifest manifest) rows = .ok report ∧
          report.coverageStatus = .complete) ∧
    ∀ rows, (∀ row ∈ rows, ProbeRow (clientNames manifest) row) →
      ∀ report, summarizeCoverage (.ofManifest manifest) rows = .ok report →
      report.coverageStatus = .complete →
        Covers (clientNames manifest) manifest.pingmesh.portBatchCount rows ∧
        ∀ row ∈ rows, row.probeCycle.isSome → HasSocketCounts manifest.pingmesh row := by
  constructor
  · intro config hconfig hnonempty epochs hepochs
    have hgenerated := buildClientAgentConfig_spec hconfig
    have haccepted := hgenerated.accepted hclients.two_clients hports
    have hnames : (config.clients.map (·.name)).Nodup := by
      rw [hgenerated.names]
      exact hclients.names_nodup
    obtain ⟨agents, hfleet, hagents⟩ := fleetRows_spec hgenerated haccepted hnames hepochs
    refine ⟨_, hfleet, fun rows hrows => ?_⟩
    obtain ⟨report, hreport, hstatus⟩ := summarizeCoverage_complete_iff hclients rows
    exact ⟨report, hreport,
      hstatus.mpr (fleet_completeCoverage hclients hgenerated hnonempty hagents hrows)⟩
  · intro rows hrows report hreport hcomplete
    obtain ⟨report', hreport', hstatus⟩ := summarizeCoverage_complete_iff hclients rows
    cases hreport.symm.trans hreport'
    have hcoverage := hstatus.mp hcomplete
    refine ⟨hcoverage.covers hrows, fun row hrow hcycle => ?_⟩
    exact hasSocketCounts_of_valid (hcoverage.sockets row (mem_cycleRows.mpr ⟨hrow, hcycle⟩))

/-! ## Two clients -/

def pairPolicy : Models.PingmeshPolicy :=
  { Models.PingmeshPolicy.default with
    rttPortPoolSize := 3
    rttPortsPerCycle := 1
    rttPortPoolSize_pos := by decide
    rttPortsPerCycle_pos := Models.PingmeshPolicy.default.cycleIntervalSeconds_pos }

/-- Two clients at a leaf that probe each other over one of three source ports a cycle. -/
def clientPair (first second : String) : TopologyManifest where
  topologyId := "dcn"
  name := "dcn"
  scale := "custom"
  facts := { totalClients := 2 }
  devices := [(first, 1), (second, 2)].map fun (name, i) =>
    { name, role := .client, attachedSwitch := some "leaf1"
      mgmtIp := some (.ofOctets 172 20 20 (11 + i))
      dataIp := some (.ofOctets 192 168 101 (4 * i)) }
  links := []
  pingmesh := pairPolicy

theorem clientPair_clientSet {first second : String} (h : first ≠ second) :
    ClientSet (clientPair first second) := by
  refine ⟨Nat.le_refl 2, ?_, rfl⟩
  exact List.nodup_cons.mpr ⟨List.mem_singleton.not.mpr h, List.nodup_singleton _⟩

/-- An epoch from the cycle `start` on whose probes are all answered. -/
def answeredFrom (start : Nat) : AgentEpoch where
  start
  hostSeed := 0
  stats _ _ := (⟨1, 1, 0, 0, 0⟩, ⟨1, 1, 0, 0, 0⟩)

theorem answeredFrom_noLocalErrors (start : Nat) : (answeredFrom start).NoLocalErrors :=
  fun _ _ => ⟨rfl, rfl⟩

/-- The rows of the pair, both of its agents starting from the cycle `start`. -/
def pairRows (first second : String) (start : Nat) : Option (List Row) :=
  (buildClientAgentConfig (clientPair first second)).toOption.bind fun config =>
    fleetRows config fun _ => answeredFrom start

def coverageStatus (manifest : TopologyManifest) (rows : List Row) : Option CoverageStatus :=
  (summarizeCoverage (.ofManifest manifest) rows).toOption.map (·.coverageStatus)

/-- The only pairs of two clients. -/
theorem probeRow_of_mem {first second : String} (h : first ≠ second) {row : Row}
    (hrow : (row.srcName, row.dstName) ∈
      [(some first, some second), (some second, some first)]) :
    ProbeRow (clientNames (clientPair first second)) row := by
  have hmem : ∀ name, name ∈ clientNames (clientPair first second) ↔ name = first ∨ name = second := by
    intro name
    rw [clientNames, List.mem_toFinset]
    show name ∈ [first, second] ↔ _
    rw [List.mem_pair]
  rcases List.mem_pair.mp hrow with hrow | hrow
  · cases Prod.mk.inj hrow with | _ hsource hdestination
    exact ⟨first, second, Finset.mem_offDiag.mpr ⟨(hmem _).mpr (.inl rfl), (hmem _).mpr (.inr rfl), h⟩,
      hsource, hdestination⟩
  · cases Prod.mk.inj hrow with | _ hsource hdestination
    exact ⟨second, first, Finset.mem_offDiag.mpr
      ⟨(hmem _).mpr (.inr rfl), (hmem _).mpr (.inl rfl), h.symm⟩, hsource, hdestination⟩

theorem coverage_audit_agrees_clientPair :
    ∃ config fleet, buildClientAgentConfig (clientPair "client1" "client2") = .ok config ∧
      fleetRows config (fun _ => answeredFrom 5) = some fleet ∧
      ∃ report, summarizeCoverage (.ofManifest (clientPair "client1" "client2")) fleet =
          .ok report ∧ report.coverageStatus = .complete ∧
        Covers (clientNames (clientPair "client1" "client2")) 3 fleet := by
  obtain ⟨hemitted, haudited⟩ := coverage_audit_agrees
    (clientPair_clientSet (show "client1" ≠ "client2" by decide))
    (show (clientPair "client1" "client2").pingmesh.ValidPortBatches by
      unfold PingmeshPolicy.ValidPortBatches; decide)
  obtain ⟨fleet, hfleet, hcomplete⟩ := hemitted _ rfl (by decide) (fun _ => answeredFrom 5)
    fun _ _ => ⟨by decide, answeredFrom_noLocalErrors 5⟩
  obtain ⟨report, hreport, hstatus⟩ := hcomplete fleet (.refl _)
  refine ⟨_, fleet, rfl, hfleet, report, hreport, hstatus, ?_⟩
  refine (haudited fleet (fun row hrow => ?_) report hreport hstatus).1
  have hpairs : ∀ row ∈ (pairRows "client1" "client2" 5).getD [], (row.srcName, row.dstName) ∈
      [(some "client1", some "client2"), (some "client2", some "client1")] := by
    decide +kernel
  refine probeRow_of_mem (by decide) (hpairs row ?_)
  have hpair : pairRows "client1" "client2" 5 = some fleet := hfleet
  rw [hpair]
  exact hrow

/-- A row that lost the counter of its cycle, and miscounts its sockets. -/
def uncycledRow : Row where
  srcName := some "client1"
  srcIp := none
  dstName := some "client2"
  dstIp := none
  packetsSent := none
  packetsLost := none
  rttPortsActive := some 7
  rttPortsTotal := none
  probeCycle := none
  destinationBatchIndex := none
  portBatchIndex := none
  dfMtuDrops := none
  localProbeErrors := none

/-- The audit counts no client without a name, an epoch across the wrap-around of the counter
repeats a batch, and the audit overlooks a row without a cycle. -/
theorem coverage_audit_gaps :
    (ClientSet (clientPair "" "client2") ∧ (clientPair "" "client2").pingmesh.ValidPortBatches ∧
      ∃ rows, pairRows "" "client2" 5 = some rows ∧
        coverageStatus (clientPair "" "client2") rows = some .incomplete) ∧
    (ClientSet (clientPair "client1" "client2") ∧
      (clientPair "client1" "client2").pingmesh.ValidPortBatches ∧
      ∃ rows, pairRows "client1" "client2" (2 ^ 64 - 2) = some rows ∧
        coverageStatus (clientPair "client1" "client2") rows = some .incomplete) ∧
    ∃ rows, (∀ row ∈ rows, ProbeRow (clientNames (clientPair "client1" "client2")) row) ∧
      coverageStatus (clientPair "client1" "client2") rows = some .complete ∧
      ∃ row ∈ rows, ¬ HasSocketCounts (clientPair "client1" "client2").pingmesh row := by
  have hports : ∀ first second, (clientPair first second).pingmesh.ValidPortBatches := by
    intro first second
    show 1 ≤ 3
    decide
  refine ⟨⟨clientPair_clientSet (by decide), hports _ _, ?_⟩,
    ⟨clientPair_clientSet (by decide), hports _ _, ?_⟩, ?_⟩
  · exact ⟨(pairRows "" "client2" 5).getD [], by decide +kernel, by decide +kernel⟩
  · exact ⟨(pairRows "client1" "client2" (2 ^ 64 - 2)).getD [], by decide +kernel,
      by decide +kernel⟩
  · have hpairs : ∀ row ∈ uncycledRow :: (pairRows "client1" "client2" 5).getD [],
        (row.srcName, row.dstName) ∈
          [(some "client1", some "client2"), (some "client2", some "client1")] := by
      decide +kernel
    refine ⟨uncycledRow :: (pairRows "client1" "client2" 5).getD [],
      fun row hrow => probeRow_of_mem (by decide) (hpairs row hrow), by decide +kernel,
      uncycledRow, List.mem_cons_self, ?_⟩
    rintro ⟨batch, -, hindex, -⟩
    cases hindex

end NetOpsBench.Pingmesh
