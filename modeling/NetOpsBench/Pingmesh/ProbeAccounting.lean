import NetOpsBench.Pingmesh.Coverage
import NetOpsBench.Pingmesh.ProbeCycle

/-!
# The accounts of a cycle of probes

A ledger has one entry for each probe, with what became of it. The counters of a cycle are those of
its ledger, whatever the order of sends and datagrams.

`probe_accounting` says so of the results of a cycle, for every behaviour of the network, with at most 16
DF probes for a target. The invariant is `Booked`: the pending probes and the counters are those of the
ledger until the sequence numbers run out. `Booked.sendProbe` and `Booked.receive` preserve it, and
`Steps` is any sequence of sends and receptions.
-/

namespace NetOpsBench.Pingmesh

/-! ## The ledger -/

/-- What became of a probe. -/
inductive Fate where
  | unanswered
  | answered
  /-- The reply has no kernel timestamp. -/
  | invalidated
  /-- `send_to` reports a failure of the path. -/
  | refused
  | tooLong
  /-- The local host could not send. -/
  | unsent
deriving DecidableEq, Repr

structure Probe where
  sequence : Nat
  item : Pending
  fate : Fate
deriving DecidableEq, Repr

def sendFate : Except Errno Unit → Fate
  | .ok () => .unanswered
  | .error errno =>
    if errno = .emsgsize then .tooLong
    else if isTransientLocalSendError errno then .unsent
    else .refused

def replyFate (receivedNs : Option Nat) : Fate :=
  if receivedNs.isSome then .answered else .invalidated

theorem replyFate_ne (receivedNs : Option Nat) : replyFate receivedNs ≠ .unanswered := by
  unfold replyFate
  split <;> nofun

namespace Probe

/-- The first reply decides about a probe. -/
def reply (probe : Probe) (sequence : Nat) (receivedNs : Option Nat) : Probe :=
  if probe.sequence = sequence ∧ probe.fate = .unanswered then
    { probe with fate := replyFate receivedNs }
  else probe

/-- A probe that the network has lost: it was handed over, or refused by the path, and nothing has
decided about it. -/
def Lost (probe : Probe) : Prop := probe.fate = .unanswered ∨ probe.fate = .refused

instance (probe : Probe) : Decidable probe.Lost := inferInstanceAs (Decidable (_ ∨ _))

/-- The local host is to blame. -/
def LocalError (probe : Probe) : Prop :=
  probe.fate = .invalidated ∨ probe.fate = .tooLong ∨ probe.fate = .unsent

instance (probe : Probe) : Decidable probe.LocalError := inferInstanceAs (Decidable (_ ∨ _ ∨ _))

theorem not_lost (probe : Probe) (h : probe.LocalError) : ¬ probe.Lost := by
  rcases h with h | h | h <;> simp [Lost, h]

end Probe

def ledgerStep (probes : List Probe) : Event → List Probe
  | .attempted sequence item outcome => probes ++ [{ sequence, item, fate := sendFate outcome }]
  | .received packet =>
    match decodeHeader packet.bytes with
    | none => probes
    | some (sequence, _) => probes.map (·.reply sequence packet.receivedNs)

/-- The probes of a history, in the order in which they were sent. -/
def ledger (history : List Event) : List Probe := history.foldl ledgerStep []

theorem ledger_concat (history : List Event) (event : Event) :
    ledger (history ++ [event]) = ledgerStep (ledger history) event := List.foldl_concat ..

section
variable (kind : ProbeKind) (targetIndex : Nat)

/-- The number of probes of a kind and a target with a fate. -/
def countFate (fate : Fate) (probes : List Probe) : Nat :=
  probes.countP fun probe =>
    probe.item.kind = kind ∧ probe.item.targetIndex = targetIndex ∧ probe.fate = fate

/-- The counters that the probes of a kind and a target amount to. -/
def tally (probes : List Probe) : ProbeStats :=
  let count (fate : Fate) : Nat := countFate kind targetIndex fate probes
  { sent := count .unanswered + count .answered + count .invalidated + count .refused +
      count .tooLong
    received := count .answered
    mtuDrops := count .tooLong
    invalidSent := count .invalidated + count .tooLong
    localErrors := count .invalidated + count .tooLong + count .unsent }

theorem countFate_append (fate : Fate) (before after : List Probe) :
    countFate kind targetIndex fate (before ++ after) =
      countFate kind targetIndex fate before + countFate kind targetIndex fate after :=
  List.countP_append

theorem countFate_cons (fate : Fate) (probe : Probe) (probes : List Probe) :
    countFate kind targetIndex fate (probe :: probes) =
      countFate kind targetIndex fate probes +
        if probe.item.kind = kind ∧ probe.item.targetIndex = targetIndex ∧ probe.fate = fate
        then 1 else 0 := by
  simp only [countFate, List.countP_cons, decide_eq_true_eq]

end

/-! ## Sequence numbers -/

/-- The probes of a ledger have successive sequence numbers, and the next one is to come. -/
def Numbered (probes : List Probe) (next : Nat) : Prop :=
  ∃ first, probes.map (·.sequence) =
      (List.range probes.length).map (fun index => (first + index) % 2 ^ 64) ∧
    next = (first + probes.length) % 2 ^ 64

/-- Sequence numbers repeat after 2 ^ 64 probes only. -/
theorem nodup_sequences (first : Nat) {count : Nat} (h : count ≤ 2 ^ 64) :
    ((List.range count).map fun index => (first + index) % 2 ^ 64).Nodup := by
  refine List.nodup_range.map_on fun i hi j hj hsame => ?_
  have hi := List.mem_range.mp hi
  have hj := List.mem_range.mp hj
  have hmod : i ≡ j [MOD 2 ^ 64] := Nat.ModEq.add_left_cancel' first hsame
  rwa [Nat.ModEq, Nat.mod_eq_of_lt (by omega), Nat.mod_eq_of_lt (by omega)] at hmod

theorem Numbered.nodup {probes : List Probe} {next : Nat} (h : Numbered probes next)
    (hlength : probes.length ≤ 2 ^ 64) : (probes.map (·.sequence)).Nodup := by
  obtain ⟨first, hprobes, -⟩ := h
  rw [hprobes]
  exact nodup_sequences first hlength

theorem Numbered.concat {probes : List Probe} {next : Nat} (h : Numbered probes next)
    (item : Pending) (fate : Fate) :
    Numbered (probes ++ [{ sequence := next, item, fate }]) ((next + 1) % 2 ^ 64) := by
  obtain ⟨first, hprobes, rfl⟩ := h
  refine ⟨first, ?_, ?_⟩
  · rw [List.map_append, hprobes, List.length_append, List.length_singleton, List.range_succ,
      List.map_append]
    rfl
  · rw [List.length_append, List.length_singleton, Nat.mod_add_mod, Nat.add_assoc]

theorem sequence_reply (probe : Probe) (sequence : Nat) (receivedNs : Option Nat) :
    (probe.reply sequence receivedNs).sequence = probe.sequence := by
  unfold Probe.reply
  split <;> rfl

theorem Numbered.reply {probes : List Probe} {next : Nat} (h : Numbered probes next)
    (sequence : Nat) (receivedNs : Option Nat) :
    Numbered (probes.map (·.reply sequence receivedNs)) next := by
  obtain ⟨first, hprobes, hnext⟩ := h
  refine ⟨first, ?_, by rwa [List.length_map]⟩
  rw [List.map_map, List.length_map, ← hprobes]
  exact List.map_congr_left fun probe _ => sequence_reply probe sequence receivedNs

/-! ## Counters -/

/-- How the counters of a target change with a probe of a fate. -/
def Fate.count (stats : ProbeStats) : Fate → ProbeStats
  | .unanswered | .refused => { stats with sent := stats.sent + 1 }
  | .answered => { stats with sent := stats.sent + 1, received := stats.received + 1 }
  | .invalidated =>
    { stats with
      sent := stats.sent + 1
      invalidSent := stats.invalidSent + 1
      localErrors := stats.localErrors + 1 }
  | .tooLong =>
    { stats with
      sent := stats.sent + 1
      mtuDrops := stats.mtuDrops + 1
      invalidSent := stats.invalidSent + 1
      localErrors := stats.localErrors + 1 }
  | .unsent => { stats with localErrors := stats.localErrors + 1 }

theorem tally_insert (kind : ProbeKind) (targetIndex : Nat) (before after : List Probe)
    (probe : Probe) :
    tally kind targetIndex (before ++ probe :: after) =
      if kind = probe.item.kind ∧ targetIndex = probe.item.targetIndex then
        probe.fate.count (tally kind targetIndex (before ++ after))
      else tally kind targetIndex (before ++ after) := by
  unfold tally
  simp only [countFate_append, countFate_cons]
  by_cases hitem : kind = probe.item.kind ∧ targetIndex = probe.item.targetIndex
  · obtain ⟨rfl, rfl⟩ := hitem
    simp only [true_and, and_self, if_true]
    cases probe.fate <;> simp only [Fate.count, ProbeStats.mk.injEq, reduceCtorEq, if_true,
      if_false] <;> omega
  · have hother (fate : Fate) : ¬ (probe.item.kind = kind ∧ probe.item.targetIndex = targetIndex ∧
        probe.fate = fate) := fun h => hitem ⟨h.1.symm, h.2.1.symm⟩
    simp only [hitem, hother, if_false, Nat.add_zero]

/-- The pending probes and the counters of a cycle are those of its ledger. -/
structure Accounted (state : CycleState) : Prop where
  pending : ∀ sequence item, item ∈ state.pending.lookup sequence ↔
    ∃ probe ∈ ledger state.history,
      probe.sequence = sequence ∧ probe.item = item ∧ probe.fate = .unanswered
  stats : ∀ kind targetIndex,
    state.stats kind targetIndex = tally kind targetIndex (ledger state.history)

/-- The sequence numbers are used in their order, and until they run out the counters are right. -/
structure Booked (state : CycleState) : Prop where
  numbered : Numbered (ledger state.history) state.sequence
  accounted : (ledger state.history).length ≤ 2 ^ 64 → Accounted state

theorem booked_start {sequence : Nat} (h : sequence < 2 ^ 64) : Booked (.start sequence) where
  numbered := ⟨sequence, rfl, (Nat.mod_eq_of_lt h).symm⟩
  accounted _ :=
    { pending := fun _ _ => ⟨nofun, fun h => by simp [CycleState.start, ledger] at h⟩
      stats := fun _ _ => rfl }

/-! ## One step -/

namespace CycleState

variable {state next : CycleState} {probe : Pending} {outcome : Except Errno Unit}

/-- What a send that is not fatal does. -/
theorem sendProbe_eq (h : state.sendProbe probe outcome = .ok next) :
    next =
      { sequence := (state.sequence + 1) % 2 ^ 64
        pending := if sendFate outcome = .unanswered then state.pending.insert state.sequence probe
          else state.pending
        stats := state.updateStats probe (sendFate outcome).count
        history := state.history ++ [.attempted state.sequence probe outcome] } := by
  unfold sendProbe at h
  cases outcome with
  | ok => exact (Except.ok.inj h).symm
  | error errno =>
    simp only [sendFate] at h ⊢
    split at h
    · rename_i hlong
      simp only [if_pos hlong, reduceCtorEq, if_false]
      exact (Except.ok.inj h).symm
    rename_i hlong
    split at h
    · rename_i hlocal
      simp only [if_neg hlong, if_pos hlocal, reduceCtorEq, if_false]
      exact (Except.ok.inj h).symm
    rename_i hlocal
    split at h
    · simp only [if_neg hlong, if_neg hlocal, reduceCtorEq, if_false]
      exact (Except.ok.inj h).symm
    · cases h

end CycleState

theorem ledger_attempted (history : List Event) (sequence : Nat) (item : Pending)
    (outcome : Except Errno Unit) :
    ledger (history ++ [.attempted sequence item outcome]) =
      ledger history ++ [{ sequence, item, fate := sendFate outcome }] := ledger_concat ..

/-- An attempt to send is booked, whatever comes of it. -/
theorem Booked.sendProbe {state next : CycleState} {item : Pending} {outcome : Except Errno Unit}
    (hbooked : Booked state) (h : state.sendProbe item outcome = .ok next) : Booked next := by
  rw [CycleState.sendProbe_eq h]
  refine ⟨?_, fun hlength => ?_⟩
  · rw [ledger_attempted]
    exact hbooked.numbered.concat item _
  have hnodup := (hbooked.numbered.concat item (sendFate outcome)).nodup
    (by rwa [ledger_attempted] at hlength)
  rw [ledger_attempted, List.length_append] at hlength
  have haccounted := hbooked.accounted (by omega)
  have hfresh : ∀ probe ∈ ledger state.history, probe.sequence ≠ state.sequence := by
    rw [List.map_append, List.nodup_append] at hnodup
    exact fun probe hprobe => hnodup.2.2 _ (List.mem_map_of_mem hprobe) _ List.mem_cons_self
  refine ⟨fun sequence pending => ?_, fun kind targetIndex => ?_⟩
  · simp only [ledger_attempted, List.mem_append, List.mem_singleton]
    split
    · rename_i hfate
      by_cases hsame : sequence = state.sequence
      · subst hsame
        rw [AList.lookup_insert, Option.mem_some_iff]
        constructor
        · rintro rfl
          exact ⟨_, .inr rfl, rfl, rfl, hfate⟩
        · rintro ⟨probe, hprobe | rfl, hsequence, hitem, -⟩
          · exact absurd hsequence (hfresh probe hprobe)
          · exact hitem
      · rw [AList.lookup_insert_ne hsame, haccounted.pending]
        constructor
        · rintro ⟨probe, hprobe, hrest⟩
          exact ⟨probe, .inl hprobe, hrest⟩
        · rintro ⟨probe, hprobe | rfl, hrest⟩
          · exact ⟨probe, hprobe, hrest⟩
          · exact absurd hrest.1.symm hsame
    · rename_i hfate
      rw [haccounted.pending]
      constructor
      · rintro ⟨probe, hprobe, hrest⟩
        exact ⟨probe, .inl hprobe, hrest⟩
      · rintro ⟨probe, hprobe | rfl, hrest⟩
        · exact ⟨probe, hprobe, hrest⟩
        · exact absurd hrest.2.2 hfate
  · rw [ledger_attempted, tally_insert, List.append_nil, ← haccounted.stats kind targetIndex]
    rfl

/-! ## One datagram -/

/-- How the counters of a target change with a reply. -/
def replyCount (receivedNs : Option Nat) (stats : ProbeStats) : ProbeStats :=
  if receivedNs.isSome then { stats with received := stats.received + 1 }
  else
    { stats with
      invalidSent := stats.invalidSent + 1
      localErrors := stats.localErrors + 1 }

/-- A datagram that is no reply to a pending probe. -/
def CycleState.Ignores (state : CycleState) (packet : ReceivedPacket) : Prop :=
  ∀ header ∈ decodeHeader packet.bytes, state.pending.lookup header.1 = none

theorem CycleState.receive_of_ignores {state : CycleState} {packet : ReceivedPacket}
    (h : state.Ignores packet) :
    state.receive packet = { state with history := state.history ++ [.received packet] } := by
  unfold receive
  cases hheader : decodeHeader packet.bytes with
  | none => rfl
  | some header =>
    dsimp only
    rw [h header hheader]

theorem CycleState.receive_of_pending {state : CycleState} {packet : ReceivedPacket}
    {header : Nat × Nat} {item : Pending} (hheader : decodeHeader packet.bytes = some header)
    (h : state.pending.lookup header.1 = some item) :
    state.receive packet =
      { state with
        pending := state.pending.erase header.1
        stats := state.updateStats item (replyCount packet.receivedNs)
        history := state.history ++ [.received packet] } := by
  unfold receive
  rw [hheader]
  dsimp only
  rw [h]
  cases packet.receivedNs <;> rfl

theorem ledger_received {history : List Event} {packet : ReceivedPacket} :
    ledger (history ++ [.received packet]) =
      match decodeHeader packet.bytes with
      | none => ledger history
      | some (sequence, _) => (ledger history).map (·.reply sequence packet.receivedNs) :=
  ledger_concat ..

/-- Only the probe with the sequence number of a reply changes. -/
theorem map_reply {before after : List Probe} {probe : Probe} {receivedNs : Option Nat}
    (hnodup : ((before ++ probe :: after).map (·.sequence)).Nodup)
    (hfate : probe.fate = .unanswered) :
    (before ++ probe :: after).map (·.reply probe.sequence receivedNs) =
      before ++ { probe with fate := replyFate receivedNs } ::
        after := by
  rw [List.map_append, List.map_cons, List.nodup_append, List.nodup_cons] at hnodup
  obtain ⟨-, ⟨hafter, -⟩, hbefore⟩ := hnodup
  have hother {other : Probe} (h : other.sequence ≠ probe.sequence) :
      other.reply probe.sequence receivedNs = other := if_neg fun hreply => h hreply.1
  have hbefore : before.map (·.reply probe.sequence receivedNs) = before :=
    (List.map_congr_left fun other hmem =>
      hother (hbefore _ (List.mem_map_of_mem hmem) _ List.mem_cons_self)).trans (List.map_id _)
  have hafter : after.map (·.reply probe.sequence receivedNs) = after :=
    (List.map_congr_left fun other hmem => hother fun hsame =>
      hafter (hsame ▸ List.mem_map_of_mem hmem)).trans (List.map_id _)
  rw [List.map_append, List.map_cons, hbefore, hafter, Probe.reply, if_pos ⟨rfl, hfate⟩]

theorem decided_of_mem {before after : List Probe} {probe other : Probe} {receivedNs : Option Nat}
    (hnodup : ((before ++ probe :: after).map (·.sequence)).Nodup)
    (hother : other ∈ before ++ { probe with fate := replyFate receivedNs } :: after)
    (hsequence : other.sequence = probe.sequence) : other.fate ≠ .unanswered := by
  rw [List.map_append, List.map_cons, List.nodup_append, List.nodup_cons] at hnodup
  obtain ⟨-, ⟨hafter, -⟩, hbefore⟩ := hnodup
  rcases List.mem_append.mp hother with hmem | hmem
  · exact absurd hsequence (hbefore _ (List.mem_map_of_mem hmem) _ List.mem_cons_self)
  rcases List.mem_cons.mp hmem with rfl | hmem
  · exact replyFate_ne receivedNs
  · exact absurd (hsequence ▸ List.mem_map_of_mem hmem) hafter

/-- A reply moves its probe from the unanswered ones. -/
theorem tally_reply (kind : ProbeKind) (targetIndex : Nat) {before after : List Probe}
    {probe : Probe} (hfate : probe.fate = .unanswered) (receivedNs : Option Nat) :
    tally kind targetIndex (before ++
        { probe with fate := replyFate receivedNs } :: after) =
      if kind = probe.item.kind ∧ targetIndex = probe.item.targetIndex then
        replyCount receivedNs (tally kind targetIndex (before ++ probe :: after))
      else tally kind targetIndex (before ++ probe :: after) := by
  rw [tally_insert, tally_insert, hfate]
  by_cases hitem : kind = probe.item.kind ∧ targetIndex = probe.item.targetIndex
  · rw [if_pos hitem, if_pos hitem, if_pos hitem]
    cases receivedNs <;> rfl
  · rw [if_neg hitem, if_neg hitem, if_neg hitem]

theorem map_reply_of_decided {probes : List Probe} {sequence : Nat} {receivedNs : Option Nat}
    (h : ∀ probe ∈ probes, probe.sequence = sequence → probe.fate ≠ .unanswered) :
    probes.map (·.reply sequence receivedNs) = probes :=
  (List.map_congr_left fun probe hmem =>
    if_neg fun hreply => h probe hmem hreply.1 hreply.2).trans (List.map_id _)

/-- What does not change the ledger leaves the books. -/
theorem Booked.of_ledger {state : CycleState} (hbooked : Booked state) {history : List Event}
    (h : ledger history = ledger state.history) : Booked { state with history } where
  numbered := h ▸ hbooked.numbered
  accounted hlength :=
    have haccounted := hbooked.accounted (h ▸ hlength)
    ⟨fun sequence item => by rw [h]; exact haccounted.pending sequence item,
      fun kind targetIndex => by rw [h]; exact haccounted.stats kind targetIndex⟩

/-- A datagram is booked, whether it is a reply or not. -/
theorem Booked.receive {state : CycleState} (hbooked : Booked state) (packet : ReceivedPacket) :
    Booked (state.receive packet) := by
  cases hheader : decodeHeader packet.bytes with
  | none =>
    have hledger : ledger (state.history ++ [.received packet]) = ledger state.history := by
      rw [ledger_received, hheader]
    rw [CycleState.receive_of_ignores fun header h => by rw [hheader] at h; cases h]
    exact hbooked.of_ledger hledger
  | some header =>
    have hledger : ledger (state.history ++ [.received packet]) =
        (ledger state.history).map (·.reply header.1 packet.receivedNs) := by
      rw [ledger_received, hheader]
    cases hlookup : state.pending.lookup header.1 with
    | none =>
      rw [CycleState.receive_of_ignores fun other h => by
        rw [hheader] at h
        cases h
        exact hlookup]
      refine ⟨by rw [hledger]; exact hbooked.numbered.reply .., fun hlength => ?_⟩
      rw [hledger, List.length_map] at hlength
      have haccounted := hbooked.accounted hlength
      have hsame := @map_reply_of_decided (ledger state.history) header.1 packet.receivedNs
        fun probe hprobe hsequence hfate => by
          have := (haccounted.pending header.1 probe.item).mpr ⟨probe, hprobe, hsequence, rfl, hfate⟩
          rw [hlookup] at this
          cases this
      exact (hbooked.of_ledger (hledger.trans hsame)).accounted (by rwa [hledger, List.length_map])
    | some item =>
      rw [CycleState.receive_of_pending hheader hlookup]
      refine ⟨by rw [hledger]; exact hbooked.numbered.reply .., fun hlength => ?_⟩
      rw [hledger, List.length_map] at hlength
      have haccounted := hbooked.accounted hlength
      have hnodup := hbooked.numbered.nodup hlength
      obtain ⟨probe, hprobe, hsequence, rfl, hfate⟩ := (haccounted.pending header.1 item).mp hlookup
      obtain ⟨before, after, hsplit⟩ := List.append_of_mem hprobe
      rw [hsplit] at hnodup
      rw [hsplit, ← hsequence, map_reply hnodup hfate] at hledger
      refine ⟨fun sequence pending => ?_, fun kind targetIndex => ?_⟩
      · dsimp only
        rw [hledger]
        by_cases hsame : sequence = header.1
        · subst hsame
          rw [AList.lookup_erase]
          refine ⟨nofun, ?_⟩
          rintro ⟨other, hother, hnumber, -, hunanswered⟩
          exact absurd hunanswered (decided_of_mem hnodup hother (hnumber.trans hsequence.symm))
        · rw [AList.lookup_erase_ne hsame, haccounted.pending, hsplit]
          have hne : probe.sequence ≠ sequence := fun h => hsame (h.symm.trans hsequence)
          simp [or_and_right, exists_or, hne]
      · dsimp only
        rw [hledger, tally_reply kind targetIndex hfate, ← hsplit, ← haccounted.stats]
        rfl

/-! ## A whole cycle -/

/-- One state comes from another by attempts to send some probes, in this order, with any datagrams
read between them. -/
inductive Steps (state : CycleState) : List Pending → CycleState → Prop where
  | refl : Steps state [] state
  | send {probes : List Pending} {middle next : CycleState} {probe : Pending}
    {outcome : Except Errno Unit} : Steps state probes middle →
    middle.sendProbe probe outcome = .ok next → Steps state (probes ++ [probe]) next
  | receive {probes : List Pending} {middle : CycleState} (packet : ReceivedPacket) :
    Steps state probes middle → Steps state probes (middle.receive packet)

section
variable {state middle next : CycleState} {probes later : List Pending}

theorem Steps.trans (h : Steps state probes middle) (hlater : Steps middle later next) :
    Steps state (probes ++ later) next := by
  induction hlater with
  | refl => rwa [List.append_nil]
  | send _ hsend ih =>
    rw [← List.append_assoc]
    exact .send ih hsend
  | receive packet _ ih => exact .receive packet ih

theorem Steps.booked (h : Steps state probes next) (hbooked : Booked state) : Booked next := by
  induction h with
  | refl => exact hbooked
  | send _ hsend ih => exact ih.sendProbe hsend
  | receive packet _ ih => exact ih.receive packet

theorem items_reply (probes : List Probe) (sequence : Nat) (receivedNs : Option Nat) :
    (probes.map (·.reply sequence receivedNs)).map (·.item) = probes.map (·.item) := by
  rw [List.map_map]
  refine List.map_congr_left fun probe _ => ?_
  simp only [Function.comp_apply, Probe.reply]
  split <;> rfl

/-- The ledger has the probes that were attempted, in their order. -/
theorem Steps.items (h : Steps state probes next) :
    (ledger next.history).map (·.item) = (ledger state.history).map (·.item) ++ probes := by
  induction h with
  | refl => rw [List.append_nil]
  | send _ hsend ih =>
    rw [CycleState.sendProbe_eq hsend, ledger_attempted, List.map_append, ih, List.append_assoc]
    rfl
  | @receive _ middle packet _ ih =>
    have hhistory : (middle.receive packet).history = middle.history ++ [.received packet] := by
      unfold CycleState.receive
      split
      · rfl
      · split
        · rfl
        · split <;> rfl
    rw [hhistory, ledger_received, ← ih]
    split
    · rfl
    · exact items_reply ..

theorem Steps.of_drainReplies {drain : Drain} (h : drainReplies state drain = .ok next) :
    Steps state [] next := by
  unfold drainReplies at h
  split at h
  · cases h
  · cases h
    exact List.foldlRecOn drain.packets CycleState.receive .refl fun _ hsteps packet _ =>
      .receive packet hsteps

theorem Steps.of_awaitReplies {drains : List Drain} (h : awaitReplies state drains = .ok next) :
    Steps state [] next := by
  induction drains generalizing state with
  | nil =>
    cases h
    exact .refl
  | cons drain drains ih =>
    rw [awaitReplies] at h
    split at h
    · cases h
      exact .refl
    · obtain ⟨middle, hdrain, hrest⟩ := Except.bind_eq_ok.mp h
      exact (of_drainReplies hdrain).trans (ih hrest)

/-- Sending goes probe by probe, with drains in between. -/
theorem Steps.of_sendProbes {network : Network}
    (h : network.sendProbes state probes = .ok next) : Steps state probes next := by
  unfold Network.sendProbes at h
  induction probes generalizing state with
  | nil =>
    cases h
    exact .refl
  | cons probe probes ih =>
    rw [List.foldlM_cons] at h
    obtain ⟨middle, hsend, hrest⟩ := Except.bind_eq_ok.mp h
    exact (Steps.refl.send hsend).trans (ih hrest)

end

/-! ## The number of DF probes -/

def IsDf (targetIndex : Nat) (probe : Pending) : Prop :=
  probe.kind = .df ∧ probe.targetIndex = targetIndex

instance (targetIndex : Nat) (probe : Pending) : Decidable (IsDf targetIndex probe) :=
  inferInstanceAs (Decidable (_ ∧ _))

/-- The schedule has at most one DF probe for a target. -/
theorem countP_buildProbeSchedule_le (targetCount socketCount targetIndex : Nat) :
    (buildProbeSchedule targetCount socketCount).countP
        (fun entry => IsDf targetIndex (Pending.ofEntry entry)) ≤
      if targetIndex < targetCount then 1 else 0 := by
  induction targetCount with
  | zero => exact Nat.zero_le _
  | succ n ih =>
    have hrtt : ((List.range socketCount).map fun socketIndex => (ProbeKind.rtt, n, socketIndex)).countP
        (fun entry => IsDf targetIndex (Pending.ofEntry entry)) = 0 := by
      rw [List.countP_eq_zero]
      rintro _ hmem hdf
      obtain ⟨socketIndex, -, rfl⟩ := List.mem_map.mp hmem
      exact absurd (of_decide_eq_true hdf).1 nofun
    have hdf : (if socketCount > 0 then [(ProbeKind.df, n, n % socketCount)] else []).countP
        (fun entry => IsDf targetIndex (Pending.ofEntry entry)) ≤ if n = targetIndex then 1 else 0 := by
      split
      · simp [IsDf, Pending.ofEntry]
      · exact Nat.zero_le _
    rw [buildProbeSchedule] at ih ⊢
    rw [List.range_succ, List.flatMap_append, List.countP_append, List.flatMap_singleton,
      List.countP_append, hrtt]
    have hone : (if targetIndex < n then 1 else 0) + (if n = targetIndex then 1 else 0) ≤
        if targetIndex < n + 1 then 1 else 0 := by
      split_ifs <;> omega
    omega

/-- The pending probes are those of the ledger that nothing has decided about. -/
theorem Accounted.perm_pending {state : CycleState} (haccounted : Accounted state)
    (hnodup : ((ledger state.history).map (·.sequence)).Nodup) :
    (state.pending.entries.map (·.2)).Perm
      (((ledger state.history).filter (·.fate = .unanswered)).map (·.item)) := by
  have hentries : state.pending.entries.Perm
      (((ledger state.history).filter (·.fate = .unanswered)).map
        fun probe => ⟨probe.sequence, probe.item⟩) := by
    refine (List.perm_ext_iff_of_nodup state.pending.nodupKeys.nodup ?_).mpr ?_
    · refine .of_map (·.1) ?_
      rw [List.map_map]
      exact hnodup.sublist (List.filter_sublist.map _)
    · rintro ⟨sequence, item⟩
      rw [← AList.mem_lookup_iff, haccounted.pending]
      simp only [List.mem_map, List.mem_filter, decide_eq_true_eq, Sigma.mk.injEq, heq_eq_eq]
      exact ⟨fun ⟨probe, hmem, hsequence, hitem, hfate⟩ => ⟨probe, ⟨hmem, hfate⟩, hsequence, hitem⟩,
        fun ⟨probe, ⟨hmem, hfate⟩, hsequence, hitem⟩ => ⟨probe, hmem, hsequence, hitem, hfate⟩⟩
  have hitems := hentries.map (·.2)
  rwa [List.map_map] at hitems

theorem countP_flatMap_replicate (p : Pending → Bool) (probes : List Pending) (count : Nat) :
    (probes.flatMap fun probe => List.replicate count probe).countP p = count * probes.countP p := by
  induction probes with
  | nil => rfl
  | cons probe probes ih =>
    rw [List.flatMap_cons, List.countP_append, ih, List.countP_replicate, List.countP_cons,
      Nat.mul_add, Nat.add_comm]
    split <;> simp only [Nat.mul_one, Nat.mul_zero]

/-- A cycle sends some probes, of which at most 16 are DF probes for a target. -/
theorem Network.runCycle_steps {network : Network} {targetCount socketCount phase sequence : Nat}
    {state : CycleState} (hsequence : sequence < 2 ^ 64)
    (h : network.runCycle targetCount socketCount phase sequence = .ok state)
    (hfew : (ledger state.history).length < 2 ^ 64) :
    ∃ probes, Steps (.start sequence) probes state ∧
      ∀ targetIndex, probes.countP (IsDf targetIndex ·) ≤ 16 := by
  unfold runCycle at h
  obtain ⟨-, -, h⟩ := Except.bind_eq_ok.mp h
  obtain ⟨sent, hsent, h⟩ := Except.bind_eq_ok.mp h
  obtain ⟨drained, hdrained, h⟩ := Except.bind_eq_ok.mp h
  obtain ⟨paused, hpaused, h⟩ := Except.bind_eq_ok.mp h
  obtain ⟨confirmed, hconfirmed, h⟩ := Except.bind_eq_ok.mp h
  obtain ⟨awaited, hawaited, hended⟩ := Except.bind_eq_ok.mp h
  have hfirst := ((Steps.of_sendProbes hsent).trans (.of_drainReplies hdrained)).trans
    (.of_drainReplies hpaused)
  have hsecond := ((Steps.of_sendProbes hconfirmed).trans (.of_awaitReplies hawaited)).trans
    (.of_drainReplies hended)
  refine ⟨_, hfirst.trans hsecond, fun targetIndex => ?_⟩
  have hscheduled : ((rotateProbeSchedule (buildProbeSchedule targetCount socketCount) phase).map
      Pending.ofEntry).countP (IsDf targetIndex ·) ≤ 1 := by
    have hone := countP_buildProbeSchedule_le targetCount socketCount targetIndex
    rw [List.countP_map, (rotateProbeSchedule_perm _ phase).countP_eq]
    refine hone.trans ?_
    split <;> decide
  have hbooked := hfirst.booked (booked_start hsequence)
  have hlength : (ledger paused.history).length ≤ (ledger state.history).length := by
    have hitems := congrArg List.length hsecond.items
    rw [List.length_append, List.length_map, List.length_map] at hitems
    omega
  have hunanswered : (network.unansweredDfTargets paused.pending).countP (IsDf targetIndex ·) ≤ 1 := by
    have hpending := (hbooked.accounted (by omega)).perm_pending (hbooked.numbered.nodup (by omega))
    have hitems : (ledger paused.history).map (·.item) =
        ((rotateProbeSchedule (buildProbeSchedule targetCount socketCount) phase).map .ofEntry) :=
      hfirst.items.trans (by rw [List.append_nil, List.append_nil]; rfl)
    calc (network.unansweredDfTargets paused.pending).countP (IsDf targetIndex ·)
      _ ≤ (network.order (paused.pending.entries.map (·.2))).1.countP (IsDf targetIndex ·) :=
        List.filter_sublist.countP_le
      _ = (((ledger paused.history).filter (·.fate = .unanswered)).map (·.item)).countP
          (IsDf targetIndex ·) := by
        rw [(network.order _).2.countP_eq, hpending.countP_eq]
      _ ≤ ((ledger paused.history).map (·.item)).countP (IsDf targetIndex ·) :=
        (List.filter_sublist.map _).countP_le
      _ ≤ 1 := by rwa [hitems]
  rw [List.append_nil, List.append_nil, List.append_nil, List.append_nil, List.countP_append,
    countP_flatMap_replicate, Network.dfConfirmationProbes]
  omega

/-! ## What a cycle reports -/

/-- The counters of a target for a kind of probe. -/
structure Accounts (state : CycleState) (kind : ProbeKind) (targetIndex : Nat) : Prop where
  sent : (state.stats kind targetIndex).sent =
    (state.stats kind targetIndex).invalidSent + (state.stats kind targetIndex).received +
      (state.pending.entries.map (·.2)).countP
        (fun probe => probe.kind = kind ∧ probe.targetIndex = targetIndex) +
      countFate kind targetIndex .refused (ledger state.history)
  received : (state.stats kind targetIndex).received ≤ validSent (state.stats kind targetIndex)
  lost : validSent (state.stats kind targetIndex) - (state.stats kind targetIndex).received =
    (ledger state.history).countP fun probe =>
      probe.item.kind = kind ∧ probe.item.targetIndex = targetIndex ∧ probe.Lost
  localErrors : (state.stats kind targetIndex).localErrors =
    (ledger state.history).countP fun probe =>
      probe.item.kind = kind ∧ probe.item.targetIndex = targetIndex ∧ probe.LocalError

theorem countP_lost (kind : ProbeKind) (targetIndex : Nat) (probes : List Probe) :
    (probes.countP fun probe =>
        probe.item.kind = kind ∧ probe.item.targetIndex = targetIndex ∧ probe.Lost) =
      countFate kind targetIndex .unanswered probes + countFate kind targetIndex .refused probes := by
  induction probes with
  | nil => rfl
  | cons probe probes ih =>
    rw [List.countP_cons, ih, countFate_cons, countFate_cons]
    cases hfate : probe.fate <;> simp [Probe.Lost, hfate] <;> omega

theorem countP_localError (kind : ProbeKind) (targetIndex : Nat) (probes : List Probe) :
    (probes.countP fun probe =>
        probe.item.kind = kind ∧ probe.item.targetIndex = targetIndex ∧ probe.LocalError) =
      countFate kind targetIndex .invalidated probes + countFate kind targetIndex .tooLong probes +
        countFate kind targetIndex .unsent probes := by
  induction probes with
  | nil => rfl
  | cons probe probes ih =>
    rw [List.countP_cons, ih, countFate_cons, countFate_cons, countFate_cons]
    cases hfate : probe.fate <;> simp [Probe.LocalError, hfate] <;> omega

/-- Until the sequence numbers run out, the counters are those of the ledger. -/
theorem Booked.accounts {state : CycleState} (hbooked : Booked state)
    (hfew : (ledger state.history).length < 2 ^ 64) (kind : ProbeKind) (targetIndex : Nat) :
    Accounts state kind targetIndex := by
  have haccounted := hbooked.accounted hfew.le
  have hstats := haccounted.stats kind targetIndex
  have hpending : (state.pending.entries.map (·.2)).countP
      (fun probe => probe.kind = kind ∧ probe.targetIndex = targetIndex) =
      countFate kind targetIndex .unanswered (ledger state.history) := by
    rw [(haccounted.perm_pending (hbooked.numbered.nodup hfew.le)).countP_eq, List.countP_map,
      List.countP_filter, countFate]
    refine List.countP_congr fun probe _ => ?_
    simp [and_assoc]
  refine ⟨?_, ?_, ?_, ?_⟩
  · simp only [hpending, hstats, tally]
    omega
  · simp only [validSent, hstats, tally]
    omega
  · simp only [countP_lost, validSent, hstats, tally]
    omega
  · simp only [countP_localError, hstats, tally]

/-- What a cycle reports of a target: the losses of its probes, and at most 16 DF probes. -/
structure Reports (state : CycleState) (result : ProbeResult) (targetIndex : Nat) : Prop where
  packetsLost : result.packetsLost = (ledger state.history).countP fun probe =>
    probe.item.kind = .rtt ∧ probe.item.targetIndex = targetIndex ∧ probe.Lost
  dfPacketsLost : result.dfPacketsLost = (ledger state.history).countP fun probe =>
    probe.item.kind = .df ∧ probe.item.targetIndex = targetIndex ∧ probe.Lost
  dfProbes : (ledger state.history).countP (fun probe => IsDf targetIndex probe.item) ≤ 16

/-- The accounts of a cycle balance for every target and kind of probe, its results report the
losses of the ledger, a local error is no loss, and a datagram that is no reply to a pending probe
changes no count. -/
theorem probe_accounting {network : Network}
    {targetCount socketCount schedulePhase sequence : Nat} {state : CycleState}
    (hsequence : sequence < 2 ^ 64)
    (h : network.runCycle targetCount socketCount schedulePhase sequence = .ok state)
    (hfew : (ledger state.history).length < 2 ^ 64) :
    (∀ kind targetIndex, Accounts state kind targetIndex) ∧
      List.Forall₂ (Reports state) (state.results targetCount socketCount)
        (List.range targetCount) ∧
      (∀ probe ∈ ledger state.history, probe.LocalError → ¬ probe.Lost) ∧
      ∀ (earlier : CycleState) (packet : ReceivedPacket), earlier.Ignores packet →
        (earlier.receive packet).stats = earlier.stats ∧
          (earlier.receive packet).pending = earlier.pending := by
  obtain ⟨probes, hsteps, hdf⟩ := Network.runCycle_steps hsequence h hfew
  have haccounts := (hsteps.booked (booked_start hsequence)).accounts hfew
  refine ⟨haccounts, ?_, fun probe _ => probe.not_lost, fun earlier packet hignores => ?_⟩
  · rw [CycleState.results, List.forall₂_map_left_iff, List.forall₂_same]
    intro targetIndex _
    have hitems := hsteps.items
    have hfew := hdf targetIndex
    rw [show (ledger (CycleState.start sequence).history).map (·.item) = [] from rfl,
      List.nil_append] at hitems
    rw [← hitems, List.countP_map] at hfew
    exact ⟨(haccounts .rtt targetIndex).lost, (haccounts .df targetIndex).lost, hfew⟩
  · rw [CycleState.receive_of_ignores hignores]
    exact ⟨rfl, rfl⟩

/-- A network that answers the RTT probe of the only target, and no DF probe. -/
def blackHole : Network where
  staleFailed := false
  sendTo _ := .ok ()
  afterSends :=
    { packets :=
        [{ bytes := [0x4e, 0x4f, 0x42, 0x50, 2] ++ List.replicate 19 0, receivedNs := some 1 }]
      failed := false }
  afterPause := { packets := [], failed := false }
  waiting := []
  atEnd := { packets := [], failed := false }
  order values := ⟨values, .refl values⟩

theorem blackHole_accounting : ∃ state, blackHole.runCycle 1 1 0 0 = .ok state ∧
    Accounts state .df 0 ∧ (state.results 1 1).map (·.packetsLost) = [0] ∧
    (state.results 1 1).map (·.dfPacketsLost) = [16] := by
  have hrun : (blackHole.runCycle 1 1 0 0).map (fun state =>
      ((ledger state.history).length, (state.results 1 1).map (·.packetsLost),
        (state.results 1 1).map (·.dfPacketsLost))) = .ok (17, [0], [16]) := by decide +kernel
  cases hstate : blackHole.runCycle 1 1 0 0 with
  | error error =>
    rw [hstate] at hrun
    cases hrun
  | ok state =>
    rw [hstate] at hrun
    obtain ⟨hlength, hlost, hdfLost⟩ := by simpa [Except.map] using hrun
    obtain ⟨haccounts, -⟩ := probe_accounting (by decide) hstate (by rw [hlength]; decide)
    exact ⟨state, rfl, haccounts .df 0, by simpa using hlost, by simpa using hdfLost⟩

end NetOpsBench.Pingmesh
