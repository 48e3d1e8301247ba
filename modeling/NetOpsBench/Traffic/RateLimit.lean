import NetOpsBench.Traffic.Pacing

/-!
# The limit of a flow's rate

Whatever the machine answers, a service spends no more credit than there is, so that between two
services a flow sends no more than the credit of that time and one full bucket.

`rate_respected` is the result over every sequence of services. `serviceFlow_servicedTo` is what one service
leaves, from `sendDatagrams_paid` and `writeStream_paid`: every byte that is sent was paid for.
-/

namespace NetOpsBench.Traffic

/-- The clock does not go back, and a write takes no more than it is offered. -/
structure Serviced (start : ℚ) (ticks : ℕ → Tick) : Prop where
  start_le : start ≤ (ticks 0).now
  clock : ∀ n, (ticks n).now ≤ (ticks (n + 1)).now
  write_le : ∀ n attempt bytes sent, (ticks n).tryWrite attempt bytes = .ok sent → sent ≤ bytes

/-! ## One service -/

/-- The bytes that were sent in between are paid for, and the credit suffices. -/
structure Spending.Paid (before after : Spending) : Prop where
  balance : after.tokens + after.activity.bytes = before.tokens + before.activity.bytes
  nonneg : 0 ≤ after.tokens

section
variable {index : ℕ} {plan : FlowPlan}

theorem sendDatagrams_paid {trySend : ℕ → SendResult Unit} (attempt : ℕ) (spending : Spending)
    (h : 0 ≤ spending.tokens) :
    spending.Paid (sendDatagrams index plan trySend attempt spending) := by
  fun_induction sendDatagrams index plan trySend attempt spending with
  | case1 attempt spending hpayload _ ih =>
    obtain ⟨hbalance, hnonneg⟩ := ih (sub_nonneg.mpr hpayload)
    refine ⟨?_, hnonneg⟩
    rw [hbalance]
    push_cast
    ring
  | case2 => exact ⟨rfl, h⟩
  | case3 => exact ⟨rfl, h⟩
  | case4 => exact ⟨rfl, h⟩

theorem writeBytes_le {tokens : ℚ} (h : 0 ≤ tokens) :
    ((min (⌊tokens / plan.sentPayload⌋₊ * plan.sentPayload) maxTcpWriteBytes : ℕ) : ℚ) ≤ tokens := by
  have hpos : (0 : ℚ) < plan.sentPayload := by exact_mod_cast plan.sentPayload_pos
  calc ((min (⌊tokens / plan.sentPayload⌋₊ * plan.sentPayload) maxTcpWriteBytes : ℕ) : ℚ)
      ≤ ⌊tokens / plan.sentPayload⌋₊ * plan.sentPayload := by exact_mod_cast min_le_left _ _
    _ ≤ tokens / plan.sentPayload * plan.sentPayload :=
        mul_le_mul_of_nonneg_right (Nat.floor_le (div_nonneg h hpos.le)) hpos.le
    _ = tokens := div_mul_cancel₀ _ hpos.ne'

/-- Every write is paid for, also one that takes less than it is offered. -/
theorem writeStream_paid {tryWrite : ℕ → ℕ → SendResult ℕ}
    (hwrite : ∀ attempt bytes sent, tryWrite attempt bytes = .ok sent → sent ≤ bytes)
    (attempt : ℕ) (spending : Spending) (h : 0 ≤ spending.tokens) :
    spending.Paid (writeStream plan tryWrite attempt spending).1 := by
  fun_induction writeStream plan tryWrite attempt spending with
  | case1 => exact ⟨rfl, h⟩
  | case2 attempt spending hpayload logicalPayloads writeBytes bytes hbytes ih =>
    have hoffered : ((bytes + 1 : ℕ) : ℚ) ≤ writeBytes := by
      exact_mod_cast hwrite attempt writeBytes _ hbytes
    obtain ⟨hbalance, hnonneg⟩ := ih (sub_nonneg.mpr (hoffered.trans (writeBytes_le h)))
    refine ⟨?_, hnonneg⟩
    rw [hbalance]
    push_cast
    ring
  | case3 => exact ⟨rfl, h⟩
  | case4 => exact ⟨rfl, h⟩
  | case5 => exact ⟨rfl, h⟩

/-- A send that goes out takes at least one byte of the credit. -/
theorem attempts_lt {tokens : ℚ} {bytes attempt k : ℕ} (hpayload : plan.sentPayload ≤ tokens)
    (hbytes : 0 < bytes) (hk : k < attempt + 1 + ⌊tokens - bytes⌋₊) : k < attempt + ⌊tokens⌋₊ := by
  have hless := floor_sub_lt plan.sentPayload_pos hpayload hbytes
  omega

theorem attempt_lt {tokens : ℚ} (attempt : ℕ) (hpayload : plan.sentPayload ≤ tokens) :
    attempt < attempt + ⌊tokens⌋₊ :=
  Nat.lt_add_of_pos_right (plan.sentPayload_pos.trans_le (Nat.le_floor hpayload))

theorem sendDatagrams_congr {trySend trySend' : ℕ → SendResult Unit} (attempt : ℕ)
    (spending : Spending) (h : ∀ k < attempt + ⌊spending.tokens⌋₊, trySend k = trySend' k) :
    sendDatagrams index plan trySend attempt spending =
      sendDatagrams index plan trySend' attempt spending := by
  fun_induction sendDatagrams index plan trySend attempt spending with
  | case1 attempt spending hpayload hsend ih =>
    rw [h attempt (attempt_lt attempt hpayload)] at hsend
    rw [ih fun k hk => h k (attempts_lt hpayload plan.sentPayload_pos hk)]
    conv_rhs => rw [sendDatagrams, if_pos hpayload, hsend]
  | case2 attempt spending hpayload hsend =>
    rw [h attempt (attempt_lt attempt hpayload)] at hsend
    rw [sendDatagrams, if_pos hpayload, hsend]
  | case3 attempt spending hpayload error hsend =>
    rw [h attempt (attempt_lt attempt hpayload)] at hsend
    rw [sendDatagrams, if_pos hpayload, hsend]
  | case4 attempt spending hpayload => rw [sendDatagrams, if_neg hpayload]

theorem writeStream_congr {tryWrite tryWrite' : ℕ → ℕ → SendResult ℕ} (attempt : ℕ)
    (spending : Spending)
    (h : ∀ k < attempt + ⌊spending.tokens⌋₊, tryWrite k = tryWrite' k) :
    writeStream plan tryWrite attempt spending = writeStream plan tryWrite' attempt spending := by
  fun_induction writeStream plan tryWrite attempt spending with
  | case1 attempt spending hpayload logicalPayloads writeBytes hwrite =>
    rw [h attempt (attempt_lt attempt hpayload)] at hwrite
    simp only [logicalPayloads, writeBytes] at hwrite
    rw [writeStream, if_pos hpayload]
    dsimp only
    rw [hwrite]
  | case2 attempt spending hpayload logicalPayloads writeBytes bytes hwrite ih =>
    rw [h attempt (attempt_lt attempt hpayload)] at hwrite
    rw [ih fun k hk => h k (attempts_lt hpayload bytes.succ_pos hk)]
    simp only [logicalPayloads, writeBytes] at hwrite
    conv_rhs => rw [writeStream, if_pos hpayload]
    dsimp only
    rw [hwrite]
  | case3 attempt spending hpayload logicalPayloads writeBytes hwrite =>
    rw [h attempt (attempt_lt attempt hpayload)] at hwrite
    simp only [logicalPayloads, writeBytes] at hwrite
    rw [writeStream, if_pos hpayload]
    dsimp only
    rw [hwrite]
  | case4 attempt spending hpayload logicalPayloads writeBytes error hwrite =>
    rw [h attempt (attempt_lt attempt hpayload)] at hwrite
    simp only [logicalPayloads, writeBytes] at hwrite
    rw [writeStream, if_pos hpayload]
    dsimp only
    rw [hwrite]
  | case5 attempt spending hpayload => rw [writeStream, if_neg hpayload]

end

/-! ## A service of a flow -/

section
variable (sha256 : String → List UInt8) (index : ℕ)

theorem replenishTokens_nonneg {tokens rate elapsed : ℚ} (payload : ℕ) (htokens : 0 ≤ tokens)
    (hrate : 0 ≤ rate) (helapsed : 0 ≤ elapsed) :
    0 ≤ replenishTokens tokens rate elapsed payload :=
  le_min (add_nonneg htokens (mul_nonneg hrate helapsed)) (le_max_of_le_right (Nat.cast_nonneg _))

/-- The credit of a flow when a service starts to send. -/
def PacedFlow.replenished (flow : PacedFlow) (now : ℚ) : ℚ :=
  replenishTokens flow.tokens (flow.plan.bandwidthBps.toNat / 8) (now - flow.previous)
    flow.plan.sentPayload

theorem PacedFlow.replenished_eq (flow : PacedFlow) (now : ℚ) :
    replenishTokens flow.tokens (flow.plan.bandwidthBps.toNat / 8) (now - flow.previous)
      flow.plan.sentPayload = flow.replenished now := rfl

theorem PacedFlow.replenished_le_burst (flow : PacedFlow) (now : ℚ) :
    flow.replenished now ≤ flow.plan.burst := min_le_right ..

theorem PacedFlow.replenished_le (flow : PacedFlow) (now : ℚ) : flow.replenished now ≤
    flow.tokens + flow.plan.bandwidthBps.toNat / 8 * (now - flow.previous) := min_le_left ..

/-- What a service leaves of a flow. -/
structure ServicedTo (flow : PacedFlow) (now : ℚ) (serviced : PacedFlow) (bytes : ℕ) : Prop where
  plan_eq : serviced.plan = flow.plan
  previous_eq : serviced.previous = now
  balance : serviced.tokens + bytes = flow.replenished now
  nonneg : 0 ≤ serviced.tokens

theorem ServicedTo.of_paid {flow serviced : PacedFlow} {now : ℚ} {before after : Spending}
    (hpaid : before.Paid after) (hbefore : before.tokens = flow.replenished now)
    (hzero : before.activity.bytes = 0) (hplan : serviced.plan = flow.plan)
    (hprevious : serviced.previous = now) (htokens : serviced.tokens = after.tokens) :
    ServicedTo flow now serviced after.activity.bytes := by
  obtain ⟨hbalance, hnonneg⟩ := hpaid
  refine ⟨hplan, hprevious, ?_, by rwa [htokens]⟩
  rw [htokens, hbalance, hbefore, hzero, Nat.cast_zero, add_zero]

/-- Whatever the machine answers, a service spends what it has. -/
theorem serviceFlow_servicedTo {flow : PacedFlow} {tick : Tick} (htokens : 0 ≤ flow.tokens)
    (hclock : flow.previous ≤ tick.now)
    (hwrite : ∀ attempt bytes sent, tick.tryWrite attempt bytes = .ok sent → sent ≤ bytes) :
    ServicedTo flow tick.now (serviceFlow sha256 index flow tick).1
      (serviceFlow sha256 index flow tick).2.1.bytes := by
  have hnonneg : 0 ≤ flow.replenished tick.now :=
    replenishTokens_nonneg _ htokens (by positivity) (sub_nonneg.mpr hclock)
  have hidle {serviced : PacedFlow} (hplan : serviced.plan = flow.plan)
      (hprevious : serviced.previous = tick.now)
      (htokens : serviced.tokens = flow.replenished tick.now) :
      ServicedTo flow tick.now serviced 0 :=
    ⟨hplan, hprevious, by rw [htokens, Nat.cast_zero, add_zero], by rwa [htokens]⟩
  unfold serviceFlow
  simp only [PacedFlow.replenished_eq]
  cases flow.transport with
  | udp socket retry =>
    dsimp only
    split
    · exact .of_paid (sendDatagrams_paid 0 _ hnonneg) rfl rfl rfl rfl rfl
    · exact hidle rfl rfl rfl
  | tcp stream connectTask retry =>
    dsimp only
    split
    · have hpaid := @writeStream_paid flow.plan _ hwrite 0
        { tokens := flow.replenished tick.now, activity := { packets := 0, bytes := 0 }
          reports := (finishConnect sha256 index flow.plan.flowId tick stream connectTask retry).2.2.2 }
        hnonneg
      split
      · exact .of_paid hpaid rfl rfl rfl rfl rfl
      · exact .of_paid hpaid rfl rfl rfl rfl rfl
    · exact hidle rfl rfl rfl

/-- A service asks the machine no more than a full bucket can pay for. -/
theorem serviceFlow_congr {flow : PacedFlow} {tick : Tick} {trySend' : ℕ → SendResult Unit}
    {tryWrite' : ℕ → ℕ → SendResult ℕ}
    (hsend : ∀ k < ⌊flow.plan.burst⌋₊, tick.trySend k = trySend' k)
    (hwrite : ∀ k < ⌊flow.plan.burst⌋₊, tick.tryWrite k = tryWrite' k) :
    serviceFlow sha256 index flow tick =
      serviceFlow sha256 index flow { tick with trySend := trySend', tryWrite := tryWrite' } := by
  have hbound : ⌊flow.replenished tick.now⌋₊ ≤ ⌊flow.plan.burst⌋₊ :=
    Nat.floor_mono (flow.replenished_le_burst tick.now)
  unfold serviceFlow
  simp only [PacedFlow.replenished_eq]
  cases flow.transport with
  | udp socket retry =>
    have hloop (reports : List SenderEvent) := @sendDatagrams_congr index flow.plan _ _
      0 { tokens := flow.replenished tick.now, activity := { packets := 0, bytes := 0 }, reports }
      fun k hk => hsend k (by dsimp only at hk; omega)
    dsimp only
    rw [hloop]
    rfl
  | tcp stream connectTask retry =>
    have hloop (reports : List SenderEvent) := @writeStream_congr flow.plan _ _
      0 { tokens := flow.replenished tick.now, activity := { packets := 0, bytes := 0 }, reports }
      fun k hk => hwrite k (by dsimp only at hk; omega)
    dsimp only
    rw [hloop]
    rfl

/-! ## Runs -/

variable (plan : FlowPlan) {start : ℚ} {ticks : ℕ → Tick}

/-- The flow before a service: its credit is not negative and its clock not ahead. -/
structure Sound (plan : FlowPlan) (now : ℚ) (flow : PacedFlow) : Prop where
  plan_eq : flow.plan = plan
  nonneg : 0 ≤ flow.tokens
  clock : flow.previous ≤ now

/-- Before every service the credit is not negative and the clock not ahead. -/
theorem Serviced.sound (h : Serviced start ticks) (n : ℕ) :
    Sound plan (ticks n).now ((PacedFlow.new plan start).after sha256 index ticks n) := by
  induction n with
  | zero => exact ⟨rfl, le_rfl, h.start_le⟩
  | succ n ih =>
    have hserviced := serviceFlow_servicedTo sha256 index ih.nonneg ih.clock (h.write_le n)
    exact ⟨hserviced.plan_eq.trans ih.plan_eq, hserviced.nonneg,
      hserviced.previous_eq.trans_le (h.clock n)⟩

/-- What a flow sends in a service. -/
def PacedFlow.serviceBytes (flow : PacedFlow) (ticks : ℕ → Tick) (k : ℕ) : ℕ :=
  (serviceFlow sha256 index (flow.after sha256 index ticks k) (ticks k)).2.1.bytes

theorem Serviced.servicedTo (h : Serviced start ticks) (n : ℕ) :
    ServicedTo ((PacedFlow.new plan start).after sha256 index ticks n) (ticks n).now
      ((PacedFlow.new plan start).after sha256 index ticks (n + 1))
      ((PacedFlow.new plan start).serviceBytes sha256 index ticks n) :=
  serviceFlow_servicedTo sha256 index (h.sound sha256 index plan n).nonneg
    (h.sound sha256 index plan n).clock (h.write_le n)

/-- From a service on, the credit that is left and what was sent come from the bucket of that
service and the time since. -/
theorem Serviced.sent_le (h : Serviced start ticks) (m count : ℕ) :
    ((PacedFlow.new plan start).after sha256 index ticks (m + count + 1)).tokens +
        ∑ k ∈ Finset.Icc m (m + count),
          ((PacedFlow.new plan start).serviceBytes sha256 index ticks k : ℚ) ≤
      plan.burst + plan.bandwidthBps.toNat / 8 * ((ticks (m + count)).now - (ticks m).now) := by
  induction count with
  | zero =>
    have hserviced := h.servicedTo sha256 index plan m
    have hburst := PacedFlow.replenished_le_burst
      ((PacedFlow.new plan start).after sha256 index ticks m) (ticks m).now
    rw [(h.sound sha256 index plan m).plan_eq, ← hserviced.balance] at hburst
    simpa using hburst
  | succ count ih =>
    have hserviced := h.servicedTo sha256 index plan (m + count + 1)
    have hcredit := PacedFlow.replenished_le
      ((PacedFlow.new plan start).after sha256 index ticks (m + count + 1))
      (ticks (m + count + 1)).now
    rw [(h.sound sha256 index plan _).plan_eq, ← hserviced.balance,
      (h.servicedTo sha256 index plan (m + count)).previous_eq] at hcredit
    rw [show m + (count + 1) = m + count + 1 from rfl, Finset.sum_Icc_succ_top (by omega)]
    linarith

/-- The credit of a flow never runs out below zero; from one service to another it sends no more
than the bandwidth of the time between, a full bucket and the credit of the gap before the first;
and a service asks for no more sends than a full bucket has bytes. -/
theorem rate_respected (plan : FlowPlan) (h : Serviced start ticks) :
    (∀ n, 0 ≤ ((PacedFlow.new plan start).after sha256 index ticks n).tokens) ∧
    (∀ m n, m ≤ n →
      ∑ k ∈ Finset.Icc m n, ((PacedFlow.new plan start).serviceBytes sha256 index ticks k : ℚ) ≤
        plan.bandwidthBps.toNat / 8 * ((ticks n).now - (ticks m).now) + plan.burst +
          plan.bandwidthBps.toNat / 8 * ((ticks m).now -
            ((PacedFlow.new plan start).after sha256 index ticks m).previous)) ∧
    (∀ n trySend tryWrite,
      (∀ k < ⌊plan.burst⌋₊, (ticks n).trySend k = trySend k ∧ (ticks n).tryWrite k = tryWrite k) →
      serviceFlow sha256 index ((PacedFlow.new plan start).after sha256 index ticks n) (ticks n) =
        serviceFlow sha256 index ((PacedFlow.new plan start).after sha256 index ticks n)
          { ticks n with trySend, tryWrite }) := by
  refine ⟨fun n => (h.sound sha256 index plan n).nonneg, fun m n hmn => ?_, fun n _ _ hsame => ?_⟩
  · obtain ⟨count, rfl⟩ := Nat.exists_eq_add_of_le hmn
    have hsent := h.sent_le sha256 index plan m count
    have hleft := (h.sound sha256 index plan (m + count + 1)).nonneg
    have hgap : 0 ≤ (plan.bandwidthBps.toNat / 8 : ℚ) * ((ticks m).now -
        ((PacedFlow.new plan start).after sha256 index ticks m).previous) :=
      mul_nonneg (by positivity) (sub_nonneg.mpr (h.sound sha256 index plan m).clock)
    linarith
  · have hplan := (h.sound sha256 index plan n).plan_eq
    refine serviceFlow_congr sha256 index (fun k hk => ?_) fun k hk => ?_
    · exact (hsame k (by rwa [hplan] at hk)).1
    · exact (hsame k (by rwa [hplan] at hk)).2

theorem clearTick_serviced : Serviced 0 clearTick where
  start_le := by norm_num [clearTick, trafficSchedulerTick]
  clock n := by
    unfold clearTick trafficSchedulerTick
    push_cast
    linarith
  write_le _ _ _ _ h := by
    cases h
    exact le_rfl

end

theorem udpFlow_rate_respected :
    0 ≤ ((PacedFlow.new (udpFlow 100000 1400).plan 0).after (fun _ => []) 0 clearTick 5).tokens :=
  (rate_respected (fun _ => []) 0 (udpFlow 100000 1400).plan clearTick_serviced).1 5

end NetOpsBench.Traffic
