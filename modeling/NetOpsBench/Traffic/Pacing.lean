import NetOpsBench.Traffic.Runtime
import NetOpsBench.Data.Tiling
import NetOpsBench.Data.TokenBucket

/-!
# The pacing of a flow

The sender services its flows every 100 ms. A flow collects credit at its bandwidth, up to a burst
bound, and spends it in whole payloads. Times are in seconds, and credits in bytes. The agent keeps
the credit in an `f64`; here it is an exact rational, so that nothing is lost to rounding.

`pacing_keeps_rate` says when a flow keeps its bandwidth in the long run: when the burst bound cuts only
finitely many credits. Small payloads are never cut for long; where a full bucket goes out in one write,
the bound has to have room for the credit of a tick on top of the largest remainder
(`FlowPlan.HasRoom`). A tick of a connected flow is a tick of a token bucket (`serviceFlow_unblocked`,
`BucketTick`), so the rule is `finitelyCut_iff` of `Data.TokenBucket`. `slow_udpFlow_falls_behind` is a flow
whose bound is too small.
-/

namespace NetOpsBench.Traffic

def trafficSchedulerTick : ℚ := 1 / 10
def maxTcpWriteBytes : ℕ := 64 * 1024
def minReconnect : ℚ := 1 / 2
def maxReconnect : ℚ := 5

/-! ## Flows -/

/-- When a transport that failed may be set up again, and the delay after its next failure. -/
structure Backoff where
  nextRetry : ℚ
  retryDelay : ℚ

inductive ScheduledTransport where
  | udp (socket : Bool) (retry : Backoff)
  | tcp (stream connectTask : Bool) (retry : Backoff)

/-- A scheduled flow with its credit. Whether it is active stands in the runtime. -/
structure PacedFlow where
  plan : FlowPlan
  transport : ScheduledTransport
  tokens : ℚ
  previous : ℚ

/-- The payload that is sent: a plan may leave it empty. -/
def FlowPlan.sentPayload (plan : FlowPlan) : ℕ := max plan.payloadBytes.toNat 1

theorem FlowPlan.sentPayload_pos (plan : FlowPlan) : 0 < plan.sentPayload :=
  Nat.lt_of_lt_of_le Nat.one_pos (le_max_right ..)

def PacedFlow.new (plan : FlowPlan) (now : ℚ) : PacedFlow where
  plan
  transport := match plan.protocol with
    | .udp => .udp false { nextRetry := now, retryDelay := minReconnect }
    | .tcp => .tcp false false { nextRetry := now, retryDelay := minReconnect }
  tokens := 0
  previous := now

def replenishTokens (current bytesPerSecond elapsed : ℚ) (payloadBytes : ℕ) : ℚ :=
  let burst := max (bytesPerSecond * trafficSchedulerTick * (5 / 4)) payloadBytes
  min (current + bytesPerSecond * elapsed) burst

/-- The first two bytes of the digest of a flow's name spread its delays. -/
def reconnectDelayFor (sha256 : String → List UInt8) (flowId : String) (base : ℚ) : ℚ :=
  let digest := sha256 flowId
  let bucket : ℚ := ((digest.getD 0 0).toNat * 256 + (digest.getD 1 0).toNat) / (2 ^ 16 - 1)
  min (base * (9 / 10 + bucket * (1 / 5))) maxReconnect

def Backoff.failed (sha256 : String → List UInt8) (flowId : String) (now : ℚ) (retry : Backoff) :
    Backoff where
  nextRetry := now + reconnectDelayFor sha256 flowId retry.retryDelay
  retryDelay := min (retry.retryDelay * 2) maxReconnect

/-! ## Ticks -/

/-- What a non-blocking send comes to. -/
inductive SendResult (α : Type) where
  | ok (sent : α)
  | wouldBlock
  | error (error : String)

inductive ConnectOutcome where
  | connected
  | failed (error : String)
  | taskFailed (error : String)

/-- What the machine answers to a flow during a tick: the clock, the setup of a UDP socket, the
outcome of the connect task if it has finished, and each send in turn. A datagram goes out whole. -/
structure Tick where
  now : ℚ
  createUdpSender : Except String Unit
  connectTask : Option ConnectOutcome
  trySend : ℕ → SendResult Unit
  tryWrite : ℕ → ℕ → SendResult ℕ

structure SendActivity where
  packets : ℕ
  bytes : ℕ

/-- Where a tick has got to with a flow: its credit, and what it has sent and reported. -/
structure Spending where
  tokens : ℚ
  activity : SendActivity
  reports : List SenderEvent

theorem floor_sub_lt {tokens : ℚ} {payload sent : ℕ} (hpayload : 0 < payload)
    (htokens : payload ≤ tokens) (hsent : 0 < sent) : ⌊tokens - sent⌋₊ < ⌊tokens⌋₊ := by
  have hfloor : payload ≤ ⌊tokens⌋₊ := Nat.le_floor htokens
  rw [Nat.floor_sub_natCast]
  omega

def sendDatagrams (index : ℕ) (plan : FlowPlan) (trySend : ℕ → SendResult Unit) (attempt : ℕ)
    (spending : Spending) : Spending :=
  if plan.sentPayload ≤ spending.tokens then
    match trySend attempt with
    | .ok () =>
      sendDatagrams index plan trySend (attempt + 1)
        { tokens := spending.tokens - plan.sentPayload
          activity :=
            { packets := spending.activity.packets + 1
              bytes := spending.activity.bytes + plan.sentPayload }
          reports := spending.reports ++ [.setFlowActive index true] }
    | .wouldBlock => spending
    | .error error =>
      { spending with
        reports := spending.reports ++
          [.setFlowActive index false, .recordError s!"UDP {plan.flowId} send failed: {error}"] }
  else
    spending
termination_by ⌊spending.tokens⌋₊
decreasing_by
  exact floor_sub_lt plan.sentPayload_pos ‹_› plan.sentPayload_pos

/-- `some` when the stream is lost, with the error that was raised. -/
def writeStream (plan : FlowPlan) (tryWrite : ℕ → ℕ → SendResult ℕ) (attempt : ℕ)
    (spending : Spending) : Spending × Option (Option String) :=
  if plan.sentPayload ≤ spending.tokens then
    let logicalPayloads := ⌊spending.tokens / plan.sentPayload⌋₊
    let writeBytes := min (logicalPayloads * plan.sentPayload) maxTcpWriteBytes
    match tryWrite attempt writeBytes with
    | .ok 0 => (spending, some none)
    | .ok (bytes + 1) =>
      writeStream plan tryWrite (attempt + 1)
        { spending with
          tokens := spending.tokens - (bytes + 1 : ℕ)
          activity :=
            { packets := spending.activity.packets + Tiling.divCeil (bytes + 1) plan.sentPayload
              bytes := spending.activity.bytes + (bytes + 1) } }
    | .wouldBlock => (spending, none)
    | .error error => (spending, some (some error))
  else
    (spending, none)
termination_by ⌊spending.tokens⌋₊
decreasing_by
  exact floor_sub_lt plan.sentPayload_pos ‹_› bytes.succ_pos

/-- Sets a missing socket up, once its delay is over. -/
def setupUdp (sha256 : String → List UInt8) (index : ℕ) (flowId : String) (tick : Tick)
    (socket : Bool) (retry : Backoff) : Bool × Backoff × List SenderEvent :=
  if !socket ∧ retry.nextRetry ≤ tick.now then
    match tick.createUdpSender with
    | .ok () => (true, { retry with retryDelay := minReconnect }, [.setFlowActive index true])
    | .error error =>
      (false, retry.failed sha256 flowId tick.now,
        [.recordError s!"UDP {flowId} setup failed: {error}"])
  else
    (socket, retry, [])

/-- Takes the outcome of a connect task that has finished. -/
def finishConnect (sha256 : String → List UInt8) (index : ℕ) (flowId : String) (tick : Tick)
    (stream connectTask : Bool) (retry : Backoff) : Bool × Bool × Backoff × List SenderEvent :=
  match connectTask, tick.connectTask with
  | true, some .connected =>
    (true, false, { retry with retryDelay := minReconnect }, [.setFlowActive index true])
  | true, some (.failed error) =>
    (stream, false, retry.failed sha256 flowId tick.now,
      [.recordError s!"TCP {flowId} connect failed: {error}", .recordReconnect])
  | true, some (.taskFailed error) =>
    (stream, false, retry.failed sha256 flowId tick.now,
      [.recordError s!"TCP {flowId} connect task failed: {error}", .recordReconnect])
  | _, _ => (stream, connectTask, retry, [])

/-- Starts a connect task where there is neither a stream nor a task, once the delay is over. -/
def startConnect (tick : Tick) (stream connectTask : Bool) (retry : Backoff) : Bool :=
  connectTask || (!stream && retry.nextRetry ≤ tick.now)

/-- The reports of a stream that is lost. -/
def disconnected (index : ℕ) (flowId : String) (error : Option String) : List SenderEvent :=
  .setFlowActive index false ::
    (error.map fun error => .recordError s!"TCP {flowId} send failed: {error}").toList ++
      [.recordReconnect]

/-- What a tick makes of a flow, with what it has sent and what it reports. -/
def serviceFlow (sha256 : String → List UInt8) (index : ℕ) (flow : PacedFlow) (tick : Tick) :
    PacedFlow × SendActivity × List SenderEvent :=
  let tokens := replenishTokens flow.tokens (flow.plan.bandwidthBps.toNat / 8)
    (tick.now - flow.previous) flow.plan.sentPayload
  let flow := { flow with tokens, previous := tick.now }
  let activity : SendActivity := { packets := 0, bytes := 0 }
  match flow.transport with
  | .udp socket retry =>
    let (socket, retry, reports) := setupUdp sha256 index flow.plan.flowId tick socket retry
    let flow := { flow with transport := .udp socket retry }
    if socket then
      let spending := sendDatagrams index flow.plan tick.trySend 0 { tokens, activity, reports }
      ({ flow with tokens := spending.tokens }, spending.activity, spending.reports)
    else
      (flow, activity, reports)
  | .tcp stream connectTask retry =>
    let (stream, connectTask, retry, reports) :=
      finishConnect sha256 index flow.plan.flowId tick stream connectTask retry
    let connectTask := startConnect tick stream connectTask retry
    let flow := { flow with transport := .tcp stream connectTask retry }
    if stream then
      let (spending, disconnect) :=
        writeStream flow.plan tick.tryWrite 0 { tokens, activity, reports }
      let flow := { flow with tokens := spending.tokens }
      match disconnect with
      | none => (flow, spending.activity, spending.reports)
      | some error =>
        let retry := retry.failed sha256 flow.plan.flowId tick.now
        ({ flow with transport := .tcp false connectTask retry }, spending.activity,
          spending.reports ++ disconnected index flow.plan.flowId error)
    else
      (flow, activity, reports)

/-! ## Runs -/

section
variable (sha256 : String → List UInt8) (index : ℕ) (flow : PacedFlow) (ticks : ℕ → Tick)

/-- A flow after its first `n` ticks. -/
def PacedFlow.after : ℕ → PacedFlow
  | 0 => flow
  | n + 1 => (serviceFlow sha256 index (PacedFlow.after n) (ticks n)).1

def PacedFlow.bytesSent (n : ℕ) : ℕ :=
  ∑ k ∈ Finset.range n,
    (serviceFlow sha256 index (flow.after sha256 index ticks k) (ticks k)).2.1.bytes

end

/-- The transport is that of the plan, and it is set up. -/
def PacedFlow.Connected (flow : PacedFlow) : Prop :=
  match flow.plan.protocol, flow.transport with
  | .udp, .udp socket _ => socket
  | .tcp, .tcp stream _ _ => stream
  | _, _ => False

/-- The flow is serviced every 100 ms, and no send blocks or fails. -/
structure Steady (flow : PacedFlow) (ticks : ℕ → Tick) : Prop where
  now_eq : ∀ n : ℕ, (ticks n).now = flow.previous + (n + 1) * trafficSchedulerTick
  trySend_eq : ∀ n attempt, (ticks n).trySend attempt = .ok ()
  tryWrite_eq : ∀ n attempt bytes, (ticks n).tryWrite attempt bytes = .ok bytes

/-! ## The bucket of a flow -/

namespace FlowPlan

/-- What the next send takes of some tokens. -/
def chunk (plan : FlowPlan) (tokens : ℚ) : ℕ :=
  match plan.protocol with
  | .udp => plan.sentPayload
  | .tcp => min (⌊tokens / plan.sentPayload⌋₊ * plan.sentPayload) maxTcpWriteBytes

theorem chunk_pos (plan : FlowPlan) {tokens : ℚ} (h : plan.sentPayload ≤ tokens) :
    0 < plan.chunk tokens := by
  have hpos := plan.sentPayload_pos
  unfold chunk
  cases plan.protocol with
  | udp => exact hpos
  | tcp =>
    have hfloor : 1 ≤ ⌊tokens / plan.sentPayload⌋₊ := by
      refine Nat.le_floor ?_
      rw [Nat.cast_one, one_le_div (by exact_mod_cast hpos)]
      exact h
    exact lt_min (Nat.mul_pos hfloor hpos) (by decide)

/-- What the sends of a tick leave when none of them blocks or fails. -/
def leftover (plan : FlowPlan) (tokens : ℚ) : ℚ :=
  if plan.sentPayload ≤ tokens then leftover plan (tokens - plan.chunk tokens) else tokens
termination_by ⌊tokens⌋₊
decreasing_by
  exact floor_sub_lt plan.sentPayload_pos ‹_› (plan.chunk_pos ‹_›)

/-- The credit of a tick. -/
def tickCredit (plan : FlowPlan) : ℚ := plan.bandwidthBps.toNat / 8 * trafficSchedulerTick

def burst (plan : FlowPlan) : ℚ := max (plan.tickCredit * (5 / 4)) plan.sentPayload

def bucket (plan : FlowPlan) : TokenBucket ℚ where
  credit := plan.tickCredit
  burst := plan.burst
  spend := plan.leftover

theorem chunk_le (plan : FlowPlan) {tokens : ℚ} (h : plan.sentPayload ≤ tokens) :
    (plan.chunk tokens : ℚ) ≤ tokens := by
  unfold chunk
  cases plan.protocol with
  | udp => exact h
  | tcp =>
    have hpos : (0 : ℚ) < plan.sentPayload := by exact_mod_cast plan.sentPayload_pos
    have hfloor := Nat.floor_le (div_nonneg (hpos.le.trans h) hpos.le)
    calc ((min (⌊tokens / plan.sentPayload⌋₊ * plan.sentPayload) maxTcpWriteBytes : ℕ) : ℚ)
        ≤ ⌊tokens / plan.sentPayload⌋₊ * plan.sentPayload := by
          exact_mod_cast min_le_left _ _
      _ ≤ tokens / plan.sentPayload * plan.sentPayload :=
          mul_le_mul_of_nonneg_right hfloor hpos.le
      _ = tokens := div_mul_cancel₀ _ hpos.ne'

theorem leftover_nonneg (plan : FlowPlan) (tokens : ℚ) (h : 0 ≤ tokens) :
    0 ≤ plan.leftover tokens := by
  induction tokens using leftover.induct plan with
  | case1 tokens hpayload ih =>
    rw [leftover, if_pos hpayload]
    exact ih (sub_nonneg.mpr (plan.chunk_le hpayload))
  | case2 tokens hpayload => rwa [leftover, if_neg hpayload]

theorem leftover_le (plan : FlowPlan) (tokens : ℚ) : plan.leftover tokens ≤ tokens := by
  induction tokens using leftover.induct plan with
  | case1 tokens hpayload ih =>
    rw [leftover, if_pos hpayload]
    exact ih.trans (sub_le_self _ (Nat.cast_nonneg _))
  | case2 tokens hpayload => rw [leftover, if_neg hpayload]

theorem leftover_lt (plan : FlowPlan) (tokens : ℚ) : plan.leftover tokens < plan.sentPayload := by
  induction tokens using leftover.induct plan with
  | case1 tokens hpayload ih => rwa [leftover, if_pos hpayload]
  | case2 tokens hpayload =>
    rw [leftover, if_neg hpayload]
    exact lt_of_not_ge hpayload

theorem tickCredit_nonneg (plan : FlowPlan) : 0 ≤ plan.tickCredit := by
  unfold tickCredit trafficSchedulerTick
  positivity

theorem bucket_lawful (plan : FlowPlan) : plan.bucket.Lawful where
  credit_nonneg := plan.tickCredit_nonneg
  burst_nonneg := le_max_of_le_right (Nat.cast_nonneg _)
  spend_nonneg := plan.leftover_nonneg
  spend_le tokens _ := plan.leftover_le tokens

end FlowPlan

/-! ## A tick without obstacles -/

section
variable {sha256 : String → List UInt8} {index : ℕ} {plan : FlowPlan}

/-- What a tick has sent, when it spends its tokens down to the leftover. -/
def Spending.Spent (plan : FlowPlan) (before after : Spending) : Prop :=
  after.tokens = plan.leftover before.tokens ∧
    (after.activity.bytes : ℚ) = before.activity.bytes + (before.tokens - after.tokens)

/-- Datagrams that are all sent spend the tokens down to the leftover. -/
theorem sendDatagrams_spent (hudp : plan.protocol = .udp) {trySend : ℕ → SendResult Unit}
    (hok : ∀ attempt, trySend attempt = .ok ()) (attempt : ℕ) (spending : Spending) :
    spending.Spent plan (sendDatagrams index plan trySend attempt spending) := by
  fun_induction sendDatagrams index plan trySend attempt spending with
  | case1 attempt spending hpayload _ ih =>
    obtain ⟨htokens, hbytes⟩ := ih
    have hchunk : plan.chunk spending.tokens = plan.sentPayload := by rw [FlowPlan.chunk, hudp]
    refine ⟨by rw [htokens, FlowPlan.leftover.eq_def plan spending.tokens, if_pos hpayload, hchunk],
      ?_⟩
    rw [hbytes]
    push_cast
    ring
  | case2 attempt spending _ hblock | case3 attempt spending _ error hblock =>
    rw [hok] at hblock
    cases hblock
  | case4 attempt spending hpayload =>
    exact ⟨by rw [FlowPlan.leftover, if_neg hpayload], by ring⟩

/-- Writes that are all taken spend the tokens down to the leftover. -/
theorem writeStream_spent (htcp : plan.protocol = .tcp) {tryWrite : ℕ → ℕ → SendResult ℕ}
    (hok : ∀ attempt bytes, tryWrite attempt bytes = .ok bytes) (attempt : ℕ) (spending : Spending) :
    spending.Spent plan (writeStream plan tryWrite attempt spending).1 ∧
      (writeStream plan tryWrite attempt spending).2 = none := by
  fun_induction writeStream plan tryWrite attempt spending with
  | case1 attempt spending hpayload logicalPayloads writeBytes hzero =>
    have hchunk : plan.chunk spending.tokens = writeBytes := by rw [FlowPlan.chunk, htcp]
    rw [hok, SendResult.ok.injEq, ← hchunk] at hzero
    exact absurd hzero (plan.chunk_pos hpayload).ne'
  | case2 attempt spending hpayload logicalPayloads writeBytes bytes hbytes ih =>
    have hchunk : plan.chunk spending.tokens = writeBytes := by rw [FlowPlan.chunk, htcp]
    rw [hok, SendResult.ok.injEq, ← hchunk] at hbytes
    obtain ⟨⟨htokens, hsent⟩, hstream⟩ := ih
    refine ⟨⟨?_, ?_⟩, hstream⟩
    · rw [htokens, FlowPlan.leftover.eq_def plan spending.tokens, if_pos hpayload, hbytes]
    · rw [hsent]
      push_cast
      ring
  | case3 attempt spending _ _ _ hblock | case4 attempt spending _ _ _ error hblock =>
    rw [hok] at hblock
    cases hblock
  | case5 attempt spending hpayload =>
    exact ⟨⟨by rw [FlowPlan.leftover, if_neg hpayload], by ring⟩, rfl⟩

/-- A tick of 100 ms of a connected flow, in which no send blocks or fails. -/
structure Unblocked (flow : PacedFlow) (tick : Tick) : Prop where
  connected : flow.Connected
  now_eq : tick.now = flow.previous + trafficSchedulerTick
  trySend_eq : ∀ attempt, tick.trySend attempt = .ok ()
  tryWrite_eq : ∀ attempt bytes, tick.tryWrite attempt bytes = .ok bytes

theorem replenishTokens_eq (plan : FlowPlan) (tokens : ℚ) :
    replenishTokens tokens (plan.bandwidthBps.toNat / 8) trafficSchedulerTick plan.sentPayload =
      plan.bucket.level tokens := rfl

theorem setupUdp_connected (tick : Tick) (flowId : String) (retry : Backoff) :
    setupUdp sha256 index flowId tick true retry = (true, retry, []) := by
  simp [setupUdp]

variable (sha256 index) in
theorem finishConnect_connected (tick : Tick) (flowId : String) (connectTask : Bool)
    (retry : Backoff) :
    (finishConnect sha256 index flowId tick true connectTask retry).1 = true := by
  unfold finishConnect
  split <;> rfl

/-- The tick spends what the bucket of the plan spends. -/
structure BucketTick (flow : PacedFlow) (tick : Tick) (serviced : PacedFlow)
    (activity : SendActivity) : Prop where
  plan_eq : serviced.plan = flow.plan
  previous_eq : serviced.previous = tick.now
  connected : serviced.Connected
  tokens_eq : serviced.tokens = flow.plan.bucket.next flow.tokens
  bytes_eq : (activity.bytes : ℚ) =
    flow.plan.bucket.level flow.tokens - flow.plan.bucket.next flow.tokens

/-- A tick that spends down to the leftover is one of the bucket. -/
theorem BucketTick.of_spent {flow : PacedFlow} {tick : Tick} {serviced : PacedFlow}
    {spending before : Spending} (hbefore : before.tokens = flow.plan.bucket.level flow.tokens)
    (hzero : before.activity.bytes = 0) (hspent : before.Spent flow.plan spending)
    (hplan : serviced.plan = flow.plan) (hprevious : serviced.previous = tick.now)
    (hconnected : serviced.Connected) (htokens : serviced.tokens = spending.tokens) :
    BucketTick flow tick serviced spending.activity := by
  obtain ⟨hleft, hbytes⟩ := hspent
  rw [hbefore] at hleft
  refine ⟨hplan, hprevious, hconnected, htokens.trans hleft, ?_⟩
  rw [hbytes, hzero, hbefore, hleft, Nat.cast_zero, zero_add]
  rfl

variable (sha256 index) in
/-- The service of a connected flow, when nothing blocks, is a tick of the bucket. -/
theorem serviceFlow_unblocked {flow : PacedFlow} {tick : Tick} (h : Unblocked flow tick) :
    BucketTick flow tick (serviceFlow sha256 index flow tick).1
      (serviceFlow sha256 index flow tick).2.1 := by
  obtain ⟨hconnected, hnow, hsend, hwrite⟩ := h
  obtain ⟨plan, transport, tokens, previous⟩ := flow
  have helapsed : tick.now - previous = trafficSchedulerTick := by
    rw [hnow, add_sub_cancel_left]
  unfold PacedFlow.Connected at hconnected
  unfold serviceFlow
  simp only [helapsed, replenishTokens_eq]
  cases hprotocol : plan.protocol <;> cases transport <;> simp only [hprotocol] at hconnected
  case udp.udp socket retry =>
    subst hconnected
    simp only [setupUdp_connected, if_true]
    exact .of_spent rfl rfl (sendDatagrams_spent hprotocol hsend 0 _) rfl rfl
      (by simp [PacedFlow.Connected, hprotocol]) rfl
  case tcp.tcp stream connectTask retry =>
    subst hconnected
    have hstream := finishConnect_connected sha256 index tick plan.flowId
      connectTask retry
    dsimp only
    generalize finishConnect sha256 index plan.flowId tick true connectTask retry = connect
      at hstream
    obtain ⟨stream, connectTask, retry, reports⟩ := connect
    obtain rfl : stream = true := hstream
    obtain ⟨hspent, hkept⟩ := writeStream_spent hprotocol hwrite 0
      { tokens := plan.bucket.level tokens, activity := { packets := 0, bytes := 0 }, reports }
    generalize writeStream plan tick.tryWrite 0 _ = write at hspent hkept
    obtain ⟨spending, disconnect⟩ := write
    obtain rfl : disconnect = none := hkept
    rw [if_pos rfl]
    refine .of_spent rfl rfl hspent rfl rfl ?_ rfl
    simp [PacedFlow.Connected, hprotocol]

end

/-! ## A steady run -/

section
variable {sha256 : String → List UInt8} {index : ℕ} {flow : PacedFlow} {ticks : ℕ → Tick}

variable (sha256 index) in
/-- A steady flow stays connected, and its tokens are those of the bucket. -/
theorem Steady.after (h : Steady flow ticks) (hconnected : flow.Connected) (n : ℕ) :
    (flow.after sha256 index ticks n).plan = flow.plan ∧
      (flow.after sha256 index ticks n).tokens = flow.plan.bucket.left flow.tokens n ∧
      Unblocked (flow.after sha256 index ticks n) (ticks n) := by
  induction n with
  | zero =>
    refine ⟨rfl, rfl, hconnected, ?_, h.trySend_eq 0, h.tryWrite_eq 0⟩
    have hnow := h.now_eq 0
    rwa [Nat.cast_zero, zero_add, one_mul] at hnow
  | succ n ih =>
    obtain ⟨hplan, htokens, hunblocked⟩ := ih
    have hserviced := serviceFlow_unblocked sha256 index hunblocked
    refine ⟨hserviced.plan_eq.trans hplan, ?_, hserviced.connected, ?_, h.trySend_eq _,
      h.tryWrite_eq _⟩
    · rw [PacedFlow.after, hserviced.tokens_eq, hplan, htokens, TokenBucket.left_succ]
    · rw [PacedFlow.after, hserviced.previous_eq, h.now_eq, h.now_eq]
      push_cast
      ring

theorem Steady.bytesSent (h : Steady flow ticks) (hconnected : flow.Connected) (n : ℕ) :
    (flow.bytesSent sha256 index ticks n : ℚ) = flow.plan.bucket.sent flow.tokens n := by
  rw [PacedFlow.bytesSent, TokenBucket.sent, Nat.cast_sum]
  refine Finset.sum_congr rfl fun k _ => ?_
  obtain ⟨hplan, htokens, hunblocked⟩ := h.after sha256 index hconnected k
  rw [(serviceFlow_unblocked sha256 index hunblocked).bytes_eq, hplan, htokens, TokenBucket.left_succ]

end

/-! ## Whole payloads -/

namespace FlowPlan
variable {plan : FlowPlan}

/-- Every send of a tick takes whole payloads: a full bucket goes out in one write. -/
def OneWrite (plan : FlowPlan) : Prop :=
  plan.protocol = .tcp → ⌊plan.burst / plan.sentPayload⌋₊ * plan.sentPayload ≤ maxTcpWriteBytes

/-- The burst bound has room for the credit of a tick on top of the largest leftover. All four are
counted in eightieths of a byte. -/
def HasRoom (plan : FlowPlan) : Prop :=
  4 * (80 * plan.sentPayload + plan.bandwidthBps.toNat) ≤
    max (5 * plan.bandwidthBps.toNat) (320 * plan.sentPayload) +
      4 * Nat.gcd plan.bandwidthBps.toNat (80 * plan.sentPayload)

instance : Decidable plan.HasRoom := inferInstanceAs (Decidable (_ ≤ _))

/-- The burst bound in 320ths of a byte. -/
def burstUnits (plan : FlowPlan) : ℕ :=
  max (5 * plan.bandwidthBps.toNat) (320 * plan.sentPayload)

theorem burst_eq (plan : FlowPlan) : plan.burst = 1 / 320 * (plan.burstUnits : ℕ) := by
  unfold burst burstUnits tickCredit trafficSchedulerTick
  rw [Nat.cast_max, mul_max_of_nonneg _ _ (by norm_num)]
  push_cast
  congr 1 <;> ring

theorem sentPayload_le_units (k : ℕ) :
    (plan.sentPayload : ℚ) ≤ 1 / 320 * k ↔ 320 * plan.sentPayload ≤ k := by
  rw [one_div, inv_mul_eq_div, le_div_iff₀ (by norm_num), mul_comm]
  exact_mod_cast Iff.rfl

theorem floor_units (k : ℕ) :
    ⌊(1 / 320 * k : ℚ) / plan.sentPayload⌋₊ = k / (320 * plan.sentPayload) := by
  rw [← Nat.floor_div_eq_div (K := ℚ)]
  congr 1
  push_cast
  rw [one_div, inv_mul_eq_div, div_div]

/-- Sends that take whole payloads leave the remainder. -/
theorem leftover_of_chunk {k : ℕ} (hchunk : ∀ i ≤ k, 320 * plan.sentPayload ≤ i →
      ∃ payloads, 0 < payloads ∧ plan.chunk (1 / 320 * i) = payloads * plan.sentPayload ∧
        payloads * (320 * plan.sentPayload) ≤ i) :
    plan.leftover (1 / 320 * k) = 1 / 320 * (k % (320 * plan.sentPayload) : ℕ) := by
  induction k using Nat.strongRecOn with
  | ind k ih =>
    rw [leftover]
    split
    case isTrue hle =>
      rw [sentPayload_le_units] at hle
      obtain ⟨payloads, hpos, heq, hfits⟩ := hchunk k le_rfl hle
      have hsmaller : k - payloads * (320 * plan.sentPayload) < k :=
        Nat.sub_lt (Nat.lt_of_lt_of_le (Nat.mul_pos (by decide) plan.sentPayload_pos) hle)
          (Nat.mul_pos hpos (Nat.mul_pos (by decide) plan.sentPayload_pos))
      have hsub : (1 / 320 * k - (payloads * plan.sentPayload : ℕ) : ℚ) =
          1 / 320 * (k - payloads * (320 * plan.sentPayload) : ℕ) := by
        push_cast [hfits]
        ring
      rw [heq, hsub, ih _ hsmaller fun i hi => hchunk i (hi.trans hsmaller.le)]
      rw [Nat.mul_comm payloads, Nat.sub_mul_mod (by rwa [Nat.mul_comm])]
    case isFalse hlt =>
      rw [sentPayload_le_units] at hlt
      rw [Nat.mod_eq_of_lt (Nat.lt_of_not_le hlt)]

theorem leftover_units (h : plan.OneWrite) (k : ℕ) (hk : k ≤ plan.burstUnits) :
    plan.leftover (1 / 320 * k) = 1 / 320 * (k % (320 * plan.sentPayload) : ℕ) := by
  refine leftover_of_chunk fun i hi hle => ?_
  unfold chunk
  cases hprotocol : plan.protocol with
  | udp => exact ⟨1, Nat.one_pos, (Nat.one_mul _).symm, by rwa [Nat.one_mul]⟩
  | tcp =>
    have hpos : 0 < 320 * plan.sentPayload := Nat.mul_pos (by decide) plan.sentPayload_pos
    have hburst := h hprotocol
    rw [burst_eq, floor_units] at hburst
    have hwrite : i / (320 * plan.sentPayload) * plan.sentPayload ≤ maxTcpWriteBytes :=
      (Nat.mul_le_mul_right _ (Nat.div_le_div_right (hi.trans hk))).trans hburst
    refine ⟨i / (320 * plan.sentPayload), Nat.div_pos hle hpos, ?_, Nat.div_mul_le_self ..⟩
    rw [floor_units]
    exact min_eq_left hwrite

theorem wholePayloads (h : plan.OneWrite) :
    plan.bucket.WholePayloads (1 / 320) (4 * plan.bandwidthBps.toNat) plan.burstUnits
      (320 * plan.sentPayload) where
  unit_pos := by norm_num
  credit_eq := by
    simp only [bucket, tickCredit, trafficSchedulerTick]
    push_cast
    ring
  burst_eq := plan.burst_eq
  payload_pos := Nat.mul_pos (by decide) plan.sentPayload_pos
  payload_le := le_max_right ..
  spend_eq := leftover_units h

/-- When every send takes whole payloads, the bound decides. -/
theorem finitelyCut_iff (h : plan.OneWrite) : plan.bucket.FinitelyCut 0 ↔ plan.HasRoom := by
  rw [(wholePayloads h).finitelyCut_iff]
  have hgcd : Nat.gcd (4 * plan.bandwidthBps.toNat) (320 * plan.sentPayload) =
      4 * Nat.gcd plan.bandwidthBps.toNat (80 * plan.sentPayload) := by
    rw [← Nat.gcd_mul_left]
    congr 1
    ring
  rw [hgcd, HasRoom, burstUnits]
  have hsum : 320 * plan.sentPayload + 4 * plan.bandwidthBps.toNat =
    4 * (80 * plan.sentPayload + plan.bandwidthBps.toNat) := by ring
  rw [hsum]

end FlowPlan

/-! ## The configured rate -/

section
variable (sha256 : String → List UInt8) (index : ℕ) (flow : PacedFlow) (ticks : ℕ → Tick)

/-- What is sent falls behind the bandwidth by no more than a constant. -/
def KeepsRate : Prop :=
  ∃ slack : ℚ, ∀ n : ℕ, n * (flow.plan.bandwidthBps.toNat / 8 * (1 / 10)) - slack ≤
    flow.bytesSent sha256 index ticks n

variable {flow ticks}

/-- A steady flow keeps its rate when its bucket is cut finitely often. -/
theorem keepsRate_iff (hconnected : flow.Connected) (hsteady : Steady flow ticks)
    (htokens : 0 ≤ flow.tokens) :
    KeepsRate sha256 index flow ticks ↔ flow.plan.bucket.FinitelyCut flow.tokens := by
  rw [← TokenBucket.keepsUp_iff flow.plan.bucket_lawful htokens]
  refine exists_congr fun slack => forall_congr' fun n => ?_
  rw [hsteady.bytesSent hconnected]
  rfl

theorem finitelyCut_of_small {plan : FlowPlan} {tokens : ℚ}
    (hsmall : 4 * (80 * plan.sentPayload) ≤ plan.bandwidthBps.toNat) :
    plan.bucket.FinitelyCut tokens := by
  refine ⟨1, fun n hn => ?_⟩
  obtain ⟨n, rfl⟩ := Nat.exists_eq_add_of_le' hn
  have hleft : plan.bucket.left tokens (n + 1) < plan.sentPayload := by
    rw [TokenBucket.left_succ]
    exact plan.leftover_lt _
  have hcast : (4 * (80 * plan.sentPayload) : ℚ) ≤ plan.bandwidthBps.toNat := by
    exact_mod_cast hsmall
  have hquarter : (plan.sentPayload : ℚ) ≤ plan.tickCredit * (1 / 4) := by
    unfold FlowPlan.tickCredit trafficSchedulerTick
    linarith
  calc plan.bucket.left tokens (n + 1) + plan.tickCredit
      ≤ plan.tickCredit * (1 / 4) + plan.tickCredit := by linarith
    _ = plan.tickCredit * (5 / 4) := by ring
    _ ≤ plan.burst := le_max_left ..

/-- A steady flow keeps its rate if and only if the burst bound cuts the credits of finitely many
ticks only. Payloads of at most a quarter of the credit of a tick are never cut for long; a flow
that starts without credit, and sends a full bucket in one write, keeps its rate exactly when the
bound has room for the largest leftover. -/
theorem pacing_keeps_rate (hconnected : flow.Connected) (hsteady : Steady flow ticks)
    (htokens : 0 ≤ flow.tokens) :
    (KeepsRate sha256 index flow ticks ↔ ∃ m, ∀ n, m ≤ n →
      (flow.after sha256 index ticks n).tokens + flow.plan.tickCredit ≤ flow.plan.burst) ∧
    (4 * (80 * flow.plan.sentPayload) ≤ flow.plan.bandwidthBps.toNat →
      KeepsRate sha256 index flow ticks) ∧
    (flow.tokens = 0 → flow.plan.OneWrite →
      (KeepsRate sha256 index flow ticks ↔ flow.plan.HasRoom)) := by
  rw [keepsRate_iff sha256 index hconnected hsteady htokens]
  refine ⟨?_, finitelyCut_of_small, fun hzero hwrite => ?_⟩
  · refine exists_congr fun m => forall_congr' fun n => imp_congr_right fun _ => ?_
    obtain ⟨-, hleft, -⟩ := hsteady.after sha256 index hconnected n
    rw [hleft]
    rfl
  · rw [hzero, FlowPlan.finitelyCut_iff hwrite]

end

/-! ### A flow of 100 kbit/s -/

/-- A connected UDP flow that has not been serviced yet. -/
def udpFlow (bandwidthBps payloadBytes : UInt64) : PacedFlow where
  plan :=
    { flowId := "flow-1", protocol := .udp, dstIp := .ofOctets 10 0 0 2, dstPort := 5201
      bandwidthBps, payloadBytes, tcpMss := 0 }
  transport := .udp true { nextRetry := 0, retryDelay := minReconnect }
  tokens := 0
  previous := 0

def clearTick (n : ℕ) : Tick where
  now := (n + 1) * trafficSchedulerTick
  createUdpSender := .ok ()
  connectTask := none
  trySend _ := .ok ()
  tryWrite _ bytes := .ok bytes

theorem steady_udpFlow (bandwidthBps payloadBytes : UInt64) :
    Steady (udpFlow bandwidthBps payloadBytes) clearTick where
  now_eq _ := (zero_add _).symm
  trySend_eq _ _ := rfl
  tryWrite_eq _ _ _ := rfl

theorem connected_udpFlow (bandwidthBps payloadBytes : UInt64) :
    (udpFlow bandwidthBps payloadBytes).Connected := rfl

theorem oneWrite_udpFlow (bandwidthBps payloadBytes : UInt64) :
    (udpFlow bandwidthBps payloadBytes).plan.OneWrite := fun htcp => nomatch htcp

theorem udpFlow_keeps_rate : KeepsRate (fun _ => []) 0 (udpFlow 1000000 1400) clearTick := by
  have hrate := pacing_keeps_rate (fun _ => []) 0 (connected_udpFlow 1000000 1400)
    (steady_udpFlow 1000000 1400) le_rfl
  exact (hrate.2.2 rfl (oneWrite_udpFlow _ _)).mpr (by decide)

/-- Each tick credits 1250 bytes, and each send takes 1400: the bound of 1562.5 bytes cuts some of
the credit again and again. -/
theorem slow_udpFlow_falls_behind :
    ¬ KeepsRate (fun _ => []) 0 (udpFlow 100000 1400) clearTick := by
  rw [keepsRate_iff (fun _ => []) 0 (connected_udpFlow _ _) (steady_udpFlow _ _) le_rfl]
  change ¬ (udpFlow 100000 1400).plan.bucket.FinitelyCut 0
  rw [FlowPlan.finitelyCut_iff (oneWrite_udpFlow _ _)]
  decide

end NetOpsBench.Traffic
