import NetOpsBench.Data.Dict
import NetOpsBench.Data.Fallible
import NetOpsBench.Pingmesh.Rows

/-!
# One cycle of probes

The probes of a cycle are sent, and the replies are matched with them by their sequence numbers.
What the kernel answers to each `send_to`, which datagrams each read finds, how many turns the
waiting loop has before the deadline and the order of a map are the `Network`. Round-trip times are
not modelled.

`Network.runCycle` is the cycle: RTT probes first, then DF probes for the targets that did not answer to
one, with the replies drained in between and until the deadline.
-/

namespace NetOpsBench.Pingmesh

/-- The `raw_os_error` of a failed `send_to`. -/
inductive Errno where
  | emsgsize
  | eagain
  | enobufs
  | eperm
  | eacces
  | enetunreach
  | ehostunreach
  | econnrefused
  | eaddrnotavail
  | other (code : Nat)
deriving DecidableEq, Repr

def isTransientLocalSendError : Errno → Bool
  | .eagain | .enobufs => true
  | _ => false

def isPathSendError : Errno → Bool
  | .eperm | .eacces | .enetunreach | .ehostunreach | .econnrefused | .eaddrnotavail => true
  | _ => false

inductive CycleError where
  | drainStaleReply
  | sendProbe (errno : Errno)
  | receiveReply
deriving DecidableEq, Repr

/-- A probe that waits for its reply. -/
structure Pending where
  kind : ProbeKind
  targetIndex : Nat
  socketIndex : Nat
deriving DecidableEq, Repr

/-- The probe that an entry of the send queue asks for. -/
def Pending.ofEntry : ProbeKind × Nat × Nat → Pending
  | (kind, targetIndex, socketIndex) => { kind, targetIndex, socketIndex }

structure ReceivedPacket where
  bytes : List UInt8
  receivedNs : Option Nat
deriving DecidableEq, Repr

/-! ## The header -/

def headerSize : Nat := 24

def probeMagic : Nat := 0x4e4f4250

def probeVersion : Nat := 2

/-- `from_be_bytes` -/
def fromBeBytes (bytes : List UInt8) : Nat :=
  bytes.foldl (fun value byte => value * 256 + byte.toNat) 0

/-- The sequence number, and the time that the responder took. -/
def decodeHeader (buffer : List UInt8) : Option (Nat × Nat) :=
  if buffer.length < headerSize ∨ fromBeBytes (buffer.extract 0 4) ≠ probeMagic ∨
      fromBeBytes (buffer.extract 4 5) ≠ probeVersion then
    none
  else
    some (fromBeBytes (buffer.extract 8 16), fromBeBytes (buffer.extract 16 24))

/-! ## The state of a cycle -/

/-- What has happened in a cycle: an attempt to send a probe, or a datagram that was read. -/
inductive Event where
  | attempted (sequence : Nat) (probe : Pending) (outcome : Except Errno Unit)
  | received (packet : ReceivedPacket)

/-- The statistics of a probe kind and a target stand for `rtt_stats` and `df_stats`. The history is
not read by the code. -/
structure CycleState where
  sequence : Nat
  pending : Dict Nat Pending
  stats : ProbeKind → Nat → ProbeStats
  history : List Event

namespace CycleState

/-- The default of `ProbeStats` for every target. -/
def start (sequence : Nat) : CycleState where
  sequence
  pending := ∅
  stats _ _ := { sent := 0, received := 0, mtuDrops := 0, invalidSent := 0, localErrors := 0 }
  history := []

def updateStats (state : CycleState) (probe : Pending) (update : ProbeStats → ProbeStats) :
    ProbeKind → Nat → ProbeStats := fun kind targetIndex =>
  if kind = probe.kind ∧ targetIndex = probe.targetIndex then update (state.stats kind targetIndex)
  else state.stats kind targetIndex

/-- `send_probe` -/
def sendProbe (state : CycleState) (probe : Pending) (outcome : Except Errno Unit) :
    Except CycleError CycleState :=
  let attempted (pending : Dict Nat Pending) (update : ProbeStats → ProbeStats) : CycleState :=
    { sequence := (state.sequence + 1) % 2 ^ 64
      pending
      stats := state.updateStats probe update
      history := state.history ++ [.attempted state.sequence probe outcome] }
  match outcome with
  | .ok () =>
    .ok (attempted (state.pending.insert state.sequence probe)
      fun stats => { stats with sent := stats.sent + 1 })
  | .error errno =>
    if errno = .emsgsize then
      .ok (attempted state.pending fun stats =>
        { stats with
          sent := stats.sent + 1
          mtuDrops := stats.mtuDrops + 1
          invalidSent := stats.invalidSent + 1
          localErrors := stats.localErrors + 1 })
    else if isTransientLocalSendError errno then
      .ok (attempted state.pending fun stats => { stats with localErrors := stats.localErrors + 1 })
    else if isPathSendError errno then
      .ok (attempted state.pending fun stats => { stats with sent := stats.sent + 1 })
    else .error (.sendProbe errno)

/-- The body of the loop of `drain_replies`. -/
def receive (state : CycleState) (packet : ReceivedPacket) : CycleState :=
  let history := state.history ++ [.received packet]
  match decodeHeader packet.bytes with
  | none => { state with history }
  | some (sequence, _) =>
    match state.pending.lookup sequence with
    | none => { state with history }
    | some item =>
      let pending := state.pending.erase sequence
      match packet.receivedNs with
      | none =>
        { state with
          pending, history
          stats := state.updateStats item fun stats =>
            { stats with
              invalidSent := stats.invalidSent + 1
              localErrors := stats.localErrors + 1 } }
      | some _ =>
        { state with
          pending, history
          stats := state.updateStats item fun stats =>
            { stats with received := stats.received + 1 } }

end CycleState

/-! ## The cycle -/

/-- What the sockets hold when they are drained, and whether reading fails after that. -/
structure Drain where
  packets : List ReceivedPacket
  failed : Bool
deriving DecidableEq, Repr

/-- What a cycle does not decide itself: whether the drain of stale replies fails, the outcome of
`send_to` for the probe with a sequence number, the datagrams of each drain, one for each turn of
the waiting loop before the deadline, and the order of a map. -/
structure Network where
  staleFailed : Bool
  sendTo : Nat → Except Errno Unit
  afterSends : Drain
  afterPause : Drain
  waiting : List Drain
  atEnd : Drain
  order : (values : List Pending) → { ordered : List Pending // ordered.Perm values }

def drainReplies (state : CycleState) (drain : Drain) : Except CycleError CycleState :=
  if drain.failed then .error .receiveReply else .ok (drain.packets.foldl CycleState.receive state)

/-- The loop until the deadline: each turn it has left is a drain. -/
def awaitReplies (state : CycleState) : List Drain → Except CycleError CycleState
  | [] => .ok state
  | drain :: drains =>
    if state.pending.entries = [] then .ok state
    else do
      let state ← drainReplies state drain
      awaitReplies state drains

namespace Network

variable (network : Network)

def sendProbes (state : CycleState) (probes : List Pending) : Except CycleError CycleState :=
  probes.foldlM (fun state probe => state.sendProbe probe (network.sendTo state.sequence)) state

def unansweredDfTargets (pending : Dict Nat Pending) : List Pending :=
  (network.order (pending.entries.map (·.2))).1.filter (·.kind = .df)

def dfConfirmationProbes : Nat := 15

/-- `run_probe_cycle`, up to the state that its results are built from. -/
def runCycle (targetCount socketCount schedulePhase sequence : Nat) :
    Except CycleError CycleState := do
  Except.ensure (network.staleFailed = false) .drainStaleReply
  let sendQueue := rotateProbeSchedule (buildProbeSchedule targetCount socketCount) schedulePhase
  let state ← network.sendProbes (.start sequence) (sendQueue.map .ofEntry)
  let state ← drainReplies state network.afterSends
  let state ← drainReplies state network.afterPause
  let unansweredDf := network.unansweredDfTargets state.pending
  let state ← network.sendProbes state
    (unansweredDf.flatMap fun probe => List.replicate dfConfirmationProbes probe)
  let state ← awaitReplies state network.waiting
  drainReplies state network.atEnd

end Network

def CycleState.results (state : CycleState) (targetCount socketCount : Nat) : List ProbeResult :=
  (List.range targetCount).map fun index =>
    buildResult (state.stats .rtt index) (state.stats .df index) socketCount

end NetOpsBench.Pingmesh
