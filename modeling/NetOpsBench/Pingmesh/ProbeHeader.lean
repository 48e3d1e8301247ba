import NetOpsBench.Data.BigEndian
import NetOpsBench.Pingmesh.ProbeCycle

/-!
# The header of a probe and its echo

A sender writes the header over the first bytes of its payload. The responder reads the header of
each request, writes it anew over the same bytes with the time it took, and sends the buffer back.

`header_codec` has the round trip of the header, the criterion by which a buffer is decoded, and the echo
of the responder over any sequence of requests. `encodeHeader_eq_ok` and `decodeHeader_eq_some_iff` are the
two functions in terms of the bytes of the header.
-/

namespace NetOpsBench.Pingmesh
open BigEndian

/-! ## Encoding -/

/-- `buffer[start..start + bytes.len()].copy_from_slice(bytes)` -/
def copyFromSlice (buffer : List UInt8) (start : Nat) (bytes : List UInt8) : List UInt8 :=
  buffer.take start ++ bytes ++ buffer.drop (start + bytes.length)

/-- The buffer after `encode_header`. -/
def encodeHeader (buffer : List UInt8) (sequence processingNs : Nat) :
    Except String (List UInt8) :=
  if buffer.length < headerSize then
    .error "Pingmesh payload is smaller than the protocol header"
  else
    let buffer := copyFromSlice buffer 0 (toBytes 4 probeMagic)
    let buffer := copyFromSlice buffer 4 (toBytes 1 probeVersion)
    let buffer := copyFromSlice buffer 5 [0]
    let buffer := copyFromSlice buffer 6 [0, 0]
    let buffer := copyFromSlice buffer 8 (toBytes 8 sequence)
    .ok (copyFromSlice buffer 16 (toBytes 8 processingNs))

def rttPayloadBytes : Nat := 64

/-- The payload that `send_probe` sends. -/
def probePayload (kind : ProbeKind) (dfPayloadSize sequence : Nat) : Except String (List UInt8) :=
  let size := match kind with
    | .rtt => rttPayloadBytes
    | .df => dfPayloadSize
  encodeHeader (List.replicate (max size headerSize) 0) sequence 0

/-! ## The responder -/

/-- The fields of the agent's status that the responder sets. -/
structure ResponderStatus where
  ready : Bool
  integrityFailed : Bool
  protocolErrors : Nat
  lastError : Option String
deriving DecidableEq, Repr

/-- `mark_protocol_error` -/
def ResponderStatus.markProtocolError (status : ResponderStatus) (error : String) :
    ResponderStatus :=
  { status with protocolErrors := status.protocolErrors + 1, lastError := some error }

/-- `mark_timestamp_error` -/
def ResponderStatus.markTimestampError (status : ResponderStatus) (error : String) :
    ResponderStatus where
  ready := false
  integrityFailed := true
  protocolErrors := status.protocolErrors + 1
  lastError := some error

inductive EchoError where
  | wouldBlock
  | other (error : String)
deriving DecidableEq, Repr

/-- A datagram that reaches the responder, with the kernel's timestamp, the clock when its header
has been read, and what `send_to` answers to its echo. -/
structure Request where
  datagram : List UInt8
  receivedNs : Option Nat
  now : Nat
  sendTo : Except EchoError Unit

/-- The buffer keeps the bytes of earlier datagrams. -/
structure Responder where
  buffer : List UInt8
  status : ResponderStatus
deriving DecidableEq, Repr

def responderBufferSize : Nat := 65535

namespace Responder

def start (status : ResponderStatus) : Responder where
  buffer := List.replicate responderBufferSize 0
  status

/-- The body of `responder_loop`, with the bytes that it sends. -/
def receive (responder : Responder) (request : Request) :
    Except String (Responder × Option (List UInt8)) :=
  -- what does not fit is cut off
  let datagram := request.datagram.take responder.buffer.length
  let buffer := copyFromSlice responder.buffer 0 datagram
  let bytes := datagram.length
  match request.receivedNs with
  | none =>
    .ok ({ buffer
           status := responder.status.markTimestampError
            "Pingmesh request lacked kernel RX timestamp" }, none)
  | some receivedNs =>
    if bytes < headerSize then
      .ok ({ buffer, status := responder.status.markProtocolError "short Pingmesh request" }, none)
    else
      match decodeHeader (buffer.take bytes) with
      | none =>
        .ok ({ buffer
               status := responder.status.markProtocolError "invalid Pingmesh request header" },
          none)
      | some (sequence, _) => do
        let processingNs := request.now - receivedNs
        let echo ← encodeHeader (buffer.take bytes) sequence processingNs
        let status := match request.sendTo with
          | .ok () | .error .wouldBlock => responder.status
          | .error (.other error) =>
            { responder.status with lastError := some ("Pingmesh echo failed: " ++ error) }
        return ({ buffer := copyFromSlice buffer 0 echo, status }, some echo)

/-- What is sent for each of the requests. -/
def respond (responder : Responder) :
    List Request → Except String (Responder × List (Option (List UInt8)))
  | [] => .ok (responder, [])
  | request :: requests => do
    let (responder, echo) ← responder.receive request
    let (responder, echoes) ← responder.respond requests
    return (responder, echo :: echoes)

end Responder

/-! ## The written buffer -/

/-- The bytes of a header. -/
def headerBytes (sequence processingNs : Nat) : List UInt8 :=
  toBytes 4 probeMagic ++ toBytes 1 probeVersion ++ [0] ++ [0, 0] ++ toBytes 8 sequence ++
    toBytes 8 processingNs

@[simp] theorem length_headerBytes (sequence processingNs : Nat) :
    (headerBytes sequence processingNs).length = headerSize := by
  simp [headerBytes, headerSize]

theorem length_copyFromSlice {buffer bytes : List UInt8} {start : Nat}
    (h : start + bytes.length ≤ buffer.length) :
    (copyFromSlice buffer start bytes).length = buffer.length := by
  simp only [copyFromSlice, List.length_append, List.length_take, List.length_drop]
  omega

theorem copyFromSlice_zero (buffer bytes : List UInt8) :
    copyFromSlice buffer 0 bytes = bytes ++ buffer.drop bytes.length := by
  rw [copyFromSlice, List.take_zero, List.nil_append, Nat.zero_add]

/-- What is written after what was written before is appended to it. -/
theorem copyFromSlice_append {written buffer : List UInt8} {start : Nat} (bytes : List UInt8)
    (hstart : written.length = start) :
    copyFromSlice (written ++ buffer) start bytes =
      written ++ bytes ++ buffer.drop bytes.length := by
  subst hstart
  rw [copyFromSlice, List.take_left, List.drop_append, List.drop_of_length_le (by omega),
    Nat.add_sub_cancel_left, List.nil_append]

/-- The header takes the place of the first bytes. -/
theorem encodeHeader_eq_ok {buffer : List UInt8} (h : headerSize ≤ buffer.length)
    (sequence processingNs : Nat) :
    encodeHeader buffer sequence processingNs =
      .ok (headerBytes sequence processingNs ++ buffer.drop headerSize) := by
  rw [encodeHeader, if_neg (Nat.not_lt.mpr h)]
  dsimp only
  rw [copyFromSlice_zero, copyFromSlice_append _ (length_toBytes 4 _), copyFromSlice_append,
    copyFromSlice_append, copyFromSlice_append, copyFromSlice_append]
  · simp only [List.drop_drop, length_toBytes]
    rfl
  all_goals simp

/-! ## Reading a header -/

section
variable {buffer : List UInt8} {sequence processingNs : Nat}

theorem extract_append_drop {start stop : Nat} (h : start ≤ stop) (buffer : List UInt8) :
    buffer.extract start stop ++ buffer.drop stop = buffer.drop start := by
  have hstop : buffer.drop stop = (buffer.drop start).drop (stop - start) := by
    rw [List.drop_drop, Nat.add_sub_cancel' h]
  rw [List.extract_eq_take_drop, hstop, List.take_append_drop]

/-- A slice holds the bytes of its number. -/
theorem extract_eq_toBytes {start stop width : Nat} (hwidth : start + width = stop)
    (h : stop ≤ buffer.length) :
    buffer.extract start stop = toBytes width (fromBeBytes (buffer.extract start stop)) := by
  have hlength : (buffer.extract start stop).length = width := by
    rw [List.extract_eq_take_drop, List.length_take, List.length_drop]
    omega
  have hbytes := toBytes_ofBytes (buffer.extract start stop)
  rw [hlength] at hbytes
  exact hbytes.symm

theorem fromBeBytes_extract_lt (start : Nat) (buffer : List UInt8) :
    fromBeBytes (buffer.extract start (start + 8)) < 2 ^ 64 := by
  refine (ofBytes_lt _).trans_le ((Nat.pow_le_pow_right (by decide) ?_).trans_eq
    (show 256 ^ 8 = 2 ^ 64 by norm_num))
  rw [List.extract_eq_take_drop, List.length_take]
  omega

/-- A number is read back from where it was written. -/
theorem fromBeBytes_extract {width value start stop : Nat} (hvalue : value < 256 ^ width)
    (written rest : List UInt8) (hbuffer : buffer = written ++ (toBytes width value ++ rest))
    (hstart : written.length = start) (hstop : start + width = stop) :
    fromBeBytes (buffer.extract start stop) = value := by
  subst hstart hstop
  rw [hbuffer, List.extract_eq_take_drop, List.drop_left, Nat.add_sub_cancel_left,
    List.take_left' (length_toBytes ..)]
  exact ofBytes_toBytes_of_lt hvalue

/-- A header is read if and only if it stands at the start of the buffer, whatever its reserved
bytes are. -/
theorem decodeHeader_eq_some_iff :
    decodeHeader buffer = some (sequence, processingNs) ↔
      ∃ reserved rest, reserved.length = 3 ∧ sequence < 2 ^ 64 ∧ processingNs < 2 ^ 64 ∧
        buffer = toBytes 4 probeMagic ++ (toBytes 1 probeVersion ++ (reserved ++
          (toBytes 8 sequence ++ (toBytes 8 processingNs ++ rest)))) := by
  constructor
  · intro h
    rw [decodeHeader] at h
    split at h
    · cases h
    · rename_i hheader
      obtain ⟨hlength, hmagic, hversion⟩ := not_or.mp hheader |>.imp_right not_or.mp
      rw [Nat.not_lt, headerSize] at hlength
      rw [not_not] at hmagic hversion
      cases h
      refine ⟨buffer.extract 5 8, buffer.drop 24, ?_, fromBeBytes_extract_lt 8 buffer,
        fromBeBytes_extract_lt 16 buffer, ?_⟩
      · rw [List.extract_eq_take_drop, List.length_take, List.length_drop]
        omega
      · rw [← hmagic, ← hversion, ← extract_eq_toBytes (by rfl) (by omega),
          ← extract_eq_toBytes (by rfl) (by omega), ← extract_eq_toBytes (by rfl) (by omega),
          ← extract_eq_toBytes (by rfl) (by omega), extract_append_drop (by decide),
          extract_append_drop (by decide), extract_append_drop (by decide),
          extract_append_drop (by decide), extract_append_drop (by decide), List.drop_zero]
  · rintro ⟨reserved, rest, hreserved, hsequence, hprocessing, hbuffer⟩
    have hmagic : fromBeBytes (buffer.extract 0 4) = probeMagic :=
      fromBeBytes_extract (show probeMagic < 256 ^ 4 by decide) [] _ hbuffer rfl rfl
    have hversion : fromBeBytes (buffer.extract 4 5) = probeVersion :=
      fromBeBytes_extract (show probeVersion < 256 ^ 1 by decide) (toBytes 4 probeMagic) _ hbuffer
        (length_toBytes ..) rfl
    have hread : fromBeBytes (buffer.extract 8 16) = sequence :=
      fromBeBytes_extract (show sequence < 256 ^ 8 from hsequence)
        (toBytes 4 probeMagic ++ toBytes 1 probeVersion ++ reserved) (toBytes 8 processingNs ++ rest)
        (by simp only [hbuffer, List.append_assoc]) (by simp [hreserved]) rfl
    have htook : fromBeBytes (buffer.extract 16 24) = processingNs :=
      fromBeBytes_extract (show processingNs < 256 ^ 8 from hprocessing)
        (toBytes 4 probeMagic ++ toBytes 1 probeVersion ++ reserved ++ toBytes 8 sequence) rest
        (by simp only [hbuffer, List.append_assoc]) (by simp [hreserved]) rfl
    have hlength : headerSize ≤ buffer.length := by
      rw [hbuffer, headerSize]
      simp only [List.length_append, length_toBytes, hreserved]
      omega
    rw [decodeHeader, if_neg, hread, htook]
    exact not_or.mpr ⟨Nat.not_lt.mpr hlength, not_or.mpr ⟨not_not.mpr hmagic, not_not.mpr hversion⟩⟩

theorem decodeHeader_headerBytes (sequence processingNs : Nat) (rest : List UInt8) :
    decodeHeader (headerBytes sequence processingNs ++ rest) =
      some (sequence % 2 ^ 64, processingNs % 2 ^ 64) := by
  refine decodeHeader_eq_some_iff.mpr ⟨[0, 0, 0], rest, rfl, Nat.mod_lt _ (by decide),
    Nat.mod_lt _ (by decide), ?_⟩
  rw [show 2 ^ 64 = 256 ^ 8 by norm_num, toBytes_mod, toBytes_mod]
  simp only [headerBytes, List.append_assoc]
  rfl

/-- The magic number is `NOBP`. -/
theorem decodeHeader_isSome_iff :
    (decodeHeader buffer).isSome ↔
      headerSize ≤ buffer.length ∧ buffer.take 4 = [0x4e, 0x4f, 0x42, 0x50] ∧
        buffer[4]? = some 2 := by
  have hmagic : toBytes 4 probeMagic = [0x4e, 0x4f, 0x42, 0x50] := by decide
  have hversion : toBytes 1 probeVersion = [2] := by decide
  rw [Option.isSome_iff_exists]
  constructor
  · rintro ⟨⟨sequence, processingNs⟩, h⟩
    obtain ⟨reserved, rest, hreserved, -, -, rfl⟩ := decodeHeader_eq_some_iff.mp h
    rw [hmagic, hversion]
    refine ⟨?_, rfl, rfl⟩
    simp only [headerSize, List.length_append, length_toBytes, hreserved, List.length_cons,
      List.length_nil]
    omega
  · rintro ⟨hlength, hfirst, hfifth⟩
    have hslice : buffer.extract 4 5 = [2] := by
      obtain ⟨h, hfifth⟩ := List.getElem?_eq_some_iff.mp hfifth
      rw [List.extract_eq_take_drop, List.drop_eq_getElem_cons h, hfifth]
      rfl
    refine ⟨_, if_neg (not_or.mpr ⟨Nat.not_lt.mpr hlength, not_or.mpr ⟨?_, ?_⟩⟩)⟩
    · rw [not_not, List.extract_eq_take_drop, List.drop_zero, hfirst]
      decide
    · rw [not_not, hslice]
      decide

end

/-! ## Echoes -/

/-- The bytes of a request that the responder reads. -/
def Request.packet (request : Request) : List UInt8 := request.datagram.take responderBufferSize

/-- What the responder owes to a request: an echo if the request has a timestamp and a header, of
the same length, with the same sequence number and the same bytes after the header. -/
structure Request.Answered (request : Request) (echo : Option (List UInt8)) : Prop where
  isSome_iff : echo.isSome ↔ request.receivedNs.isSome ∧ (decodeHeader request.packet).isSome
  length_eq : ∀ bytes ∈ echo, bytes.length = request.packet.length
  sequence_eq : ∀ bytes ∈ echo,
    (decodeHeader bytes).map (·.1) = (decodeHeader request.packet).map (·.1)
  drop_eq : ∀ bytes ∈ echo, bytes.drop headerSize = request.packet.drop headerSize

/-- A request without a timestamp or a header gets no echo. -/
theorem Request.Answered.of_none {request : Request}
    (h : request.receivedNs = none ∨ decodeHeader request.packet = none) :
    request.Answered none where
  isSome_iff := by rcases h with h | h <;> simp [h]
  length_eq := nofun
  sequence_eq := nofun
  drop_eq := nofun

theorem headerSize_le_of_decode {header : Nat × Nat} (h : decodeHeader buffer = some header) :
    headerSize ≤ buffer.length :=
  (decodeHeader_isSome_iff.mp (Option.isSome_of_eq_some h)).1

/-- The rewrite of a request that has a header. -/
theorem Request.Answered.of_some {request : Request} {header : Nat × Nat} (processingNs : Nat)
    (hreceived : request.receivedNs.isSome) (h : decodeHeader request.packet = some header) :
    request.Answered
      (some (headerBytes header.1 processingNs ++ request.packet.drop headerSize)) := by
  have hlength := headerSize_le_of_decode h
  have hsequence : header.1 < 2 ^ 64 := by
    obtain ⟨-, -, -, hsequence, -⟩ := decodeHeader_eq_some_iff.mp h
    exact hsequence
  refine ⟨iff_of_true rfl ⟨hreceived, Option.isSome_of_eq_some h⟩, ?_, ?_, ?_⟩
  all_goals
    rintro bytes ⟨⟩
  · rw [List.length_append, length_headerBytes, List.length_drop, Nat.add_sub_cancel' hlength]
  · rw [decodeHeader_headerBytes, h, Option.map_some, Option.map_some, Nat.mod_eq_of_lt hsequence]
  · rw [List.drop_left' (length_headerBytes ..)]

namespace Responder

variable {responder : Responder}

/-- The responder answers any request and keeps its buffer. -/
theorem receive_eq_ok (hbuffer : responder.buffer.length = responderBufferSize)
    (request : Request) :
    ∃ next echo, responder.receive request = .ok (next, echo) ∧
      next.buffer.length = responderBufferSize ∧ request.Answered echo := by
  have hpacket : (request.datagram.take responder.buffer.length) = request.packet := by
    rw [hbuffer, Request.packet]
  have hfits : 0 + request.packet.length ≤ responder.buffer.length := by
    rw [hbuffer, Request.packet, List.length_take]
    omega
  have hread : (copyFromSlice responder.buffer 0 request.packet).take request.packet.length =
      request.packet := by
    rw [copyFromSlice_zero, List.take_left]
  have hkept := length_copyFromSlice hfits
  unfold receive
  rw [hpacket]
  dsimp only
  rw [hread]
  cases hreceived : request.receivedNs with
  | none => exact ⟨_, _, rfl, hkept.trans hbuffer, .of_none (.inl hreceived)⟩
  | some receivedNs =>
    dsimp only
    split
    · rename_i hshort
      exact ⟨_, _, rfl, hkept.trans hbuffer, .of_none (.inr (if_pos (.inl hshort)))⟩
    · cases hheader : decodeHeader request.packet with
      | none => exact ⟨_, _, rfl, hkept.trans hbuffer, .of_none (.inr hheader)⟩
      | some header =>
        have hanswered := Request.Answered.of_some (request.now - receivedNs)
          (Option.isSome_of_eq_some hreceived) hheader
        dsimp only
        rw [encodeHeader_eq_ok (headerSize_le_of_decode hheader)]
        refine ⟨_, _, rfl, ?_, hanswered⟩
        dsimp only
        rw [length_copyFromSlice, hkept, hbuffer]
        rw [Nat.zero_add, hanswered.length_eq _ rfl, hkept]
        exact (Nat.zero_add _).symm.trans_le hfits

/-- Every request gets what it is owed, whatever came before it. -/
theorem respond_eq_ok (hbuffer : responder.buffer.length = responderBufferSize)
    (requests : List Request) :
    ∃ final echoes, responder.respond requests = .ok (final, echoes) ∧
      List.Forall₂ Request.Answered requests echoes := by
  induction requests generalizing responder with
  | nil => exact ⟨responder, [], rfl, .nil⟩
  | cons request requests ih =>
    obtain ⟨next, echo, hreceive, hnext, hanswered⟩ := receive_eq_ok hbuffer request
    obtain ⟨final, echoes, hrespond, hall⟩ := ih hnext
    refine ⟨final, echo :: echoes, ?_, .cons hanswered hall⟩
    simp only [respond, hreceive, hrespond, bind, Except.bind]
    rfl

end Responder

theorem probePayload_eq_ok (kind : ProbeKind) (dfPayloadSize sequence : Nat) :
    ∃ rest, probePayload kind dfPayloadSize sequence = .ok (headerBytes sequence 0 ++ rest) :=
  ⟨_, encodeHeader_eq_ok (by rw [List.length_replicate]; exact le_max_right ..) sequence 0⟩

/-- The responder reads the header of a probe, even if the probe is longer than its buffer. -/
theorem decodeHeader_packet_of_probe {request : Request} {kind : ProbeKind}
    {dfPayloadSize sequence : Nat} (hsequence : sequence < 2 ^ 64)
    (h : probePayload kind dfPayloadSize sequence = .ok request.datagram) :
    decodeHeader request.packet = some (sequence, 0) := by
  obtain ⟨rest, hpayload⟩ := probePayload_eq_ok kind dfPayloadSize sequence
  have hdatagram := Except.ok.inj (h.symm.trans hpayload)
  have hcut : responderBufferSize = (headerBytes sequence 0).length + (65535 - 24) := by
    rw [length_headerBytes]
    rfl
  rw [Request.packet, hdatagram, hcut, List.take_length_add_append, decodeHeader_headerBytes,
    Nat.mod_eq_of_lt hsequence, Nat.zero_mod]

/-- What is written is read back, nothing else is read, and every run of the responder returns to
each probe its own sequence number. -/
theorem header_codec (status : ResponderStatus) (requests : List Request) :
    (∀ buffer sequence processingNs, headerSize ≤ buffer.length → sequence < 2 ^ 64 →
      processingNs < 2 ^ 64 →
      ∃ encoded, encodeHeader buffer sequence processingNs = .ok encoded ∧
        decodeHeader encoded = some (sequence, processingNs) ∧
        encoded.length = buffer.length ∧ encoded.drop headerSize = buffer.drop headerSize) ∧
    (∀ buffer, (decodeHeader buffer).isSome ↔
      headerSize ≤ buffer.length ∧ buffer.take 4 = [0x4e, 0x4f, 0x42, 0x50] ∧
        buffer[4]? = some 2) ∧
    ∃ final echoes, (Responder.start status).respond requests = .ok (final, echoes) ∧
      List.Forall₂ (fun request echo => request.Answered echo ∧
        ∀ kind dfPayloadSize sequence, sequence < 2 ^ 64 →
          probePayload kind dfPayloadSize sequence = .ok request.datagram →
          (echo.isSome ↔ request.receivedNs.isSome) ∧
          ∀ bytes ∈ echo, (decodeHeader bytes).map (·.1) = some sequence) requests echoes := by
  refine ⟨fun buffer sequence processingNs hlength hsequence hprocessing => ?_,
    fun buffer => decodeHeader_isSome_iff, ?_⟩
  · refine ⟨_, encodeHeader_eq_ok hlength .., ?_, ?_, List.drop_left' (length_headerBytes ..)⟩
    · rw [decodeHeader_headerBytes, Nat.mod_eq_of_lt hsequence, Nat.mod_eq_of_lt hprocessing]
    · rw [List.length_append, length_headerBytes, List.length_drop, Nat.add_sub_cancel' hlength]
  · have hstart : (Responder.start status).buffer.length = responderBufferSize :=
      List.length_replicate
    obtain ⟨final, echoes, hrespond, hall⟩ := Responder.respond_eq_ok hstart requests
    refine ⟨final, echoes, hrespond, hall.imp fun request echo hanswered => ⟨hanswered, ?_⟩⟩
    intro kind dfPayloadSize sequence hsequence hsent
    have hheader := decodeHeader_packet_of_probe hsequence hsent
    refine ⟨by rw [hanswered.isSome_iff, hheader]; exact and_iff_left rfl, fun bytes hbytes => ?_⟩
    rw [hanswered.sequence_eq bytes hbytes, hheader, Option.map_some]

theorem shortestBuffer_codec :
    ∃ encoded, encodeHeader (List.replicate headerSize 0) 42 900 = .ok encoded ∧
      decodeHeader encoded = some (42, 900) ∧ encoded.length = headerSize ∧
      encoded.drop headerSize = [] :=
  have hcodec := header_codec
    { ready := true, integrityFailed := false, protocolErrors := 0, lastError := none } []
  hcodec.1 (List.replicate headerSize 0) 42 900 (by decide) (by decide) (by decide)

end NetOpsBench.Pingmesh
