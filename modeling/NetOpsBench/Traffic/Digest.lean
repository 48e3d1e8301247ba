import NetOpsBench.Data.JsonText
import NetOpsBench.Traffic.Invariant

/-!
# The digest of a plan

The controller builds a plan as a dictionary and hashes the text that `json.dumps` makes of it. The
agent decodes the dictionary from the request, and hashes the canonical text of what it decoded.

`plan_digest_agrees` says that the two digests are of one text, for every plan whose numbers fit the
fields of the agent (`PlanDict.Valid`), and that plans that differ have different texts
(`PlanDict.Valid.dumps_inj`). The decoders are inverse to the encoders: `ClientTrafficPlan.decode_canonical`.
-/

namespace NetOpsBench.Traffic

/-! ## Plans of the controller -/

structure ListenerEntry where
  protocol : String
  port : Int
deriving DecidableEq

def ListenerEntry.toDict (listener : ListenerEntry) : Json :=
  .obj [("protocol", .str listener.protocol), ("port", .int listener.port)]

structure FlowEntry where
  flowId : String
  protocol : String
  dstIp : String
  dstPort : Int
  bandwidthBps : Int
  payloadBytes : Int
  tcpMss : Int
deriving DecidableEq

def FlowEntry.toDict (flow : FlowEntry) : Json :=
  .obj [("flow_id", .str flow.flowId), ("protocol", .str flow.protocol), ("dst_ip", .str flow.dstIp),
    ("dst_port", .int flow.dstPort), ("bandwidth_bps", .int flow.bandwidthBps),
    ("payload_bytes", .int flow.payloadBytes), ("tcp_mss", .int flow.tcpMss)]

structure PlanDict where
  listeners : List ListenerEntry
  flows : List FlowEntry
deriving DecidableEq

def PlanDict.toDict (plan : PlanDict) : Json :=
  .obj [("listeners", .arr (plan.listeners.map (·.toDict))),
    ("flows", .arr (plan.flows.map (·.toDict)))]

namespace Controller

/-- `_plan_digest` -/
def planDigest (sha256 : String → List UInt8) (plan : PlanDict) : String :=
  hex (sha256 plan.toDict.dumps)

def loadPayload (sha256 : String → List UInt8) (generation : Int) (plan : PlanDict) : Json :=
  .obj [("generation", .int generation), ("plan_digest", .str (planDigest sha256 plan)),
    ("plan", plan.toDict)]

/-- The line that `request_agent` sends. -/
def requestDict (operation : String) (payload : Json) : Json :=
  .obj [("protocol_version", .int 1), ("op", .str operation), ("payload", payload)]

def requestLine (operation : String) (payload : Json) : String :=
  (requestDict operation payload).dumps ++ "\n"

end Controller

/-! ## Decoding -/

/-- The fields of an object that has no others. -/
def fieldsOf (names : List String) : Json → Option (String → Option Json)
  | .obj entries =>
    if ∀ entry ∈ entries, entry.1 ∈ names then some (entries.lookup ·) else none
  | _ => none

def decodeString : Json → Option String
  | .str value => some value
  | _ => none

def decodeList {α : Type} (decode : Json → Option α) : Json → Option (List α)
  | .arr items => items.mapM decode
  | _ => none

/-- An unsigned number below a bound. -/
def decodeUnsigned (bound : Nat) : Json → Option Nat
  | .int value => if 0 ≤ value ∧ value < bound then some value.toNat else none
  | _ => none

def decodeU16 (value : Json) : Option UInt16 := (decodeUnsigned (2 ^ 16) value).map .ofNat
def decodeU32 (value : Json) : Option UInt32 := (decodeUnsigned (2 ^ 32) value).map .ofNat
def decodeU64 (value : Json) : Option UInt64 := (decodeUnsigned (2 ^ 64) value).map .ofNat

def Transport.decode : Json → Option Transport
  | .str "tcp" => some .tcp
  | .str "udp" => some .udp
  | _ => none

def ListenerPlan.decode (value : Json) : Option ListenerPlan := do
  let field ← fieldsOf ["protocol", "port"] value
  some
    { protocol := ← (field "protocol").bind Transport.decode
      port := ← (field "port").bind decodeU16 }

def FlowPlan.decode (value : Json) : Option FlowPlan := do
  let field ← fieldsOf ["flow_id", "protocol", "dst_ip", "dst_port", "bandwidth_bps",
    "payload_bytes", "tcp_mss"] value
  some
    { flowId := ← (field "flow_id").bind decodeString
      protocol := ← (field "protocol").bind Transport.decode
      dstIp := ← ((field "dst_ip").bind decodeString).bind Ipv4.Addr.parse
      dstPort := ← (field "dst_port").bind decodeU16
      bandwidthBps := ← (field "bandwidth_bps").bind decodeU64
      payloadBytes := ← (field "payload_bytes").bind decodeU64
      tcpMss := ← (field "tcp_mss").bind decodeU32 }

def ClientTrafficPlan.decode (value : Json) : Option ClientTrafficPlan := do
  let field ← fieldsOf ["listeners", "flows"] value
  some
    { listeners := ← (field "listeners").bind (decodeList ListenerPlan.decode)
      flows := ← (field "flows").bind (decodeList FlowPlan.decode) }

def LoadPayload.decode (value : Json) : Option LoadPayload := do
  let field ← fieldsOf ["generation", "plan_digest", "plan"] value
  some
    { generation := ← (field "generation").bind decodeU64
      planDigest := ← (field "plan_digest").bind decodeString
      plan := ← (field "plan").bind ClientTrafficPlan.decode }

def GenerationPayload.decode (value : Json) : Option GenerationPayload := do
  let field ← fieldsOf ["generation", "plan_digest"] value
  some
    { generation := ← (field "generation").bind decodeU64
      planDigest := ← (field "plan_digest").bind decodeString }

structure RequestEnvelope where
  protocolVersion : UInt32
  op : String
  payload : Json

/-- Other fields of the envelope are ignored, and a missing payload is null. -/
def RequestEnvelope.decode : Json → Option RequestEnvelope
  | .obj entries => do
    some
      { protocolVersion := ← (entries.lookup "protocol_version").bind decodeU32
        op := ← (entries.lookup "op").bind decodeString
        payload := (entries.lookup "payload").getD .null }
  | _ => none

def maxControlRequestBytes : Nat := 65536

/-- `fromSlice` is the JSON parser of the agent. -/
def decodeRequest (fromSlice : String → Option Json) (encoded : String) :
    Except String RequestEnvelope :=
  if encoded.utf8ByteSize > maxControlRequestBytes then
    .error "control request exceeds 65536 bytes"
  else if encoded.toList.getLast? ≠ some '\n' then
    .error "control request is missing newline terminator"
  else
    match (fromSlice encoded).bind RequestEnvelope.decode with
    | some request => .ok request
    | none => .error "decode control request"

/-- The request of an envelope; `describe` is the parser's error for a payload. -/
def Request.ofEnvelope (describe : Json → String) (request : RequestEnvelope) : Request :=
  if request.op = "load_plan" then
    .loadPlan ((LoadPayload.decode request.payload).elim (.error (describe request.payload)) .ok)
  else if request.op = "enable" then
    .enable ((GenerationPayload.decode request.payload).elim (.error (describe request.payload)) .ok)
  else if request.op = "disable" then
    .disable
      ((GenerationPayload.decode request.payload).elim (.error (describe request.payload)) .ok)
  else if request.op = "reset" then .reset
  else if request.op = "status" then .status
  else .other request.op

/-! ## The canonical values -/

theorem Transport.canonical_toJson (protocol : Transport) :
    protocol.toJson.canonical = protocol.toJson := by
  cases protocol <;> rfl

theorem ListenerPlan.canonical_toJson (listener : ListenerPlan) : listener.toJson.canonical =
    .obj [("port", .int listener.port.toNat), ("protocol", listener.protocol.toJson)] := by
  simp [ListenerPlan.toJson, Json.canonical, Json.canonicalEntries_eq, Transport.canonical_toJson]

theorem FlowPlan.canonical_toJson (flow : FlowPlan) : flow.toJson.canonical =
    .obj [("bandwidth_bps", .int flow.bandwidthBps.toNat), ("dst_ip", .str (toString flow.dstIp)),
      ("dst_port", .int flow.dstPort.toNat), ("flow_id", .str flow.flowId),
      ("payload_bytes", .int flow.payloadBytes.toNat), ("protocol", flow.protocol.toJson),
      ("tcp_mss", .int flow.tcpMss.toNat)] := by
  simp [FlowPlan.toJson, Json.canonical, Json.canonicalEntries_eq, Transport.canonical_toJson]

theorem ClientTrafficPlan.canonical_toJson (plan : ClientTrafficPlan) : plan.toJson.canonical =
    .obj [("flows", .arr (plan.flows.map (·.toJson.canonical))),
      ("listeners", .arr (plan.listeners.map (·.toJson.canonical)))] := by
  simp [ClientTrafficPlan.toJson, Json.canonical, Json.canonicalEntries_eq, Json.canonicalItems_eq,
    Function.comp_def]

/-! ## Decoding undoes encoding -/

theorem Transport.decode_toJson (protocol : Transport) :
    Transport.decode protocol.toJson = some protocol := by
  cases protocol <;> rfl

theorem decodeUnsigned_natCast {bound n : Nat} (h : n < bound) :
    decodeUnsigned bound (.int n) = some n := by
  rw [decodeUnsigned, if_pos ⟨Int.natCast_nonneg n, Int.ofNat_lt.mpr h⟩, Int.toNat_natCast]

theorem decodeU16_toNat (value : UInt16) : decodeU16 (.int value.toNat) = some value := by
  rw [decodeU16, decodeUnsigned_natCast value.toNat_lt, Option.map_some, UInt16.ofNat_toNat]

theorem decodeU32_toNat (value : UInt32) : decodeU32 (.int value.toNat) = some value := by
  rw [decodeU32, decodeUnsigned_natCast value.toNat_lt, Option.map_some, UInt32.ofNat_toNat]

theorem decodeU64_toNat (value : UInt64) : decodeU64 (.int value.toNat) = some value := by
  rw [decodeU64, decodeUnsigned_natCast value.toNat_lt, Option.map_some, UInt64.ofNat_toNat]

theorem decodeList_map {α : Type} {decode : Json → Option α} {encode : α → Json}
    (h : ∀ item, decode (encode item) = some item) (items : List α) :
    decodeList decode (.arr (items.map encode)) = some items := by
  show (items.map encode).mapM decode = some items
  induction items with
  | nil => rfl
  | cons item items ih => rw [List.map_cons, List.mapM_cons, h, ih]; rfl

/-- Reading a field of some entries. -/
theorem lookup_bind {α : Type} {entries : List (String × Json)} {key : String} (value : Json)
    {decode : Json → Option α} {item : α} (hlookup : entries.lookup key = some value)
    (hdecode : decode value = some item) : (entries.lookup key).bind decode = some item := by
  rw [hlookup, Option.bind_some, hdecode]

theorem ListenerPlan.decode_canonical (listener : ListenerPlan) :
    ListenerPlan.decode listener.toJson.canonical = some listener := by
  rw [ListenerPlan.canonical_toJson]
  generalize hentries : [("port", Json.int listener.port.toNat),
    ("protocol", listener.protocol.toJson)] = entries
  have hfields : fieldsOf ["protocol", "port"] (.obj entries) = some (entries.lookup ·) := by
    simp [fieldsOf, ← hentries]
  have hprotocol : (entries.lookup "protocol").bind Transport.decode = some listener.protocol :=
    lookup_bind _ (by simp [← hentries, List.lookup]) listener.protocol.decode_toJson
  have hport : (entries.lookup "port").bind decodeU16 = some listener.port :=
    lookup_bind _ (by simp [← hentries]) (decodeU16_toNat listener.port)
  simp only [ListenerPlan.decode, hfields, hprotocol, hport, Option.bind_eq_bind, Option.bind_some]

theorem FlowPlan.decode_canonical (flow : FlowPlan) :
    FlowPlan.decode flow.toJson.canonical = some flow := by
  rw [FlowPlan.canonical_toJson]
  generalize hentries : [("bandwidth_bps", Json.int flow.bandwidthBps.toNat),
    ("dst_ip", .str (toString flow.dstIp)), ("dst_port", .int flow.dstPort.toNat),
    ("flow_id", .str flow.flowId), ("payload_bytes", .int flow.payloadBytes.toNat),
    ("protocol", flow.protocol.toJson), ("tcp_mss", .int flow.tcpMss.toNat)] = entries
  have hfields : fieldsOf ["flow_id", "protocol", "dst_ip", "dst_port", "bandwidth_bps",
      "payload_bytes", "tcp_mss"] (.obj entries) = some (entries.lookup ·) := by
    simp [fieldsOf, ← hentries]
  have hflowId : (entries.lookup "flow_id").bind decodeString = some flow.flowId :=
    lookup_bind (.str flow.flowId) (by simp [← hentries, List.lookup]) rfl
  have hprotocol : (entries.lookup "protocol").bind Transport.decode = some flow.protocol :=
    lookup_bind _ (by simp [← hentries, List.lookup]) flow.protocol.decode_toJson
  have hdstIp : (entries.lookup "dst_ip").bind decodeString = some (toString flow.dstIp) :=
    lookup_bind (.str (toString flow.dstIp)) (by simp [← hentries, List.lookup]) rfl
  have hdstPort : (entries.lookup "dst_port").bind decodeU16 = some flow.dstPort :=
    lookup_bind _ (by simp [← hentries, List.lookup]) (decodeU16_toNat flow.dstPort)
  have hbandwidth : (entries.lookup "bandwidth_bps").bind decodeU64 = some flow.bandwidthBps :=
    lookup_bind _ (by simp [← hentries]) (decodeU64_toNat flow.bandwidthBps)
  have hpayload : (entries.lookup "payload_bytes").bind decodeU64 = some flow.payloadBytes :=
    lookup_bind _ (by simp [← hentries, List.lookup]) (decodeU64_toNat flow.payloadBytes)
  have hmss : (entries.lookup "tcp_mss").bind decodeU32 = some flow.tcpMss :=
    lookup_bind _ (by simp [← hentries, List.lookup]) (decodeU32_toNat flow.tcpMss)
  simp only [FlowPlan.decode, hfields, hflowId, hprotocol, hdstIp, hdstPort, hbandwidth, hpayload,
    hmss, Ipv4.Addr.parse_toString, Option.bind_eq_bind, Option.bind_some]

theorem ClientTrafficPlan.decode_canonical (plan : ClientTrafficPlan) :
    ClientTrafficPlan.decode plan.toJson.canonical = some plan := by
  rw [ClientTrafficPlan.canonical_toJson]
  generalize hentries : [("flows", Json.arr (plan.flows.map (·.toJson.canonical))),
    ("listeners", .arr (plan.listeners.map (·.toJson.canonical)))] = entries
  have hfields : fieldsOf ["listeners", "flows"] (.obj entries) = some (entries.lookup ·) := by
    simp [fieldsOf, ← hentries]
  have hlisteners : (entries.lookup "listeners").bind (decodeList ListenerPlan.decode) =
      some plan.listeners :=
    lookup_bind _ (by simp [← hentries, List.lookup]) (decodeList_map ListenerPlan.decode_canonical _)
  have hflows : (entries.lookup "flows").bind (decodeList FlowPlan.decode) = some plan.flows :=
    lookup_bind _ (by simp [← hentries]) (decodeList_map FlowPlan.decode_canonical _)
  simp only [ClientTrafficPlan.decode, hfields, hlisteners, hflows, Option.bind_eq_bind,
    Option.bind_some]

/-! ## Plans in the ranges of the agent -/

structure ListenerEntry.Valid (listener : ListenerEntry) : Prop where
  protocol : listener.protocol = "tcp" ∨ listener.protocol = "udp"
  port : 0 ≤ listener.port ∧ listener.port < 2 ^ 16

/-- The numbers fit the fields of the agent, the flow id is printable ASCII, and the destination is
an address as the agent would write it. -/
structure FlowEntry.Valid (flow : FlowEntry) : Prop where
  flowId : Json.PrintableText flow.flowId
  protocol : flow.protocol = "tcp" ∨ flow.protocol = "udp"
  dstIp : ∃ addr : Ipv4.Addr, flow.dstIp = toString addr
  dstPort : 0 ≤ flow.dstPort ∧ flow.dstPort < 2 ^ 16
  bandwidthBps : 0 ≤ flow.bandwidthBps ∧ flow.bandwidthBps < 2 ^ 64
  payloadBytes : 0 ≤ flow.payloadBytes ∧ flow.payloadBytes < 2 ^ 64
  tcpMss : 0 ≤ flow.tcpMss ∧ flow.tcpMss < 2 ^ 32

structure PlanDict.Valid (plan : PlanDict) : Prop where
  listeners : ∀ listener ∈ plan.listeners, listener.Valid
  flows : ∀ flow ∈ plan.flows, flow.Valid

theorem exists_transport {protocol : String} (h : protocol = "tcp" ∨ protocol = "udp") :
    ∃ transport : Transport, transport.toJson = .str protocol := by
  rcases h with rfl | rfl
  · exact ⟨.tcp, rfl⟩
  · exact ⟨.udp, rfl⟩

theorem exists_u16 {n : Int} (h : 0 ≤ n ∧ n < 2 ^ 16) :
    ∃ value : UInt16, (value.toNat : Int) = n :=
  ⟨.ofNat n.toNat, by rw [UInt16.toNat_ofNat_of_lt' (by show _ < 65536; omega)]; omega⟩

theorem exists_u32 {n : Int} (h : 0 ≤ n ∧ n < 2 ^ 32) :
    ∃ value : UInt32, (value.toNat : Int) = n :=
  ⟨.ofNat n.toNat, by rw [UInt32.toNat_ofNat_of_lt' (by show _ < 4294967296; omega)]; omega⟩

theorem exists_u64 {n : Int} (h : 0 ≤ n ∧ n < 2 ^ 64) :
    ∃ value : UInt64, (value.toNat : Int) = n :=
  ⟨.ofNat n.toNat, by
    rw [UInt64.toNat_ofNat_of_lt' (by show _ < 18446744073709551616; omega)]; omega⟩

/-- The agent has a plan with the same value. -/
theorem ListenerEntry.Valid.typed {listener : ListenerEntry} (h : listener.Valid) :
    ∃ typed : ListenerPlan, typed.toJson = listener.toDict := by
  obtain ⟨protocol, hprotocol⟩ := exists_transport h.protocol
  obtain ⟨port, hport⟩ := exists_u16 h.port
  exact ⟨⟨protocol, port⟩, by rw [ListenerPlan.toJson, hprotocol, hport]; rfl⟩

theorem FlowEntry.Valid.typed {flow : FlowEntry} (h : flow.Valid) :
    ∃ typed : FlowPlan, typed.toJson = flow.toDict := by
  obtain ⟨protocol, hprotocol⟩ := exists_transport h.protocol
  obtain ⟨dstIp, hdstIp⟩ := h.dstIp
  obtain ⟨dstPort, hdstPort⟩ := exists_u16 h.dstPort
  obtain ⟨bandwidthBps, hbandwidth⟩ := exists_u64 h.bandwidthBps
  obtain ⟨payloadBytes, hpayload⟩ := exists_u64 h.payloadBytes
  obtain ⟨tcpMss, hmss⟩ := exists_u32 h.tcpMss
  refine ⟨⟨flow.flowId, protocol, dstIp, dstPort, bandwidthBps, payloadBytes, tcpMss⟩, ?_⟩
  rw [FlowPlan.toJson, FlowEntry.toDict, hprotocol, hdstIp, hdstPort, hbandwidth, hpayload, hmss]

theorem exists_map_eq {α β γ : Type} {f : β → γ} {g : α → γ} {items : List α}
    (h : ∀ item ∈ items, ∃ typed, f typed = g item) :
    ∃ typed : List β, typed.map f = items.map g := by
  induction items with
  | nil => exact ⟨[], rfl⟩
  | cons item items ih =>
    obtain ⟨head, hhead⟩ := h item (.head _)
    obtain ⟨tail, htail⟩ := ih fun item hitem => h item (.tail _ hitem)
    exact ⟨head :: tail, by rw [List.map_cons, List.map_cons, hhead, htail]⟩

theorem PlanDict.Valid.typed {plan : PlanDict} (h : plan.Valid) :
    ∃ typed : ClientTrafficPlan, typed.toJson = plan.toDict := by
  obtain ⟨listeners, hlisteners⟩ := exists_map_eq fun listener hmem => (h.listeners listener hmem).typed
  obtain ⟨flows, hflows⟩ := exists_map_eq fun flow hmem => (h.flows flow hmem).typed
  exact ⟨⟨listeners, flows⟩, by rw [ClientTrafficPlan.toJson, hlisteners, hflows]; rfl⟩

/-! ### Their strings -/

theorem printableText_protocol {protocol : String} (h : protocol = "tcp" ∨ protocol = "udp") :
    Json.PrintableText protocol := by
  rcases h with rfl | rfl <;> simp [Json.PrintableText]

theorem printableText_addr (addr : Ipv4.Addr) : Json.PrintableText (toString addr) := by
  have hdigits : ∀ n : Nat, ∀ c ∈ n.repr.toList, 0x20 ≤ c.toNat ∧ c.toNat ≤ 0x7e := by
    intro n c hc
    rw [Nat.toList_repr] at hc
    have hdigit := Nat.isDigit_of_mem_toDigits (by decide) (by decide) hc
    rw [Char.isDigit_iff_toNat, show '0'.toNat = 48 from rfl, show '9'.toNat = 57 from rfl] at hdigit
    omega
  intro c hc
  rw [Ipv4.Addr.toList_toString, List.append_nil] at hc
  simp only [List.mem_append, List.mem_cons] at hc
  rcases hc with hc | rfl | hc | rfl | hc | rfl | hc
  · exact hdigits _ c hc
  · decide
  · exact hdigits _ c hc
  · decide
  · exact hdigits _ c hc
  · decide
  · exact hdigits _ c hc

theorem ListenerEntry.Valid.printable {listener : ListenerEntry} (h : listener.Valid) :
    Json.Printable listener.toDict := by
  refine .obj (by simp [Json.PrintableText]) ?_
  simp only [List.forall_mem_cons]
  exact ⟨.str (printableText_protocol h.protocol), .int _, nofun⟩

theorem FlowEntry.Valid.printable {flow : FlowEntry} (h : flow.Valid) :
    Json.Printable flow.toDict := by
  obtain ⟨addr, haddr⟩ := h.dstIp
  have hdstIp : Json.PrintableText flow.dstIp := haddr ▸ printableText_addr addr
  refine .obj (by simp [Json.PrintableText]) ?_
  simp only [List.forall_mem_cons]
  exact ⟨.str h.flowId, .str (printableText_protocol h.protocol), .str hdstIp, .int _, .int _,
    .int _, .int _, nofun⟩

theorem PlanDict.Valid.printable {plan : PlanDict} (h : plan.Valid) :
    Json.Printable plan.toDict := by
  refine .obj (by simp [Json.PrintableText]) ?_
  simp only [List.forall_mem_cons]
  refine ⟨.arr ?_, .arr ?_, nofun⟩
  · exact List.forall_mem_map.mpr fun listener hmem => (h.listeners listener hmem).printable
  · exact List.forall_mem_map.mpr fun flow hmem => (h.flows flow hmem).printable

/-! ## The texts determine the plans -/

/-- Plans of the agent with the same canonical text are the same. -/
theorem canonical_text_injective :
    Function.Injective fun plan : ClientTrafficPlan => plan.toJson.canonical.compact := by
  intro first second h
  have hdecode := congrArg ClientTrafficPlan.decode (Json.compact_injective h)
  rwa [ClientTrafficPlan.decode_canonical, ClientTrafficPlan.decode_canonical,
    Option.some.injEq] at hdecode

theorem ListenerEntry.toDict_injective : Function.Injective ListenerEntry.toDict := by
  rintro ⟨protocol, port⟩ ⟨protocol', port'⟩ h
  simp only [ListenerEntry.toDict, Json.obj.injEq, List.cons.injEq, Prod.mk.injEq, Json.str.injEq,
    Json.int.injEq] at h
  obtain ⟨⟨-, rfl⟩, ⟨-, rfl⟩, -⟩ := h
  rfl

theorem FlowEntry.toDict_injective : Function.Injective FlowEntry.toDict := by
  rintro ⟨flowId, protocol, dstIp, dstPort, bandwidthBps, payloadBytes, tcpMss⟩
    ⟨flowId', protocol', dstIp', dstPort', bandwidthBps', payloadBytes', tcpMss'⟩ h
  simp only [FlowEntry.toDict, Json.obj.injEq, List.cons.injEq, Prod.mk.injEq, Json.str.injEq,
    Json.int.injEq] at h
  obtain ⟨⟨-, rfl⟩, ⟨-, rfl⟩, ⟨-, rfl⟩, ⟨-, rfl⟩, ⟨-, rfl⟩, ⟨-, rfl⟩, ⟨-, rfl⟩, -⟩ := h
  rfl

theorem PlanDict.toDict_injective : Function.Injective PlanDict.toDict := by
  rintro ⟨listeners, flows⟩ ⟨listeners', flows'⟩ h
  simp only [PlanDict.toDict, Json.obj.injEq, List.cons.injEq, Prod.mk.injEq,
    Json.arr.injEq] at h
  obtain ⟨⟨-, hlisteners⟩, ⟨-, hflows⟩, -⟩ := h
  rw [List.map_injective_iff.mpr ListenerEntry.toDict_injective hlisteners,
    List.map_injective_iff.mpr FlowEntry.toDict_injective hflows]

/-- Plans of the controller with the same text are the same. -/
theorem PlanDict.Valid.dumps_inj {first second : PlanDict} (hfirst : first.Valid)
    (hsecond : second.Valid) (h : first.toDict.dumps = second.toDict.dumps) : first = second := by
  obtain ⟨typed, htyped⟩ := hfirst.typed
  obtain ⟨typed', htyped'⟩ := hsecond.typed
  rw [Json.dumps_eq hfirst.printable, Json.dumps_eq hsecond.printable, ← htyped, ← htyped'] at h
  have hsame := canonical_text_injective h
  subst hsame
  exact PlanDict.toDict_injective (htyped.symm.trans htyped')

/-! ## The two digests agree -/

theorem LoadPayload.decode_entries {entries : List (String × Json)} (generation : UInt64)
    (planDigest : String) (plan : ClientTrafficPlan)
    (hentries : [("generation", Json.int generation.toNat), ("plan", plan.toJson.canonical),
      ("plan_digest", .str planDigest)] = entries) :
    LoadPayload.decode (.obj entries) = some { generation, planDigest, plan } := by
  have hfields : fieldsOf ["generation", "plan_digest", "plan"] (.obj entries) =
      some (entries.lookup ·) := by
    simp [fieldsOf, ← hentries]
  have hgeneration : (entries.lookup "generation").bind decodeU64 = some generation :=
    lookup_bind _ (by simp [← hentries]) (decodeU64_toNat generation)
  have hdigest : (entries.lookup "plan_digest").bind decodeString = some planDigest :=
    lookup_bind (.str planDigest) (by simp [← hentries, List.lookup]) rfl
  have hplan : (entries.lookup "plan").bind ClientTrafficPlan.decode = some plan :=
    lookup_bind _ (by simp [← hentries, List.lookup]) plan.decode_canonical
  rw [LoadPayload.decode, hfields]
  simp only [hgeneration, hdigest, hplan, Option.bind_eq_bind, Option.bind_some]

theorem Controller.canonical_loadPayload (sha256 : String → List UInt8) (generation : UInt64)
    {plan : PlanDict} {typed : ClientTrafficPlan} (htyped : typed.toJson = plan.toDict) :
    (loadPayload sha256 generation.toNat plan).canonical =
      .obj [("generation", .int generation.toNat), ("plan", typed.toJson.canonical),
        ("plan_digest", .str (planDigest sha256 plan))] := by
  simp [loadPayload, Json.canonical, Json.canonicalEntries_eq, htyped]

theorem RequestEnvelope.decode_canonical (op : String) (payload : Json) :
    RequestEnvelope.decode (Controller.requestDict op payload).canonical =
      some { protocolVersion := 1, op, payload := payload.canonical } := by
  have hcanonical : (Controller.requestDict op payload).canonical =
      .obj [("op", .str op), ("payload", payload.canonical), ("protocol_version", .int 1)] := by
    simp [Controller.requestDict, Json.canonical, Json.canonicalEntries_eq]
  rw [hcanonical]
  generalize hentries : [("op", Json.str op), ("payload", payload.canonical),
    ("protocol_version", .int 1)] = entries
  have hversion : (entries.lookup "protocol_version").bind decodeU32 = some 1 :=
    lookup_bind (.int 1) (by simp [← hentries, List.lookup]) (decodeU32_toNat 1)
  have hop : (entries.lookup "op").bind decodeString = some op :=
    lookup_bind (.str op) (by simp [← hentries]) rfl
  have hpayload : entries.lookup "payload" = some payload.canonical := by
    simp [← hentries, List.lookup]
  simp only [RequestEnvelope.decode, hversion, hop, hpayload, Option.bind_eq_bind, Option.bind_some,
    Option.getD_some]

/-- The agent hashes the bytes that the controller hashed, so the only other thing that it can find
wrong with a load is its size, or that it names no generation or digest. Different plans have
different bytes, on either side. `fromSlice` is the JSON parser of the agent. -/
theorem plan_digest_agrees (sha256 : String → List UInt8) (fromSlice : String → Option Json)
    (describe : Json → String) :
    (∀ (generation : UInt64) (plan : PlanDict), plan.Valid →
      fromSlice (Controller.requestLine "load_plan"
          (Controller.loadPayload sha256 generation.toNat plan)) =
        some (Controller.requestDict "load_plan"
          (Controller.loadPayload sha256 generation.toNat plan)).canonical →
      decodeRequest fromSlice (Controller.requestLine "load_plan"
          (Controller.loadPayload sha256 generation.toNat plan)) =
        .error "control request exceeds 65536 bytes" ∨
      ∃ envelope payload,
        decodeRequest fromSlice (Controller.requestLine "load_plan"
            (Controller.loadPayload sha256 generation.toNat plan)) = .ok envelope ∧
        Request.ofEnvelope describe envelope = .loadPlan (.ok payload) ∧
        payload.generation = generation ∧
        payload.plan.toJson.canonical.compact.toUTF8 = plan.toDict.dumps.toUTF8 ∧
        planDigest sha256 payload.plan = payload.planDigest ∧
        (Rejected sha256 payload → generation = 0 ∨ payload.planDigest = "")) ∧
    (∀ first second : PlanDict, first.Valid → second.Valid →
      first.toDict.dumps.toUTF8 = second.toDict.dumps.toUTF8 → first = second) ∧
    (∀ first second : ClientTrafficPlan,
      first.toJson.canonical.compact.toUTF8 = second.toJson.canonical.compact.toUTF8 →
        first = second) := by
  refine ⟨fun generation plan hplan hparse => ?_, fun first second hfirst hsecond h => ?_,
    fun first second h => ?_⟩
  · obtain ⟨typed, htyped⟩ := hplan.typed
    have htext : typed.toJson.canonical.compact = plan.toDict.dumps := by
      rw [Json.dumps_eq hplan.printable, htyped]
    have hdigest : planDigest sha256 typed = Controller.planDigest sha256 plan := by
      rw [planDigest, Controller.planDigest, htext]
    generalize hline : Controller.requestLine "load_plan"
      (Controller.loadPayload sha256 generation.toNat plan) = line at hparse ⊢
    by_cases hsize : line.utf8ByteSize > maxControlRequestBytes
    · exact .inl (if_pos hsize)
    · right
      have hnewline : line.toList.getLast? = some '\n' := by
        rw [← hline, Controller.requestLine, String.toList_append]
        exact List.getLast?_concat
      generalize hpayload : Controller.loadPayload sha256 generation.toNat plan = payload at hparse
      refine ⟨{ protocolVersion := 1, op := "load_plan", payload := payload.canonical },
        { generation, planDigest := Controller.planDigest sha256 plan, plan := typed },
        ?_, ?_, rfl, congrArg String.toUTF8 htext, hdigest, ?_⟩
      · rw [decodeRequest, if_neg hsize, if_neg (not_not.mpr hnewline), hparse, Option.bind_some,
          RequestEnvelope.decode_canonical]
      · rw [Request.ofEnvelope, if_pos rfl, ← hpayload,
          Controller.canonical_loadPayload sha256 generation htyped,
          LoadPayload.decode_entries generation _ typed rfl]
        rfl
      · rintro (hgeneration | hmissing | hmismatch)
        · exact .inl hgeneration
        · exact .inr hmissing
        · exact absurd hdigest hmismatch
  · exact hfirst.dumps_inj hsecond (String.toByteArray_inj.mp h)
  · exact canonical_text_injective (String.toByteArray_inj.mp h)

/-! ### A plan of one flow -/

def senderPlan : PlanDict where
  listeners := []
  flows := [{ flowId := "f \"1\"", protocol := "udp", dstIp := "192.168.102.2", dstPort := 5001
              bandwidthBps := 1000000, payloadBytes := 1000, tcpMss := 0 }]

def listenerPlan : PlanDict where
  listeners := [{ protocol := "udp", port := 5001 }]
  flows := []

theorem senderPlan_valid : senderPlan.Valid where
  listeners := nofun
  flows := by
    refine List.forall_mem_singleton.mpr ⟨?_, .inr rfl, ⟨.ofOctets 192 168 102 2, ?_⟩, ?_, ?_, ?_, ?_⟩
    · simp [Json.PrintableText]
    all_goals decide +kernel

theorem listenerPlan_valid : listenerPlan.Valid where
  listeners := List.forall_mem_singleton.mpr ⟨.inr rfl, by decide⟩
  flows := nofun

/-- SHA-256 of the text of the sender's plan. -/
def senderSha256 (_ : String) : List UInt8 :=
  [3, 150, 47, 68, 105, 212, 210, 44, 2, 176, 189, 211, 68, 153, 22, 57, 112, 222, 165, 234, 166, 6,
    214, 49, 249, 246, 197, 234, 90, 221, 133, 112]

def senderLine : String :=
  Controller.requestLine "load_plan" (Controller.loadPayload senderSha256 1 senderPlan)

/-- The parser on the line of the sender's plan. -/
def senderParse (text : String) : Option Json :=
  if text = senderLine then
    some (Controller.requestDict "load_plan"
      (Controller.loadPayload senderSha256 1 senderPlan)).canonical
  else
    none

theorem senderPlan_digest_agrees :
    (decodeRequest senderParse senderLine = .error "control request exceeds 65536 bytes" ∨
      ∃ envelope payload, decodeRequest senderParse senderLine = .ok envelope ∧
        Request.ofEnvelope (fun _ => "invalid type") envelope = .loadPlan (.ok payload) ∧
        payload.generation = 1 ∧
        payload.plan.toJson.canonical.compact.toUTF8 = senderPlan.toDict.dumps.toUTF8 ∧
        planDigest senderSha256 payload.plan = payload.planDigest ∧
        (Rejected senderSha256 payload → (1 : UInt64) = 0 ∨ payload.planDigest = "")) ∧
    senderPlan.toDict.dumps.toUTF8 ≠ listenerPlan.toDict.dumps.toUTF8 := by
  have h := plan_digest_agrees senderSha256 senderParse fun _ => "invalid type"
  refine ⟨h.1 1 senderPlan senderPlan_valid (if_pos rfl), fun hsame => ?_⟩
  have hplan := h.2.1 senderPlan listenerPlan senderPlan_valid listenerPlan_valid hsame
  exact absurd hplan (by decide)

end NetOpsBench.Traffic
