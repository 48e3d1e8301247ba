import NetOpsBench.Bgp.Collector
import NetOpsBench.Bgp.Segments
import NetOpsBench.Data.LineProtocol
import NetOpsBench.Pingmesh.Rows

/-!
# The text of a line

What the BGP collector and the client agent write for a point, and that a reader of the line gets
the point back. Tags are escaped but not quoted, so a reader that minds quotes everywhere misreads a
tag with an odd number of them.

`lines_read_back` is the result over every line of both writers. What a line is read back as is
`Line.point` and `Pingmesh.metricPoint`; each kind of tag and field is shown once to be escaped as its
kind requires, and `read_line` of the line protocol does the rest. `quotedDevice_not_read_back` is a
device name with a quote in it.
-/

namespace NetOpsBench.Bgp
open LineProtocol

def escapeStringField (value : String) : String :=
  Python.replace (Python.replace value "\\" "\\\\") "\"" "\\\""

/-- `_int_field` of a number -/
def intField (name : String) (value : Option Int) : Option String :=
  value.map fun value => name ++ "=" ++ toString value ++ "i"

def topologyTags (topologyId : String) : List String :=
  if topologyId = "" then [] else ["topology_id=" ++ escapeTag topologyId]

def NeighborPoint.text (point : NeighborPoint) (topologyId : String) : String :=
  let tags :=
    ["source=" ++ escapeTag point.source, "neighbor_address=" ++ escapeTag point.neighborAddress] ++
      topologyTags topologyId
  let fields :=
    ["session_state=\"" ++ escapeStringField point.sessionState ++ "\""] ++
      [("asn", point.asn), ("prefixes_received", point.prefixesReceived)].filterMap
        fun (name, value) => intField name value
  "bgp_neighbors," ++ ",".intercalate tags ++ " " ++ ",".intercalate fields ++ " " ++
    toString point.time

def CollectionPoint.text (point : CollectionPoint) (topologyId : String) : String :=
  let tags := ["source=" ++ escapeTag point.source] ++ topologyTags topologyId
  let fields :=
    ["collection_ok=" ++ (if point.collectionOk then "true" else "false"),
      "error_type=\"" ++ escapeStringField point.errorType ++ "\""]
  "bgp_collection," ++ ",".intercalate tags ++ " " ++ ",".intercalate fields ++ " " ++
    toString point.time

/-- `_BGP_EVENT_SCHEMA_VERSION` -/
def bgpEventSchemaVersion : Nat := 1

def EventIndexPoint.text (point : EventIndexPoint) (topologyId : String) : String :=
  let tags := ["source=" ++ escapeTag point.source] ++ topologyTags topologyId
  let fields :=
    ["schema_version=" ++ toString bgpEventSchemaVersion ++ "i",
      "collection_ok=" ++ (if point.collectionOk then "true" else "false")]
  "bgp_event_index," ++ ",".intercalate tags ++ " " ++ ",".intercalate fields ++ " " ++
    toString point.time

def TransitionType.name : TransitionType → String
  | .sessionDown => "session_down"
  | .sessionRecovered => "session_recovered"
  | .sessionStateChanged => "session_state_changed"

def TransitionPoint.text (point : TransitionPoint) (topologyId : String) : String :=
  let tags :=
    ["source=" ++ escapeTag point.source, "neighbor_address=" ++ escapeTag point.neighborAddress,
      "event_type=" ++ point.eventType.name] ++ topologyTags topologyId
  let fields :=
    ["previous_state=\"" ++ escapeStringField point.previousState ++ "\"",
      "latest_state=\"" ++ escapeStringField point.latestState ++ "\""] ++
      [("asn", point.asn), ("prefixes_before", point.prefixesBefore),
        ("prefixes_after", point.prefixesAfter)].filterMap fun (name, value) => intField name value
  "bgp_session_events," ++ ",".intercalate tags ++ " " ++ ",".intercalate fields ++ " " ++
    toString point.time

/-- What the collector writes for a line. -/
def Line.text (line : Line) (topologyId : String) : String :=
  match line with
  | .neighbor point => point.text topologyId
  | .eventIndex point => point.text topologyId
  | .transition point => point.text topologyId
  | .collection point => point.text topologyId

/-! ## The points -/

section
variable (F64 : Type) (topologyId : String)

def topologyPairs : List (String × String) :=
  if topologyId = "" then [] else [("topology_id", topologyId)]

def intPairs {F64 : Type} (values : List (String × Option Int)) :
    List (String × FieldValue F64) :=
  values.filterMap fun (name, value) => value.map fun value => (name, .integer value)

/-- The measurement, tags, fields and timestamp that a line is written for. -/
def Line.point : Line → Point F64
  | .neighbor point =>
    { measurement := "bgp_neighbors"
      tags := [("source", point.source), ("neighbor_address", point.neighborAddress)] ++
        topologyPairs topologyId
      fields := [("session_state", .text point.sessionState)] ++
        intPairs [("asn", point.asn), ("prefixes_received", point.prefixesReceived)]
      timestamp := point.time }
  | .eventIndex point =>
    { measurement := "bgp_event_index"
      tags := [("source", point.source)] ++ topologyPairs topologyId
      fields := [("schema_version", .integer bgpEventSchemaVersion),
        ("collection_ok", .boolean point.collectionOk)]
      timestamp := point.time }
  | .transition point =>
    { measurement := "bgp_session_events"
      tags := [("source", point.source), ("neighbor_address", point.neighborAddress),
        ("event_type", point.eventType.name)] ++ topologyPairs topologyId
      fields := [("previous_state", .text point.previousState),
        ("latest_state", .text point.latestState)] ++
        intPairs [("asn", point.asn), ("prefixes_before", point.prefixesBefore),
          ("prefixes_after", point.prefixesAfter)]
      timestamp := point.time }
  | .collection point =>
    { measurement := "bgp_collection"
      tags := [("source", point.source)] ++ topologyPairs topologyId
      fields := [("collection_ok", .boolean point.collectionOk), ("error_type", .text point.errorType)]
      timestamp := point.time }

end

/-! ## Escaping -/

theorem toList_escapeTag (value : String) :
    (escapeTag value).toList = escape tagSpecial value.toList := by
  have hspecial : ∀ c : Char, (if c ∈ ['\\', ',', ' ', '='] then ['\\', c] else [c]) =
      if tagSpecial c then ['\\', c] else [c] := fun c => by
    simp only [tagSpecial, List.mem_cons, List.not_mem_nil, or_false, decide_eq_true_eq]
    congr 1
    rw [eq_iff_iff]
    tauto
  rw [escapeTag, String.toList_ofList, funext hspecial, escape]

/-- The replacements of the collector are an escape of backslashes and quotes. -/
theorem toList_escapeStringField (value : String) :
    (escapeStringField value).toList = escape fieldSpecial value.toList := by
  have hspecial : (fun c : Char => decide (c = '\\') || c = '"') = fieldSpecial := by
    funext c
    rw [fieldSpecial, Bool.eq_iff_iff]
    simp only [Bool.or_eq_true, decide_eq_true_eq, List.mem_cons, List.not_mem_nil, or_false]
  unfold escapeStringField Python.replace
  simp only [String.toList_ofList]
  rw [← hspecial]
  exact .trans (congrArg _ (all_singleton_backslash _)) (all_escape (c := '"') (by decide) rfl _)

/-! ## The collector's lines -/

section
variable {F64 : Type} {parse : String → Option F64} {topologyId : String}

theorem isTag_escapeTag {word key : String} (value : String) (hkey : Plain key.toList)
    (hword : word = key ++ "=") : IsTag (word ++ escapeTag value) (key, value) :=
  isTag_escape hkey hword (toList_escapeTag value)

theorem isTag_topologyTags (topologyId : String) :
    List.Forall₂ IsTag (topologyTags topologyId) (topologyPairs topologyId) := by
  unfold topologyTags topologyPairs
  split
  · exact .nil
  · exact .cons (isTag_escapeTag _ (by decide +kernel) (by decide +kernel)) .nil

theorem isTag_source (source : String) : IsTag ("source=" ++ escapeTag source) ("source", source) :=
  isTag_escapeTag _ (by decide +kernel) (by decide +kernel)

theorem isTag_neighborAddress (neighborAddress : String) :
    IsTag ("neighbor_address=" ++ escapeTag neighborAddress)
      ("neighbor_address", neighborAddress) :=
  isTag_escapeTag _ (by decide +kernel) (by decide +kernel)

theorem isTag_eventType (eventType : TransitionType) :
    IsTag ("event_type=" ++ eventType.name) ("event_type", eventType.name) :=
  isTag_plain (by decide +kernel) (by decide +kernel) (by cases eventType <;> decide +kernel)

theorem isField_stringField {word key : String} (value : String) (hkey : Plain key.toList)
    (hword : word = key ++ "=\"") :
    IsField parse (word ++ escapeStringField value ++ "\"") (key, .text value) :=
  isField_text hkey hword (toList_escapeStringField value)

theorem isField_integer {word key : String} (value : Int) (hkey : Plain key.toList)
    (hword : word = key ++ "=") :
    IsField parse (word ++ toString value ++ "i") (key, .integer value) := by
  rw [String.append_assoc]
  exact isField_plain hkey hword (readValue_integer value)

theorem isField_boolean {word key : String} (value : Bool) (hkey : Plain key.toList)
    (hword : word = key ++ "=") :
    IsField parse (word ++ (if value then "true" else "false")) (key, .boolean value) :=
  isField_plain hkey hword (readValue_boolean value)

/-- Fields of numbers, of which the missing ones are left out. -/
theorem isField_intFields {values : List (String × Option Int)} {names : List String}
    (h : ∀ name ∈ names, Plain name.toList) (hnames : values.map (·.1) = names) :
    List.Forall₂ (IsField parse) (values.filterMap fun (name, value) => intField name value)
      (intPairs values) := by
  subst hnames
  induction values with
  | nil => exact .nil
  | cons value values ih =>
    have hrest := ih fun other hother => h other (List.mem_cons_of_mem _ hother)
    obtain ⟨name, value⟩ := value
    cases value with
    | none => exact hrest
    | some value => exact .cons (isField_integer value (h _ List.mem_cons_self) rfl) hrest

theorem isField_collectionOk (value : Bool) :
    IsField parse ("collection_ok=" ++ (if value then "true" else "false"))
      ("collection_ok", .boolean value) :=
  isField_boolean value (by decide +kernel) (by decide +kernel)

theorem isField_schemaVersion :
    IsField parse ("schema_version=" ++ toString bgpEventSchemaVersion ++ "i")
      ("schema_version", .integer bgpEventSchemaVersion) :=
  isField_integer bgpEventSchemaVersion (by decide +kernel) (by decide +kernel)

theorem isField_state {word key : String} (value : String)
    (h : (word, key) ∈ [("session_state=\"", "session_state"), ("previous_state=\"", "previous_state"),
      ("latest_state=\"", "latest_state"), ("error_type=\"", "error_type")]) :
    IsField parse (word ++ escapeStringField value ++ "\"") (key, .text value) := by
  have hkeys : ∀ pair ∈ [("session_state=\"", "session_state"),
      ("previous_state=\"", "previous_state"), ("latest_state=\"", "latest_state"),
      ("error_type=\"", "error_type")], Plain pair.2.toList ∧ pair.1 = pair.2 ++ "=\"" := by
    decide +kernel
  exact isField_stringField value (hkeys _ h).1 (hkeys _ h).2

/-- A line of the collector is read back if and only if the quotes of each tag are even in number. -/
theorem Line.read_text (line : Line) (topologyId : String) :
    read parse (line.text topologyId) = some (line.point F64 topologyId) ↔
      ∀ tag ∈ (line.point F64 topologyId).tags, ¬ oddQuotes tag.2.toList := by
  have htopology := isTag_topologyTags topologyId
  cases line with
  | neighbor point =>
    have hfields : List.Forall₂ (IsField parse) _ _ := isField_intFields
      (show ∀ name ∈ ["asn", "prefixes_received"], Plain name.toList by decide +kernel)
      (show [("asn", point.asn), ("prefixes_received", point.prefixesReceived)].map (·.1) = _ from rfl)
    exact read_line (by decide +kernel) (by decide +kernel)
      (.cons (isTag_source _) (.cons (isTag_neighborAddress _) htopology)) (List.cons_ne_nil _ _)
      (.cons (isField_state _ (by decide)) hfields) (List.cons_ne_nil _ _) rfl
  | eventIndex point =>
    exact read_line (by decide +kernel) (by decide +kernel) (.cons (isTag_source _) htopology)
      (List.cons_ne_nil _ _) (.cons isField_schemaVersion (.cons (isField_collectionOk _) .nil))
      (List.cons_ne_nil _ _) rfl
  | transition point =>
    have hfields : List.Forall₂ (IsField parse) _ _ := isField_intFields
      (show ∀ name ∈ ["asn", "prefixes_before", "prefixes_after"], Plain name.toList by
        decide +kernel)
      (show [("asn", point.asn), ("prefixes_before", point.prefixesBefore),
        ("prefixes_after", point.prefixesAfter)].map (·.1) = _ from rfl)
    exact read_line (by decide +kernel) (by decide +kernel)
      (.cons (isTag_source _) (.cons (isTag_neighborAddress _)
        (.cons (isTag_eventType _) htopology))) (List.cons_ne_nil _ _)
      (.cons (isField_state _ (by decide)) (.cons (isField_state _ (by decide)) hfields))
      (List.cons_ne_nil _ _) rfl
  | collection point =>
    exact read_line (by decide +kernel) (by decide +kernel) (.cons (isTag_source _) htopology)
      (List.cons_ne_nil _ _)
      (.cons (isField_collectionOk _) (.cons (isField_state _ (by decide)) .nil))
      (List.cons_ne_nil _ _) rfl

end

end NetOpsBench.Bgp

namespace NetOpsBench.Pingmesh
open ClientAgent LineProtocol

/-! ## The agent's lines -/

/-- What `{}` prints for an `f64` and what `parse` reads back. The values are the numbers, the two
infinities and one `NaN`. -/
structure F64Text (F64 : Type) where
  display : F64 → String
  parse : String → Option F64
  parse_display : ∀ value, parse (display value) = some value
  display_shape : ∀ value, display value ∈ ["NaN", "inf", "-inf"] ∨
    ∀ c ∈ (display value).toList, c.isDigit ∨ c = '-' ∨ c = '.'

/-- The result of a target with its round-trip times and the share of its losses. -/
structure TimedResult (F64 : Type) extends ProbeResult where
  rttMin : F64
  rttAvg : F64
  rttMax : F64
  rttP90 : F64
  rttP99 : F64
  packetLoss : F64

def escapeTag (value : String) : String :=
  Python.replace (Python.replace (Python.replace (Python.replace value "\\" "\\\\") " " "\\ ")
    "," "\\,") "=" "\\="

variable {F64 : Type}

/-- The `format!` of the tags and of the fields, entry by entry. -/
def metricLines (format : F64Text F64) (topologyId : String) (source : Client) (target : Target)
    (result : TimedResult F64) (timestamp : Nat) : List String :=
  let tags := ",".intercalate [
    "src_ip=" ++ escapeTag (toString source.dataIp),
    "dst_ip=" ++ escapeTag (toString target.client.dataIp),
    "src_name=" ++ escapeTag source.name,
    "dst_name=" ++ escapeTag target.client.name,
    "src_leaf=" ++ escapeTag source.leaf,
    "dst_leaf=" ++ escapeTag target.client.leaf,
    "path_type=" ++ target.pathType,
    "topology_id=" ++ escapeTag topologyId]
  let fields := ",".intercalate [
    "rtt_min=" ++ format.display result.rttMin,
    "rtt_avg=" ++ format.display result.rttAvg,
    "rtt_max=" ++ format.display result.rttMax,
    "rtt_p90=" ++ format.display result.rttP90,
    "rtt_p99=" ++ format.display result.rttP99,
    "packets_sent=" ++ toString result.packetsSent ++ "i",
    "packets_lost=" ++ toString result.packetsLost ++ "i",
    "packet_loss=" ++ format.display result.packetLoss,
    "rtt_ports_active=" ++ toString result.rttPortsActive ++ "i",
    "rtt_ports_total=" ++ toString result.rttPortsTotal ++ "i",
    "probe_cycle=" ++ toString result.probeCycle ++ "i",
    "destination_batch_index=" ++ toString result.destinationBatchIndex ++ "i",
    "port_batch_index=" ++ toString result.portBatchIndex ++ "i",
    "df_packets_sent=" ++ toString result.dfPacketsSent ++ "i",
    "df_packets_lost=" ++ toString result.dfPacketsLost ++ "i",
    "df_mtu_drops=" ++ toString result.dfMtuDrops ++ "i",
    "local_probe_errors=" ++ toString result.localProbeErrors ++ "i"]
  ["pingmesh," ++ tags ++ " " ++ fields ++ " " ++ toString timestamp]

def metricPoint (topologyId : String) (source : Client) (target : Target)
    (result : TimedResult F64) (timestamp : Nat) : Point F64 where
  measurement := "pingmesh"
  tags := [("src_ip", toString source.dataIp), ("dst_ip", toString target.client.dataIp),
    ("src_name", source.name), ("dst_name", target.client.name), ("src_leaf", source.leaf),
    ("dst_leaf", target.client.leaf), ("path_type", target.pathType), ("topology_id", topologyId)]
  fields := [("rtt_min", .float result.rttMin), ("rtt_avg", .float result.rttAvg),
    ("rtt_max", .float result.rttMax), ("rtt_p90", .float result.rttP90),
    ("rtt_p99", .float result.rttP99), ("packets_sent", .integer result.packetsSent),
    ("packets_lost", .integer result.packetsLost), ("packet_loss", .float result.packetLoss),
    ("rtt_ports_active", .integer result.rttPortsActive),
    ("rtt_ports_total", .integer result.rttPortsTotal),
    ("probe_cycle", .integer result.probeCycle),
    ("destination_batch_index", .integer result.destinationBatchIndex),
    ("port_batch_index", .integer result.portBatchIndex),
    ("df_packets_sent", .integer result.dfPacketsSent),
    ("df_packets_lost", .integer result.dfPacketsLost), ("df_mtu_drops", .integer result.dfMtuDrops),
    ("local_probe_errors", .integer result.localProbeErrors)]
  timestamp := timestamp

/-! ## Reading the agent's lines back -/

/-- The names of the tags and fields, with the words that the line has for them. -/
def metricWords : List (String × String) :=
  [("src_ip", "src_ip="), ("dst_ip", "dst_ip="), ("src_name", "src_name="),
    ("dst_name", "dst_name="), ("src_leaf", "src_leaf="), ("dst_leaf", "dst_leaf="),
    ("path_type", "path_type="), ("topology_id", "topology_id="), ("rtt_min", "rtt_min="),
    ("rtt_avg", "rtt_avg="), ("rtt_max", "rtt_max="), ("rtt_p90", "rtt_p90="),
    ("rtt_p99", "rtt_p99="), ("packets_sent", "packets_sent="), ("packets_lost", "packets_lost="),
    ("packet_loss", "packet_loss="), ("rtt_ports_active", "rtt_ports_active="),
    ("rtt_ports_total", "rtt_ports_total="), ("probe_cycle", "probe_cycle="),
    ("destination_batch_index", "destination_batch_index="),
    ("port_batch_index", "port_batch_index="), ("df_packets_sent", "df_packets_sent="),
    ("df_packets_lost", "df_packets_lost="), ("df_mtu_drops", "df_mtu_drops="),
    ("local_probe_errors", "local_probe_errors=")]

theorem plain_metricWords {key word : String} (h : (key, word) ∈ metricWords) :
    Plain key.toList ∧ word = key ++ "=" := by
  have hwords : ∀ pair ∈ metricWords, Plain pair.1.toList ∧ pair.2 = pair.1 ++ "=" := by
    decide +kernel
  exact hwords _ h

theorem toList_escapeTag (value : String) :
    (escapeTag value).toList = escape tagSpecial value.toList := by
  have hspecial : (fun c : Char => ((decide (c = '\\') || c = ' ') || c = ',') || c = '=') =
      tagSpecial := by
    funext c
    rw [tagSpecial, Bool.eq_iff_iff]
    simp only [Bool.or_eq_true, decide_eq_true_eq, List.mem_cons, List.not_mem_nil, or_false]
    tauto
  unfold escapeTag Python.replace
  simp only [String.toList_ofList]
  rw [← hspecial]
  refine .trans (congrArg _ (congrArg _ (congrArg _ (all_singleton_backslash _)))) ?_
  refine .trans (congrArg _ (congrArg _ (all_escape (c := ' ') (by decide) rfl _))) ?_
  exact .trans (congrArg _ (all_escape (c := ',') (by decide) rfl _))
    (all_escape (c := '=') (by decide) rfl _)

theorem isTag_escapeTag {key word : String} (value : String) (h : (key, word) ∈ metricWords) :
    IsTag (word ++ escapeTag value) (key, value) :=
  isTag_escape (plain_metricWords h).1 (plain_metricWords h).2 (toList_escapeTag value)

theorem isField_count {parse : String → Option F64} {key word : String} (value : Nat)
    (h : (key, word) ∈ metricWords) :
    IsField parse (word ++ toString value ++ "i") (key, .integer value) :=
  Bgp.isField_integer value (plain_metricWords h).1 (plain_metricWords h).2

/-- What a float displays as is read back, also where it has no point. -/
theorem F64Text.readValue_display (format : F64Text F64) (value : F64) :
    Plain (format.display value).toList ∧
      readValue format.parse (format.display value).toList = some (.float value) := by
  have hwords : ∀ word ∈ ["NaN", "inf", "-inf"], Plain (String.toList word) ∧
      'i' ∉ (String.toList word).getLast? ∧ 'e' ∉ (String.toList word).getLast? := by
    decide +kernel
  have hdisplay : Plain (format.display value).toList ∧
      'i' ∉ (format.display value).toList.getLast? ∧
      'e' ∉ (format.display value).toList.getLast? := by
    rcases format.display_shape value with hword | hchars
    · exact hwords _ hword
    · have hnone {c : Char} (hc : c ∈ (format.display value).toList) :
          c ∉ ['\\', '"', ' ', ',', '=', 'i', 'e'] := by
        intro hmem
        have hspecial : ['\\', '"', ' ', ',', '=', 'i', 'e'].all fun c =>
          !(c.isDigit || c = '-' || c = '.') := by decide
        have := List.all_eq_true.mp hspecial c hmem
        have := hchars c hc
        simp_all
      refine ⟨fun c hc hmem => hnone hc ?_, fun hlast => ?_, fun hlast => ?_⟩
      · simp only [List.mem_cons, List.not_mem_nil, or_false] at hmem ⊢
        tauto
      · exact hnone (List.mem_of_getLast? hlast) (by decide)
      · exact hnone (List.mem_of_getLast? hlast) (by decide)
  obtain ⟨hplain, hi, he⟩ := hdisplay
  refine ⟨hplain, ?_⟩
  rw [hplain.readValue_eq, if_neg (show ¬ _ = some 'i' from hi), String.ofList_toList,
    format.parse_display]
  · rfl
  · intro h
    exact he (by rw [h]; rfl)
  · intro h
    exact he (by rw [h]; rfl)

theorem isField_float (format : F64Text F64) {key word : String} (value : F64)
    (h : (key, word) ∈ metricWords) :
    IsField format.parse (word ++ format.display value) (key, .float value) :=
  isField_plain (plain_metricWords h).1 (plain_metricWords h).2 (format.readValue_display value)

theorem isTag_pathType {pathType : String} (h : pathType ∈ ["same_rack", "cross_rack"]) :
    IsTag ("path_type=" ++ pathType) ("path_type", pathType) := by
  have hplain : ∀ pathType ∈ ["same_rack", "cross_rack"], Plain (String.toList pathType) := by
    decide +kernel
  exact isTag_plain (by decide +kernel) (by decide +kernel) (hplain pathType h)

theorem pathType_mem {config : ClientAgentConfig} {source : Client} {targets : List Target}
    (h : buildTargets config source = some targets) {target : Target} (hmem : target ∈ targets) :
    target.pathType ∈ ["same_rack", "cross_rack"] := by
  obtain ⟨localIndex, -, h⟩ := Option.bind_eq_some_iff.mp h
  obtain ⟨offset, -, h⟩ := Option.exists_of_mem_mapM h hmem
  obtain ⟨client, -, rfl⟩ := Option.map_eq_some_iff.mp h
  dsimp only
  split <;> decide

/-- A line of the agent is read back unless a tag has an odd number of quotes. -/
theorem read_metricLines (format : F64Text F64) {config : ClientAgentConfig} {source : Client}
    {targets : List Target} (htargets : buildTargets config source = some targets)
    {target : Target} (htarget : target ∈ targets) (topologyId : String)
    (result : TimedResult F64) (timestamp : Nat) :
    (metricLines format topologyId source target result timestamp).map (read format.parse) =
        [some (metricPoint topologyId source target result timestamp)] ↔
      ∀ tag ∈ (metricPoint topologyId source target result timestamp).tags,
        ¬ oddQuotes tag.2.toList := by
  have hpath := isTag_pathType (pathType_mem htargets htarget)
  rw [metricLines, List.map_singleton, List.singleton_inj]
  refine read_line (by decide +kernel) (by decide +kernel) ?_ (List.cons_ne_nil _ _) ?_
    (List.cons_ne_nil _ _) rfl
  · refine .cons (isTag_escapeTag _ ?_) (.cons (isTag_escapeTag _ ?_) (.cons (isTag_escapeTag _ ?_)
      (.cons (isTag_escapeTag _ ?_) (.cons (isTag_escapeTag _ ?_) (.cons (isTag_escapeTag _ ?_)
        (.cons hpath (.cons (isTag_escapeTag _ ?_) .nil)))))))
    all_goals decide
  · refine .cons (isField_float format _ ?_) (.cons (isField_float format _ ?_)
      (.cons (isField_float format _ ?_) (.cons (isField_float format _ ?_)
      (.cons (isField_float format _ ?_) (.cons (isField_count _ ?_) (.cons (isField_count _ ?_)
      (.cons (isField_float format _ ?_) (.cons (isField_count _ ?_) (.cons (isField_count _ ?_)
      (.cons (isField_count _ ?_) (.cons (isField_count _ ?_) (.cons (isField_count _ ?_)
      (.cons (isField_count _ ?_) (.cons (isField_count _ ?_) (.cons (isField_count _ ?_)
      (.cons (isField_count _ ?_) .nil))))))))))))))))
    all_goals decide

/-- A line of the collector or of an agent is read back if and only if the double quotes of each tag
are even in number. -/
theorem lines_read_back (format : F64Text F64) :
    (∀ (line : Bgp.Line) (topologyId : String),
      read format.parse (line.text topologyId) = some (line.point F64 topologyId) ↔
        ∀ tag ∈ (line.point F64 topologyId).tags, ¬ oddQuotes tag.2.toList) ∧
    ∀ (config : ClientAgentConfig) (source : Client) (targets : List Target),
      buildTargets config source = some targets →
        ∀ target ∈ targets, ∀ (topologyId : String) (result : TimedResult F64) (timestamp : Nat),
          (metricLines format topologyId source target result timestamp).map (read format.parse) =
              [some (metricPoint topologyId source target result timestamp)] ↔
            ∀ tag ∈ (metricPoint topologyId source target result timestamp).tags,
              ¬ oddQuotes tag.2.toList :=
  ⟨fun line topologyId => line.read_text topologyId,
    fun _ _ _ htargets _ htarget topologyId result timestamp =>
      read_metricLines format htargets htarget topologyId result timestamp⟩

/-- Whole numbers, which are displayed without a point. -/
def wholeNumbers : F64Text Nat where
  display := toString
  parse := String.toNat?
  parse_display := Nat.toNat?_repr
  display_shape value := .inr fun c hc => by
    rw [show toString value = value.repr from rfl, Nat.toList_repr] at hc
    exact .inl (Nat.isDigit_of_mem_toDigits (by decide) (by decide) hc)

def spacedClient : Client where
  name := "client 1"
  dataIp := .ofOctets 192 0 2 1
  managementIp := .ofOctets 172 20 20 11
  rack := "rack1"
  leaf := "leaf=1"

def commaClient : Client where
  name := "client,2"
  dataIp := .ofOctets 192 0 2 2
  managementIp := .ofOctets 172 20 20 12
  rack := "rack2"
  leaf := "leaf\\2"

def twoClients : ClientAgentConfig where
  schemaVersion := 1
  topologyId := "lab"
  pingmeshPolicy :=
    { destinationBatchSize := none, rttPortPoolSize := 1, rttPortsPerCycle := 1
      cycleIntervalSeconds := 1, destinationBatchCount := 1, portBatchCount := 1
      coverageEpochCycles := 1, coverageEpochSeconds := 1, dfPayloadSize := 64 }
  clients := [spacedClient, commaClient]

def noLosses : TimedResult Nat where
  packetsSent := 4
  packetsLost := 0
  rttPortsActive := 1
  rttPortsTotal := 1
  probeCycle := 7
  destinationBatchIndex := 0
  portBatchIndex := 0
  dfPacketsSent := 1
  dfPacketsLost := 0
  dfMtuDrops := 0
  localProbeErrors := 0
  rttMin := 1
  rttAvg := 2
  rttMax := 3
  rttP90 := 3
  rttP99 := 3
  packetLoss := 0

def refused (source : String) : Bgp.Line :=
  .collection { source, time := 5, collectionOk := false, errorType := "no \"bgpd\", exit=1" }

theorem twoClients_read_back :
    read wholeNumbers.parse ((refused "leaf 1").text "lab") =
        some ((refused "leaf 1").point Nat "lab") ∧
      (metricLines wholeNumbers "lab" spacedClient
          { client := commaClient, pathType := "cross_rack" } noLosses 123).map
            (read wholeNumbers.parse) =
        [some (metricPoint "lab" spacedClient { client := commaClient, pathType := "cross_rack" }
          noLosses 123)] := by
  obtain ⟨hcollector, hagent⟩ := lines_read_back wholeNumbers
  constructor
  · exact (hcollector (refused "leaf 1") "lab").mpr (by decide +kernel)
  · exact (hagent twoClients spacedClient _ (by rfl) _ List.mem_cons_self "lab" noLosses 123).mpr
      (by decide +kernel)

/-- The quote of the device name is closed in the error text, so that the tags take in the fields. -/
theorem quotedDevice_not_read_back :
    read wholeNumbers.parse ((refused "leaf\"1").text "lab") ≠
      some ((refused "leaf\"1").point Nat "lab") := fun hread =>
  absurd ((refused "leaf\"1").read_text "lab" |>.mp hread) (by decide +kernel)

end NetOpsBench.Pingmesh
