import NetOpsBench.Data.Fallible
import NetOpsBench.Models.InterfaceNames

/-!
# The judge of fault types

An agent names a fault in its own words. A label with the canonical form of the ground truth is
right; for any other label a judge may be asked, who answers with an object, a mapping or a text.
What the judge claims counts only if it names the type of the ground truth on both sides.

`judge_sound` says so of every label, and of whatever the judge returns or raises. The step behind it is
`judgeFaultTypeMatch_true`; `mem_supportedFaultTypes` and `canonicalizeFaultType_of_supported` say that
the names of the taxonomy are canonical.
-/

namespace NetOpsBench.Scorer
open Models

/-! ## The taxonomy -/

structure FaultSpec where
  name : String
  aliases : List String := []
  scenarioSupported : Bool := true

/-- `_build_builtin_fault_specs` -/
def builtinFaultSpecs : List FaultSpec :=
  [{ name := "link_down" }, { name := "link_flapping" }, { name := "blackhole_route" },
    { name := "static_route_misconfig", aliases := ["static_route_misconfiguration"] },
    { name := "bgp_neighbor_misconfig" }, { name := "route_policy_misconfig" },
    { name := "mtu_mismatch" }, { name := "packet_corruption" }, { name := "packet_loss" },
    { name := "high_latency" }, { name := "device_down" },
    { name := "acl_misconfig", aliases := ["acl_misconfiguration"] }]

/-- `_CANONICAL_FAULT_ALIASES` -/
def canonicalFaultAliases : List (String × String) :=
  [("static_route_misconfiguration", "static_route_misconfig")]

/-- `_builtin_alias_index`, the entry that was assigned last first. -/
def builtinAliasIndex : List (String × String) :=
  builtinFaultSpecs.foldl (fun aliases spec =>
    let canonical := (aliases.lookup spec.name).getD spec.name
    (spec.aliases.map (·, canonical)).reverse ++
      (spec.name, canonical) :: (canonical, canonical) :: aliases) canonicalFaultAliases

def canonicalizeFaultName (name : String) : String :=
  let rawName := Python.strip name
  (builtinAliasIndex.lookup rawName).getD rawName

/-- `_LEGACY_FAULT_TYPE_ALIASES` -/
def legacyFaultTypeAliases : List (String × String) :=
  [("link_failure", "link_down"),
    ("linkdown", "link_down"),
    ("link failure", "link_down"),
    ("blackhole", "blackhole_route"),
    ("black_hole", "blackhole_route"),
    ("static_route_error", "static_route_misconfig"),
    ("static_route_misconfiguration", "static_route_misconfig"),
    ("route_misconfig", "static_route_misconfig"),
    ("mtu_error", "mtu_mismatch"),
    ("bgp_peer_misconfig", "bgp_neighbor_misconfig"),
    ("bgp_peer_config_error", "bgp_neighbor_misconfig"),
    ("bgp_session_misconfig", "bgp_neighbor_misconfig"),
    ("bgp_neighbor_config_error", "bgp_neighbor_misconfig"),
    ("route_policy_error", "route_policy_misconfig"),
    ("route_policy_misconfiguration", "route_policy_misconfig"),
    ("bgp_policy_misconfig", "route_policy_misconfig"),
    ("route_origination_missing", "route_policy_misconfig"),
    ("network_statement_missing", "route_policy_misconfig"),
    ("prefix_filter_misconfig", "route_policy_misconfig"),
    ("outbound_prefix_filter", "route_policy_misconfig"),
    ("acl_misconfiguration", "acl_misconfig")]

def unknownFaultType : String := "unknown"

/-- `get_supported_scenario_faults` -/
def supportedScenarioFaults : List String :=
  (builtinFaultSpecs.filter (·.scenarioSupported)).map fun spec => canonicalizeFaultName spec.name

def supportedFaultTypes : List String :=
  supportedScenarioFaults.dedup.insertionSort fun a b => a ≤ b

def canonicalizeFaultType (faultType : Option String) : String :=
  let raw := Python.strip (faultType.getD "")
  if raw = "" then
    ""
  else
    let normalized : String := .ofList <|
      (Python.strip (lowerName raw)).toList.map fun c => if c = ' ' then '_' else c
    let normalized := (legacyFaultTypeAliases.lookup normalized).getD normalized
    (Python.truthy (some (canonicalizeFaultName normalized))).getD normalized

theorem mem_supportedFaultTypes {faultType : String} :
    faultType ∈ supportedFaultTypes ↔ faultType ∈ supportedScenarioFaults := by
  rw [supportedFaultTypes, List.mem_insertionSort, List.mem_dedup]

/-- The types of the taxonomy are in canonical form. -/
theorem canonicalizeFaultType_of_supported {faultType : String}
    (h : faultType ∈ supportedFaultTypes) : canonicalizeFaultType (some faultType) = faultType := by
  rw [mem_supportedFaultTypes] at h
  revert faultType
  decide +kernel

/-! ## The request -/

structure FaultTypeJudgeRequest where
  agentFaultType : String
  groundTruthFaultType : String
  canonicalAgentFaultType : String
  canonicalGroundTruthFaultType : String
  allowedFaultTypes : List String
  agentReasoning : String
  evidence : List String
deriving DecidableEq

def truncateText (value : String) (limit : ℕ) : String :=
  let text := Python.strip value
  if text.length ≤ limit then
    text
  else
    .ofList ((text.toList.take (limit - 3)).rdropWhile Python.isSpace) ++ "..."

def compactEvidence (evidence : List String) : List String :=
  (evidence.take 6).map (truncateText · 240)

def buildFaultTypeJudgeRequest (agentFaultType : Option String) (groundTruthFaultType : String)
    (agentReasoning : String) (evidence : List String) : FaultTypeJudgeRequest where
  agentFaultType := agentFaultType.getD ""
  groundTruthFaultType
  canonicalAgentFaultType := canonicalizeFaultType agentFaultType
  canonicalGroundTruthFaultType := canonicalizeFaultType groundTruthFaultType
  allowedFaultTypes := supportedFaultTypes
  agentReasoning := truncateText agentReasoning 1200
  evidence := compactEvidence evidence

/-! ## The judge -/

/-- What a judge raises: one of the errors that are caught, or another one. -/
inductive JudgeFailure where
  | invalid (exception : String)
  | other (exception : String)
deriving DecidableEq

/-- The fields of a result. A plain value of this type may hold anything. -/
structure FaultTypeJudgeResult where
  canonicalAgentFaultType : String
  canonicalGroundTruthFaultType : String
  isMatch : Bool
  confidence : ℚ
  reasoning : String
  matchedAliasOrDescription : Option String := none
  taxonomyViolation : Bool := false
  judgeModel : Option String := none
deriving DecidableEq

namespace FaultTypeJudgeResult

/-- `_normalize_canonical_field` -/
def normalizeCanonicalField (value : String) : String :=
  (Python.truthy (some (canonicalizeFaultType value))).getD unknownFaultType

/-- `_validate_taxonomy` -/
def validateTaxonomy (result : FaultTypeJudgeResult) : FaultTypeJudgeResult :=
  let allowed := supportedFaultTypes ++ [unknownFaultType, ""]
  if result.canonicalAgentFaultType ∉ allowed ∨
      result.canonicalGroundTruthFaultType ∉ allowed then
    { result with taxonomyViolation := true, isMatch := false }
  else
    result

/-- `model_validate` of fields that have the right types. -/
def modelValidate (fields : FaultTypeJudgeResult) : Except JudgeFailure FaultTypeJudgeResult := do
  Except.ensure (0 ≤ fields.confidence ∧ fields.confidence ≤ 1) (.invalid "ValidationError")
  return validateTaxonomy
    { fields with
      canonicalAgentFaultType := normalizeCanonicalField fields.canonicalAgentFaultType
      canonicalGroundTruthFaultType :=
        normalizeCanonicalField fields.canonicalGroundTruthFaultType }

end FaultTypeJudgeResult

/-- What a judge function may return: a result, anything else that may be a mapping, or a text. -/
inductive RawJudgment (μ : Type) where
  | result (result : FaultTypeJudgeResult)
  | mapping (value : μ)
  | text (text : String)

/-- `judgeFn` is the function that was injected, `loads` reads a JSON text, and `fields` takes the
fields of a result out of a mapping, with the types that they are declared with. -/
structure StructuredFaultTypeJudge (μ : Type) where
  judgeFn : FaultTypeJudgeRequest → Except JudgeFailure (RawJudgment μ)
  model : Option String
  loads : String → Except JudgeFailure μ
  fields : μ → Except JudgeFailure FaultTypeJudgeResult

namespace StructuredFaultTypeJudge

variable {μ : Type} (configured : StructuredFaultTypeJudge μ)

def read : RawJudgment μ → Except JudgeFailure FaultTypeJudgeResult
  | .result result => .ok result
  | .mapping value => do (← configured.fields value).modelValidate
  | .text text => do (← configured.fields (← configured.loads text)).modelValidate

def judge (request : FaultTypeJudgeRequest) : Except JudgeFailure FaultTypeJudgeResult := do
  let result ← configured.read (← configured.judgeFn request)
  return { result with judgeModel := result.judgeModel.or configured.model }

end StructuredFaultTypeJudge

/-! ## The judgment -/

/-- `details` -/
inductive JudgmentDetails where
  | deterministic (request : FaultTypeJudgeRequest) (isMatch : Bool) (confidence : ℚ)
    (reasoning : String)
  | judgeError (request : FaultTypeJudgeRequest) (reasoning : String)
  | llmJudge (judgment : FaultTypeJudgeResult)
    (groundTruthCanonicalMismatch agentCanonicalMismatch isMatch : Bool)
deriving DecidableEq

/-- What is left of the claim of a judge. -/
def reviewJudgment (request : FaultTypeJudgeRequest) (judgment : FaultTypeJudgeResult) :
    Bool × JudgmentDetails :=
  let groundTruthCanonicalMismatch : Bool :=
    judgment.canonicalGroundTruthFaultType ≠ request.canonicalGroundTruthFaultType
  let claimed := judgment.isMatch && !judgment.taxonomyViolation && !groundTruthCanonicalMismatch
  let agentCanonicalMismatch : Bool :=
    claimed && judgment.canonicalAgentFaultType ≠ request.canonicalGroundTruthFaultType
  let isMatch := claimed && !agentCanonicalMismatch
  (isMatch, .llmJudge judgment groundTruthCanonicalMismatch agentCanonicalMismatch isMatch)

/-- An error that is not caught is the outcome. -/
def judgeFaultTypeMatch
    (judge : Option (FaultTypeJudgeRequest → Except JudgeFailure FaultTypeJudgeResult))
    (agentFaultType : Option String) (groundTruthFaultType agentReasoning : String)
    (evidence : List String) : Except String (Bool × JudgmentDetails) :=
  let request :=
    buildFaultTypeJudgeRequest agentFaultType groundTruthFaultType agentReasoning evidence
  if request.canonicalAgentFaultType ≠ "" ∧
      request.canonicalAgentFaultType = request.canonicalGroundTruthFaultType then
    .ok (true, .deterministic request true 1 "canonical fault types match")
  else
    match judge with
    | none => .ok (false, .deterministic request false 1 "canonical fault types differ")
    | some judge =>
      match judge request with
      | .error (.invalid exception) =>
        .ok (false, .judgeError request s!"fault type judge failed: {exception}")
      | .error (.other exception) => .error exception
      | .ok judgment => .ok (reviewJudgment request judgment)

/-! ## Soundness -/

/-- The result names a type on both sides. -/
structure FaultTypeJudgeResult.Names (result : FaultTypeJudgeResult) (faultType : String) : Prop where
  agent : result.canonicalAgentFaultType = faultType
  groundTruth : result.canonicalGroundTruthFaultType = faultType
  claimed : result.isMatch
  lawful : ¬ result.taxonomyViolation

/-- A judgment is accepted when it names the type of the ground truth on both sides. -/
theorem reviewJudgment_fst (request : FaultTypeJudgeRequest) (judgment : FaultTypeJudgeResult) :
    (reviewJudgment request judgment).1 ↔ judgment.Names request.canonicalGroundTruthFaultType := by
  unfold reviewJudgment
  constructor
  · intro h
    simp only [Bool.and_eq_true, Bool.not_eq_true', decide_eq_false_iff_not, Bool.and_eq_false_imp,
      not_not] at h
    obtain ⟨⟨⟨hclaimed, hlawful⟩, hground⟩, hagent⟩ := h
    exact ⟨hagent ⟨⟨hclaimed, hlawful⟩, hground⟩, hground, hclaimed, by rw [hlawful]; decide⟩
  · rintro ⟨hagent, hground, hclaimed, hlawful⟩
    simp [hagent, hground, hclaimed, hlawful]

/-- A match has the canonical form of the ground truth, or was accepted from a judge. -/
theorem judgeFaultTypeMatch_true
    {judge : Option (FaultTypeJudgeRequest → Except JudgeFailure FaultTypeJudgeResult)}
    {agentFaultType : Option String} {groundTruthFaultType agentReasoning : String}
    {evidence : List String}
    (h : (judgeFaultTypeMatch judge agentFaultType groundTruthFaultType agentReasoning
      evidence).map (·.1) = .ok true) :
    canonicalizeFaultType agentFaultType = canonicalizeFaultType (some groundTruthFaultType) ∨
      ∃ configured ∈ judge, ∃ result,
        configured (buildFaultTypeJudgeRequest agentFaultType groundTruthFaultType agentReasoning
          evidence) = .ok result ∧
        result.Names (canonicalizeFaultType (some groundTruthFaultType)) := by
  unfold judgeFaultTypeMatch at h
  dsimp only at h
  split at h
  case isTrue hsame => exact .inl hsame.2
  case isFalse =>
    cases judge with
    | none => cases h
    | some configured =>
      dsimp only at h
      split at h
      case h_1 => cases h
      case h_2 => cases h
      case h_3 judgment hjudge =>
        have hmatch := Except.ok.inj h
        exact .inr ⟨configured, rfl, judgment, hjudge, (reviewJudgment_fst _ judgment).mp hmatch⟩

/-- A label is taken for the ground truth only if its canonical form is that type, or if the judge's
result names the type on both sides and neither disclaims the match nor leaves the taxonomy. -/
theorem judge_sound {μ : Type} (configured : Option (StructuredFaultTypeJudge μ))
    (agentFaultType : Option String) (groundTruthFaultType agentReasoning : String)
    (evidence : List String) (hsupported : groundTruthFaultType ∈ supportedFaultTypes)
    (h : (judgeFaultTypeMatch (configured.map (·.judge)) agentFaultType groundTruthFaultType
      agentReasoning evidence).map (·.1) = .ok true) :
    canonicalizeFaultType agentFaultType = groundTruthFaultType ∨
      ∃ judge ∈ configured, ∃ raw result,
        judge.judgeFn (buildFaultTypeJudgeRequest agentFaultType groundTruthFaultType agentReasoning
          evidence) = .ok raw ∧
        judge.read raw = .ok result ∧ result.Names groundTruthFaultType := by
  have hcanonical := canonicalizeFaultType_of_supported hsupported
  rcases judgeFaultTypeMatch_true h with hsame | ⟨judge, hjudge, result, hresult, hnames⟩
  · exact .inl (hsame.trans hcanonical)
  · obtain ⟨judge, hconfigured, rfl⟩ := Option.mem_map.mp hjudge
    obtain ⟨raw, hraw, hread⟩ := Except.bind_eq_ok.mp hresult
    obtain ⟨validated, hvalidated, hmodel⟩ := Except.bind_eq_ok.mp hread
    cases hmodel
    rw [hcanonical] at hnames
    exact .inr ⟨judge, hconfigured, raw, validated, hraw, hvalidated,
      hnames.agent, hnames.groundTruth, hnames.claimed, hnames.lawful⟩

/-- A judge whose texts are the names of the fault that it sees. -/
def namingJudge (answer : String) : StructuredFaultTypeJudge String where
  judgeFn _ := .ok (.text answer)
  model := some "judge-model"
  loads := .ok
  fields text := .ok
    { canonicalAgentFaultType := text, canonicalGroundTruthFaultType := text, isMatch := true
      confidence := 1, reasoning := "" }

theorem namingJudge_sound :
    canonicalizeFaultType (some "cable cut") = "link_down" ∨
      ∃ judge ∈ some (namingJudge "Link failure"), ∃ raw result,
        judge.judgeFn (buildFaultTypeJudgeRequest (some "cable cut") "link_down" "" []) = .ok raw ∧
        judge.read raw = .ok result ∧ result.Names "link_down" :=
  judge_sound (some (namingJudge "Link failure")) (some "cable cut") "link_down" "" []
    (mem_supportedFaultTypes.mpr (by decide +kernel)) (by decide +kernel)

end NetOpsBench.Scorer
