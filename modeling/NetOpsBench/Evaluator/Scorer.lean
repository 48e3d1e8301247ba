import NetOpsBench.Models.InterfaceNames

/-!
# The score of a diagnosis

An agent's output is compared with the ground truth of an episode. A healthy episode has an empty
ground truth, and only the verdict counts; else the score is that of the best matching location,
once the verdict is right.

`Evaluator.evaluate` is the score of an output. The judge of fault types is a field of the evaluator;
its own logic is in `FaultTypeJudge`.
-/

namespace NetOpsBench.Scorer

open Models

structure Location where
  device : Option String := none
  interface : Option String := none
deriving DecidableEq, Repr

structure AgentOutput where
  verdict : String
  faultType : Option String := none
  location : Location := {}
  evidence : List String := []
  confidence : ℚ := 0
  reasoning : String := ""
deriving DecidableEq

structure GroundTruth where
  faultType : Option String := none
  location : Option Location := none
  equivalentLocations : List Location := []
deriving DecidableEq, Repr

structure EvaluationResult where
  testcaseId : String
  correctVerdict : Bool
  correctDevice : Bool
  correctInterface : Bool
  correctFaultType : Bool
  score : ℚ
deriving DecidableEq

/-- `judge` is whether the agent's fault type matches that of the ground truth, by its reasoning and
evidence. -/
structure Evaluator where
  judge : String → String → String → List String → Bool

def normalizeName (name : String) : String :=
  .ofList ((Python.strip (lowerName name)).toList.filter fun c => c ≠ '-' ∧ c ≠ '_')

/-- A name that may be missing. -/
def normalizeInterface (interface : Option String) : String :=
  normalizeInterfaceName (interface.getD "")

/-- The best match so far, with its rank. -/
structure Match where
  device : Bool
  interface : Bool
  rank : List ℕ
deriving DecidableEq

def isBetterLocationRank (rank bestRank : List ℕ) : Bool := bestRank < rank

def matchCandidate (agent : Location) (interfaceApplicable first : Bool) (candidate : Location) :
    Match :=
  let device : Bool :=
    normalizeName (agent.device.getD "") = normalizeName (candidate.device.getD "")
  let interface : Bool := !interfaceApplicable ||
    normalizeInterface agent.interface = normalizeInterface candidate.interface
  { device, interface, rank := [device.toNat, interface.toNat, first.toNat] }

/-- `_match_location` -/
def matchLocation (agent : Location) (candidates : List Location) (interfaceApplicable : Bool) :
    Bool × Bool :=
  let best := candidates.zipIdx.foldl (fun (best : Option Match) (candidate, index) =>
    let found := matchCandidate agent interfaceApplicable (index = 0) candidate
    match best with
    | none => some found
    | some best => if isBetterLocationRank found.rank best.rank then some found else some best) none
  match best with
  | none => (false, !interfaceApplicable)
  | some best => (best.device, best.interface)

def locationScore (interfaceApplicable correctDevice correctInterface : Bool) : ℚ :=
  if interfaceApplicable then
    (if correctDevice then 1 / 2 else 0) + (if correctInterface then 1 / 2 else 0)
  else
    if correctDevice then 1 else 0

namespace Evaluator

def evaluate (evaluator : Evaluator) (output : AgentOutput) (truth : GroundTruth)
    (testcaseId : String) : EvaluationResult :=
  if truth = {} then
    let correctVerdict := output.verdict = "network_healthy"
    { testcaseId, correctVerdict, correctDevice := true, correctInterface := true,
      correctFaultType := true, score := if correctVerdict then 1 else 0 }
  else
    let correctVerdict := output.verdict = "fault_detected"
    let location := truth.location.getD {}
    let interfaceApplicable := (Python.truthy location.interface).isSome
    let (correctDevice, correctInterface) :=
      matchLocation output.location (location :: truth.equivalentLocations) interfaceApplicable
    let correctFaultType := evaluator.judge (output.faultType.getD "") (truth.faultType.getD "")
      output.reasoning output.evidence
    { testcaseId, correctVerdict, correctDevice, correctInterface, correctFaultType
      score := if correctVerdict then locationScore interfaceApplicable correctDevice correctInterface
        else 0 }

end Evaluator

end NetOpsBench.Scorer
