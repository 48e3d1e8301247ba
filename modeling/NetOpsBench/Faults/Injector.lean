import NetOpsBench.Data.Dict

/-!
# Active faults

An injected fault stays tracked until it is recovered. A recovery round tries each tracked fault
once. How an attempt ends is an input.

`recoverAll` is the round. `recoverAll_recovered` says that it has one result for each tracked fault, and
that the faults that stay tracked are those that were not recovered, in their order.
-/

namespace NetOpsBench.Faults

/-! ## What is recorded -/

/-- A route of a client, as `ip -j route show` lists it. -/
structure Route where
  dst : Option String := none
  gateway : Option String := none
  dev : Option String := none
  table : Option String := none
  metric : Option Nat := none
  protocol : Option String := none
deriving DecidableEq, Repr

/-- The snapshots are by the device and the Linux interface of an endpoint. -/
abbrev RouteSnapshots := Dict (String × String) (List Route)

/-- Of the metadata only the keys that the link handlers write are here. -/
structure ActiveFault where
  type : String
  device : Option String := none
  interface : Option String := none
  success : Bool := true
  error : Option String := none
  residualMutation : Bool := false
  peerDevice : Option String := none
  peerInterface : Option String := none
  routeSnapshots : Option RouteSnapshots := none
  taskId : Option String := none

/-- A value under a key of a result, as the checks on it see it. -/
inductive Flag where
  | missing
  | bool (value : Bool)
  | other (truthy : Bool)
deriving DecidableEq, Repr

namespace Flag

/-- `value is True` -/
def isTrue (flag : Flag) : Bool := flag = bool true

/-- `value is False` -/
def isFalse (flag : Flag) : Bool := flag = bool false

/-- `bool(value)` -/
def truthy : Flag → Bool
  | missing => false
  | bool value => value
  | other truthy => truthy

end Flag

/-- `text` is how the result prints. -/
structure RecoveryResult where
  type : String
  recovered : Flag
  retryable : Flag := .missing
  error : Option String := none
  text : String := ""
deriving DecidableEq, Repr

/-! ## The tracker -/

/-- A background control is there from its registration until it is known that its thread ended. -/
structure FaultTracker where
  activeFaults : List ActiveFault := []
  backgroundControls : List String := []

namespace FaultTracker

variable (tracker : FaultTracker)

def track (fault : ActiveFault) : FaultTracker :=
  { tracker with activeFaults := tracker.activeFaults ++ [fault] }

def trackResidual (fault : ActiveFault) (error : String) : FaultTracker :=
  tracker.track { fault with success := false, error := some error, residualMutation := true }

def removeFaults (predicate : ActiveFault → Bool) : FaultTracker :=
  { tracker with activeFaults := tracker.activeFaults.filter fun fault => !predicate fault }

def registerBackgroundControl (controlId : String) : FaultTracker :=
  { tracker with backgroundControls := tracker.backgroundControls ++ [controlId] }

/-- `ended` is whether the thread ended within the join timeout. -/
def stopBackground (controlId : String) (ended : Bool) : FaultTracker × Bool :=
  if controlId ∉ tracker.backgroundControls then
    (tracker, true)
  else if !ended then
    (tracker, false)
  else
    ({ tracker with backgroundControls := tracker.backgroundControls.erase controlId }, true)

end FaultTracker

/-! ## A recovery round -/

/-- How a handler ends, and what it does to the tracked faults meanwhile. -/
structure RecoveryAttempt where
  outcome : Except String RecoveryResult
  tracked : FaultTracker → FaultTracker := id

/-- The result of one fault. `known` are the types that the registry can recover. -/
def recoverFault (known : String → Bool) (attempt : RecoveryAttempt) (fault : ActiveFault)
    (tracker : FaultTracker) : RecoveryResult × FaultTracker :=
  if known fault.type then
    match attempt.outcome with
    | .ok result => (result, attempt.tracked tracker)
    | .error error =>
      ({ type := fault.type, recovered := .bool false, error }, attempt.tracked tracker)
  else
    ({ type := fault.type, recovered := .bool false, error := some "Unknown fault type" }, tracker)

/-- The loop over the faults from number `index` on: the results, the faults that remain, and what
the handlers made of the tracker. -/
def recoverFaults (known : String → Bool) (attempts : Nat → RecoveryAttempt) (index : Nat) :
    List ActiveFault → FaultTracker → List RecoveryResult × List ActiveFault × FaultTracker
  | [], tracker => ([], [], tracker)
  | fault :: faults, tracker =>
    let (result, tracker) := recoverFault known (attempts index) fault tracker
    let (results, remaining, tracker) := recoverFaults known attempts (index + 1) faults tracker
    (result :: results, if result.recovered.truthy then remaining else fault :: remaining, tracker)

/-- `recover_all`: the list of the tracker is replaced at the end. -/
def recoverAll (known : String → Bool) (attempts : Nat → RecoveryAttempt) (tracker : FaultTracker) :
    FaultTracker × List RecoveryResult :=
  let (results, remaining, tracker) :=
    recoverFaults known attempts 0 tracker.activeFaults tracker
  ({ tracker with activeFaults := remaining }, results)

/-- One result for each fault, and the faults that are not recovered remain, in their order. -/
structure Recovered (faults : List ActiveFault) (results : List RecoveryResult)
    (remaining : List ActiveFault) : Prop where
  length_eq : results.length = faults.length
  remaining_eq : remaining =
    ((faults.zip results).filter fun item => !item.2.recovered.truthy).map (·.1)

/-- One step for each fault: a result, and the fault remains unless it is recovered. -/
theorem recoverFaults_recovered (known : String → Bool) (attempts : Nat → RecoveryAttempt)
    (index : Nat) (faults : List ActiveFault) (tracker : FaultTracker) :
    Recovered faults (recoverFaults known attempts index faults tracker).1
      (recoverFaults known attempts index faults tracker).2.1 := by
  induction faults generalizing index tracker with
  | nil => exact ⟨rfl, rfl⟩
  | cons fault faults ih =>
    rw [recoverFaults]
    rcases recoverFault known (attempts index) fault tracker with ⟨result, next⟩
    obtain ⟨hlength, hremaining⟩ := ih (index + 1) next
    refine ⟨congrArg Nat.succ hlength, ?_⟩
    dsimp only
    rw [List.zip_cons_cons, List.filter_cons, hremaining]
    cases result.recovered.truthy <;> rfl

/-- A round has a result for each tracked fault, and keeps those that are not recovered. -/
theorem recoverAll_recovered (known : String → Bool) (attempts : Nat → RecoveryAttempt)
    (tracker : FaultTracker) :
    Recovered tracker.activeFaults (recoverAll known attempts tracker).2
      (recoverAll known attempts tracker).1.activeFaults :=
  recoverFaults_recovered known attempts 0 tracker.activeFaults tracker

end NetOpsBench.Faults
