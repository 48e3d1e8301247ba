import NetOpsBench.Data.Dict
import NetOpsBench.Data.Python

/-!
# Polling BGP sessions

One poll of a device becomes the lines of its spool: a snapshot of the sessions, the transitions
since the previous poll that the tracker knows of, a heartbeat of the transition index and the
outcome of the collection. A line is its point, not its text, and every line carries the topology
of the collector, which is left out.

A time is an instant that a `datetime` tells apart from the others; the polls of one device are
whole commands apart.

`buildBgpLines` and `BgpTransitionTracker.process` make the lines of a poll, which `collectDeviceBgp`
puts together; `collectPolls` runs the tracker over the polls of a process.
-/

namespace NetOpsBench.Bgp

/-- A row of the parsed summary. Its columns are the words of a line, so a state is not blank. -/
structure BgpRow where
  neighbor : String
  asn : Option Int
  state : Option String
  prefixesReceived : Option Int
  state_word : ∀ word ∈ state, ∃ c ∈ word.toList, ¬ Python.isSpace c
deriving DecidableEq

def normalizeBgpState (value : Option String) : String :=
  match Python.truthy value with
  | none => "UNKNOWN"
  | some value => Python.upper (Python.strip value)

/-- What `str(value or "UNKNOWN").upper()` reads back from a stored state. -/
def readState (value : Option String) : String :=
  Python.upper ((Python.truthy value).getD "UNKNOWN")

def BgpRow.sessionState (row : BgpRow) : String := normalizeBgpState row.state

/-- A stored state is read back as it was written. -/
theorem BgpRow.readState_sessionState (row : BgpRow) :
    readState (some row.sessionState) = row.sessionState := by
  have hread : ∀ state, state ≠ "" → Python.upper state = state → readState (some state) = state := by
    intro state hne hupper
    rw [readState, Python.truthy_some hne, Option.getD_some, hupper]
  unfold sessionState normalizeBgpState
  cases hstate : Python.truthy row.state with
  | none => exact hread _ (by decide) (by decide)
  | some word =>
    have hword := row.state_word word (Python.truthy_eq_some.mp hstate).1
    exact hread _ (Python.upper_ne_empty (Python.strip_ne_empty hword)) (Python.upper_upper _)

/-! ## Lines -/

structure NeighborPoint where
  source : String
  neighborAddress : String
  time : Nat
  sessionState : String
  asn : Option Int
  prefixesReceived : Option Int
deriving DecidableEq

structure CollectionPoint where
  source : String
  time : Nat
  collectionOk : Bool
  errorType : String
deriving DecidableEq

structure EventIndexPoint where
  source : String
  time : Nat
  collectionOk : Bool
deriving DecidableEq

inductive TransitionType where
  | sessionDown
  | sessionRecovered
  | sessionStateChanged
deriving DecidableEq, Repr

structure TransitionPoint where
  source : String
  neighborAddress : String
  eventType : TransitionType
  time : Nat
  previousState : String
  latestState : String
  asn : Option Int
  prefixesBefore : Option Int
  prefixesAfter : Option Int
deriving DecidableEq

inductive Line where
  | neighbor (point : NeighborPoint)
  | eventIndex (point : EventIndexPoint)
  | transition (point : TransitionPoint)
  | collection (point : CollectionPoint)
deriving DecidableEq

def buildBgpLines (device : String) (rows : List BgpRow) (time : Nat) : List Line :=
  (rows.filter (·.neighbor ≠ "")).map fun row => .neighbor
    { source := device, neighborAddress := row.neighbor, time, sessionState := row.sessionState
      asn := row.asn, prefixesReceived := row.prefixesReceived }

def buildBgpTransition (device neighbor : String) (previous current : BgpRow) (time : Nat) :
    TransitionPoint :=
  let previousState := previous.sessionState
  let latestState := current.sessionState
  { source := device, neighborAddress := neighbor, time, previousState, latestState
    eventType :=
      if previousState = "ESTABLISHED" ∧ latestState ≠ "ESTABLISHED" then .sessionDown
      else if previousState ≠ "ESTABLISHED" ∧ latestState = "ESTABLISHED" then .sessionRecovered
      else .sessionStateChanged
    asn := current.asn.or previous.asn
    prefixesBefore := previous.prefixesReceived
    prefixesAfter := current.prefixesReceived }

/-! ## The transition tracker -/

/-- The latest row of every session that the collector process has seen. -/
abbrev BgpTransitionTracker := Dict (String × String) BgpRow

/-- `{**previous, "state": "MISSING", "prefixes_received": None}` -/
def BgpRow.missing (previous : BgpRow) : BgpRow :=
  { previous with
    state := some "MISSING"
    prefixesReceived := none
    state_word := by
      intro word hword
      cases hword
      exact ⟨'M', by decide, by decide⟩ }

@[simp] theorem BgpRow.missing_sessionState (previous : BgpRow) :
    previous.missing.sessionState = "MISSING" := by
  show normalizeBgpState (some "MISSING") = "MISSING"
  decide

/-- The rows of a poll by their session: the last row of a neighbor counts. -/
def currentRows (device : String) (rows : List BgpRow) : Dict (String × String) BgpRow :=
  .ofItems ((rows.filter (·.neighbor ≠ "")).map fun row => ((device, row.neighbor), row))

/-- The tracked sessions that the poll of `device` no longer lists. -/
def missingRows (tracker : BgpTransitionTracker) (device : String) (rows : List BgpRow) :
    Dict (String × String) BgpRow :=
  Dict.filterMap (fun key previous =>
    if key.1 = device ∧ key ∉ currentRows device rows ∧ previous.sessionState ≠ "MISSING" then
      some previous.missing
    else
      none) tracker

/-- The transition of a tracked session to the row `current`. -/
def transitionTo (tracker : BgpTransitionTracker) (time : Nat) (key : String × String)
    (current : BgpRow) : Option Line :=
  (tracker.lookup key).bind fun previous =>
    if previous.sessionState ≠ current.sessionState then
      some (.transition (buildBgpTransition key.1 key.2 previous current time))
    else
      none

/-- The sessions of a poll are distinct keys, so the updates of its loops commute, and each of
them sees the row that the tracker had before the poll. -/
def BgpTransitionTracker.process (tracker : BgpTransitionTracker) (device : String)
    (rows : List BgpRow) (time : Nat) (collectionOk : Bool) : BgpTransitionTracker × List Line :=
  let heartbeat := Line.eventIndex { source := device, time, collectionOk }
  if !collectionOk then
    (tracker, [heartbeat])
  else
    let current := currentRows device rows
    let missing := missingRows tracker device rows
    (missing ∪ (current ∪ tracker),
      heartbeat ::
        (current.entries.filterMap (fun entry => transitionTo tracker time entry.1 entry.2) ++
          missing.entries.filterMap fun entry => transitionTo tracker time entry.1 entry.2))

/-! ## One poll -/

inductive PollError where
  | commandFailed
  | parserFailed
  | timeout
  | collectorError
deriving DecidableEq, Repr

def PollError.text : PollError → String
  | commandFailed => "command_failed"
  | parserFailed => "parser_failed"
  | timeout => "timeout"
  | collectorError => "collector_error"

/-- What the command on the device came to: its parsed rows, or an error and no rows. -/
inductive PollResult where
  | listed (rows : List BgpRow)
  | failed (error : PollError)
deriving DecidableEq

def PollResult.parsed : PollResult → List BgpRow
  | listed rows => rows
  | failed _ => []

def PollResult.errorType : PollResult → String
  | listed _ => ""
  | failed error => error.text

def PollResult.ok (result : PollResult) : Bool := result.errorType = ""

structure Poll where
  device : String
  time : Nat
  result : PollResult
  includeFullSnapshot : Bool
deriving DecidableEq

def collectDeviceBgp (tracker : BgpTransitionTracker) (poll : Poll) :
    BgpTransitionTracker × List Line :=
  let rows := poll.result.parsed
  let snapshotRows :=
    if poll.includeFullSnapshot then rows else rows.filter (·.sessionState ≠ "ESTABLISHED")
  let (tracker, tracked) := tracker.process poll.device rows poll.time poll.result.ok
  (tracker, buildBgpLines poll.device snapshotRows poll.time ++ tracked ++
    [.collection { source := poll.device, time := poll.time, collectionOk := poll.result.ok
                   errorType := poll.result.errorType }])

/-- The polls of a collector process in the order in which the tracker sees them, each with the
lines it emits. -/
def collectPolls (tracker : BgpTransitionTracker) :
    List Poll → BgpTransitionTracker × List (List Line)
  | [] => (tracker, [])
  | poll :: polls =>
    let (tracker, lines) := collectDeviceBgp tracker poll
    let (tracker, rest) := collectPolls tracker polls
    (tracker, lines :: rest)

end NetOpsBench.Bgp
