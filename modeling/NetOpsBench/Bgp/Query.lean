import NetOpsBench.Bgp.Collector
import NetOpsBench.Data.Flux

/-!
# Querying BGP events

The two ways in which `query_bgp_events` finds the events of a time window: the snapshot path folds
every sample of a session, the indexed path rebuilds the session from its transitions and its first,
last and prior sample. The order in which the events are listed is left to the caller.

The snapshot path is `buildBgpEvents` over `queryBgpEventSnapshotRows`, the indexed path
`buildBgpEventsFast` over `queryBgpEventFastRows`. Both end in `sessionEventType`. A query is its meaning
on the points of a `Store`, by the pipeline stages of `Data.Flux`.
-/

namespace NetOpsBench.Bgp
open Flux

/-! ## The store -/

/-- The points of a bucket: the last write of a series and time wins, field by field. -/
structure Store where
  neighbors : List NeighborPoint
  transitions : List TransitionPoint
  collections : List CollectionPoint

def NeighborPoint.session (point : NeighborPoint) : String × String :=
  (point.source, point.neighborAddress)

def NeighborPoint.merge (old new : NeighborPoint) : NeighborPoint :=
  { new with asn := new.asn.or old.asn, prefixesReceived := new.prefixesReceived.or old.prefixesReceived }

def TransitionPoint.session (point : TransitionPoint) : String × String :=
  (point.source, point.neighborAddress)

def TransitionPoint.merge (old new : TransitionPoint) : TransitionPoint :=
  { new with
    asn := new.asn.or old.asn
    prefixesBefore := new.prefixesBefore.or old.prefixesBefore
    prefixesAfter := new.prefixesAfter.or old.prefixesAfter }

def Line.neighbor? : Line → Option NeighborPoint
  | neighbor point => some point
  | _ => none

def Line.transition? : Line → Option TransitionPoint
  | transition point => some point
  | _ => none

def Line.collection? : Line → Option CollectionPoint
  | collection point => some point
  | _ => none

def Store.ofLines (lines : List Line) : Store where
  neighbors := upsert (fun point => (point.session, point.time)) NeighborPoint.merge
    (lines.filterMap Line.neighbor?)
  transitions := upsert (fun point => (point.session, point.eventType, point.time))
    TransitionPoint.merge (lines.filterMap Line.transition?)
  collections := upsert (fun point => (point.source, point.time)) (fun _ new => new)
    (lines.filterMap Line.collection?)

/-! ## Scope and filters -/

/-- An absolute time scope, and the instant thirty days before the query is made. -/
structure Scope where
  start : Nat
  stop : Nat
  lookback : Nat
  start_lt_stop : start < stop

inductive StateFilter where
  | nonEstablished
  | all
  | established
deriving DecidableEq, Repr

structure Filters where
  device : Option String
  peer : Option String
  role : Option String
  state : StateFilter

/-- `not filter or value == filter` -/
def admits (filter : Option String) (value : String) : Bool :=
  match Python.truthy filter with
  | none => true
  | some expected => value = expected

/-- The roles of the routing devices. -/
abbrev Roles := Dict String String

def selectedDevices (roles : Roles) (filters : Filters) : List String :=
  roles.entries.filterMap fun entry =>
    if admits filters.device entry.1 ∧ admits filters.role entry.2 then some entry.1 else none

/-- The filters of a query on the source: the device, or the devices of the role. -/
def deviceFilter (roles : Roles) (filters : Filters) (source : String) : Bool :=
  admits filters.device source &&
    if (Python.truthy filters.role).isSome ∧ Python.truthy filters.device = none then
      source ∈ selectedDevices roles filters
    else
      true

def sessionFilter (roles : Roles) (filters : Filters) (session : String × String) : Bool :=
  deviceFilter roles filters session.1 && admits filters.peer session.2

/-- The sources that the event builders look at. -/
def admitsSource (roles : Roles) (filters : Filters) (source : String) : Bool :=
  source ≠ "" && match roles.lookup source with
    | none => false
    | some role => admits filters.role role

/-- The samples of the window and the samples before it that the queries read. -/
def windowNeighbors (store : Store) (scope : Scope) (select : String × String → Bool) :
    List NeighborPoint :=
  (range NeighborPoint.time scope.start scope.stop store.neighbors).filter (select ·.session)

def priorNeighbors (store : Store) (scope : Scope) (select : String × String → Bool) :
    List NeighborPoint :=
  (range NeighborPoint.time scope.lookback scope.start store.neighbors).filter (select ·.session)

def windowTransitions (store : Store) (scope : Scope) (select : String × String → Bool) :
    List TransitionPoint :=
  (range TransitionPoint.time scope.start scope.stop store.transitions).filter (select ·.session)

def windowCollections (store : Store) (scope : Scope) (select : String → Bool) :
    List CollectionPoint :=
  (range CollectionPoint.time scope.start scope.stop store.collections).filter (select ·.source)

/-! ## Events -/

inductive EventType where
  | sessionFlap
  | sessionDown
  | sessionRecovered
  | nonEstablishedObserved
  | establishedObserved
  | collectionGap
deriving DecidableEq, Repr

structure BgpEvent where
  device : String
  role : String
  peer : Option String := none
  peerAs : Option Int := none
  eventType : EventType
  previousState : Option String := none
  latestState : Option String := none
  statesObserved : List String := []
  firstSeen : Option Nat := none
  lastSeen : Option Nat := none
  sampleCount : Nat
  prefixesBefore : Option Int := none
  prefixesAfter : Option Int := none
  errorType : Option String := none
deriving DecidableEq

def isDown (change : String × String) : Bool :=
  change.1 = "ESTABLISHED" ∧ change.2 ≠ "ESTABLISHED"

def isRecovery (change : String × String) : Bool :=
  change.1 ≠ "ESTABLISHED" ∧ change.2 = "ESTABLISHED"

/-- The type of a session's event, or none for a session that the state filter leaves out. Both
builders end in this choice. -/
def sessionEventType (state : StateFilter) (changes : List (String × String))
    (states : List String) (latest : String) : Option EventType :=
  let sawDown := states.any (· ≠ "ESTABLISHED")
  let downTransition := changes.any isDown
  let recoveryTransition := changes.any isRecovery
  let eventType :=
    if downTransition && recoveryTransition then some .sessionFlap
    else if downTransition then some .sessionDown
    else if recoveryTransition then some .sessionRecovered
    else if sawDown then some .nonEstablishedObserved
    else if state = .all then some .establishedObserved
    else none
  if state = .nonEstablished ∧ ¬ sawDown then none
  else if state = .established ∧ latest ≠ "ESTABLISHED" then none
  else eventType

def missingDevices (roles : Roles) (filters : Filters) (collected : List String) : List String :=
  if Python.truthy filters.peer = none ∨ Python.truthy filters.device ≠ none then
    (selectedDevices roles filters).filter (· ∉ collected)
  else
    []

def missingEvent (roles : Roles) (source : String) : BgpEvent where
  device := source
  role := (roles.lookup source).getD ""
  eventType := .collectionGap
  sampleCount := 0
  errorType := some "no_collection_samples"

/-! ## The snapshot path -/

inductive SnapshotRow where
  | neighbor (scopePrior : Bool) (point : NeighborPoint)
  | collection (point : CollectionPoint)

/-- `pivot` keeps one row a session and time, so a row is its point. -/
def queryBgpEventSnapshotRows (store : Store) (roles : Roles) (filters : Filters) (scope : Scope) :
    List SnapshotRow :=
  ((group NeighborPoint.session (priorNeighbors store scope (sessionFilter roles filters))).flatMap
      fun table => (last NeighborPoint.time table).toList).map (.neighbor true) ++
    ((group NeighborPoint.session (windowNeighbors store scope (sessionFilter roles filters))).flatMap
      (sort NeighborPoint.time)).map (.neighbor false) ++
    ((group CollectionPoint.source (windowCollections store scope (deviceFilter roles filters))).flatMap
      (sort CollectionPoint.time)).map .collection

def snapshotSession (roles : Roles) (filters : Filters) : SnapshotRow → Option (String × String)
  | .neighbor _ point =>
    if admitsSource roles filters point.source ∧ point.neighborAddress ≠ "" then some point.session
    else none
  | .collection _ => none

def snapshotCollection (roles : Roles) (filters : Filters) : SnapshotRow → Option String
  | .neighbor .. => none
  | .collection point => if admitsSource roles filters point.source then some point.source else none

def snapshotTime : SnapshotRow → Nat
  | .neighbor _ point => point.time
  | .collection point => point.time

def scopeSample (scopePrior : Bool) : SnapshotRow → Option NeighborPoint
  | .neighbor prior point => if prior = scopePrior then some point else none
  | .collection _ => none

def NeighborPoint.read (point : NeighborPoint) : String := readState (some point.sessionState)

/-- The event of one session, from all of its rows. -/
def snapshotEvent (roles : Roles) (filters : Filters) (session : String × String)
    (samples : List SnapshotRow) : Option BgpEvent :=
  if ¬ (admits filters.device session.1 ∧ admits filters.peer session.2) then none
  else
    let samples := sort snapshotTime samples
    let prior := samples.filterMap (scopeSample true)
    let window := samples.filterMap (scopeSample false)
    match window.head?, window.getLast? with
    | some firstRow, some lastRow =>
      let states := window.map (·.read)
      let previous := prior.getLast?.map (·.read)
      let latest := lastRow.read
      let transitionStates := (Python.truthy previous).toList ++ states
      (sessionEventType filters.state (transitionStates.zip transitionStates.tail) states latest).map
        fun eventType =>
          { device := session.1, role := (roles.lookup session.1).getD "", peer := some session.2
            peerAs := lastRow.asn, eventType, previousState := previous, latestState := some latest
            statesObserved := Python.fromkeys [] states, firstSeen := some firstRow.time
            lastSeen := some lastRow.time, sampleCount := window.length
            prefixesBefore := prior.getLast?.bind (·.prefixesReceived)
            prefixesAfter := lastRow.prefixesReceived }
    | _, _ => none

def snapshotGap (roles : Roles) (source : String) (samples : List CollectionPoint) :
    Option BgpEvent :=
  match samples.getLast? with
  | some latest =>
    if latest.collectionOk then none
    else some
      { device := source, role := (roles.lookup source).getD "", eventType := .collectionGap
        firstSeen := samples.head?.map (·.time), lastSeen := some latest.time
        sampleCount := samples.length, errorType := some latest.errorType }
  | none => none

def collectionSample : SnapshotRow → Option CollectionPoint
  | .neighbor .. => none
  | .collection point => some point

def buildBgpEvents (rows : List SnapshotRow) (roles : Roles) (filters : Filters) :
    List BgpEvent :=
  let sessions : Dict (String × String) (List SnapshotRow) :=
    .accumulate (snapshotSession roles filters) (fun samples row => samples ++ [row]) [] rows
  let collections : Dict String (List SnapshotRow) :=
    .accumulate (snapshotCollection roles filters) (fun samples row => samples ++ [row]) [] rows
  sessions.entries.filterMap (fun entry => snapshotEvent roles filters entry.1 entry.2) ++
    collections.entries.filterMap (fun entry =>
      snapshotGap roles entry.1 (entry.2.filterMap collectionSample)) ++
    (missingDevices roles filters collections.keys).map (missingEvent roles)

/-! ## The indexed path -/

inductive FastRow where
  | sessionEvents (point : TransitionPoint)
  | nonEstablishedSample (point : NeighborPoint)
  | collectionLast (point : CollectionPoint)
  | collectionFirst (point : CollectionPoint)
  | collectionCount (source : String) (value : Nat)
  | firstState (point : NeighborPoint)
  | lastState (point : NeighborPoint)
  | stateCount (session : String × String) (value : Nat)
  | latestAsn (point : NeighborPoint)
  | latestPrefixes (point : NeighborPoint)
  | priorState (point : NeighborPoint)
  | priorPrefixes (point : NeighborPoint)

/-- A candidate of the discovery query: a session with a transition or a sample that is not
established. -/
def candidate : FastRow → Option (String × String)
  | .sessionEvents point =>
    if point.source ≠ "" ∧ point.neighborAddress ≠ "" then some point.session else none
  | .nonEstablishedSample point =>
    if point.source ≠ "" ∧ point.neighborAddress ≠ "" then some point.session else none
  | _ => none

def discoveryRows (store : Store) (roles : Roles) (filters : Filters) (scope : Scope) :
    List FastRow :=
  let transitions := windowTransitions store scope (sessionFilter roles filters)
  let neighbors := windowNeighbors store scope (sessionFilter roles filters)
  let collections := windowCollections store scope (deviceFilter roles filters)
  ((group (fun point => (point.session, point.eventType)) transitions).flatMap
      (sort TransitionPoint.time)).map .sessionEvents ++
    (neighbors.filter (·.sessionState ≠ "ESTABLISHED")).map .nonEstablishedSample ++
    ((group CollectionPoint.source collections).flatMap fun table =>
      (last CollectionPoint.time table).toList).map .collectionLast ++
    ((group CollectionPoint.source collections).flatMap fun table =>
      (first CollectionPoint.time table).toList).map .collectionFirst ++
    (group CollectionPoint.source collections).flatMap fun table =>
      (table.head?.map fun point => .collectionCount point.source table.length).toList

/-- What the detail queries return of the window of one session. -/
def windowDetails (table : List NeighborPoint) : List FastRow :=
  (first NeighborPoint.time table).toList.map .firstState ++
    (last NeighborPoint.time table).toList.map .lastState ++
    (table.head?.map fun point => .stateCount point.session table.length).toList ++
    (last NeighborPoint.time (table.filter (·.asn.isSome))).toList.map .latestAsn ++
    (last NeighborPoint.time (table.filter (·.prefixesReceived.isSome))).toList.map .latestPrefixes

def priorDetails (table : List NeighborPoint) : List FastRow :=
  (last NeighborPoint.time table).toList.map .priorState ++
    (last NeighborPoint.time (table.filter (·.prefixesReceived.isSome))).toList.map .priorPrefixes

/-- The detail queries, over the sessions of `select`. -/
def detailRows (store : Store) (scope : Scope) (select : String × String → Bool) :
    List FastRow :=
  (group NeighborPoint.session (windowNeighbors store scope select)).flatMap windowDetails ++
    (group NeighborPoint.session (priorNeighbors store scope select)).flatMap priorDetails

/-- The sessions whose details are read: the candidates, or all. -/
def detailFilter (roles : Roles) (filters : Filters) (candidates : List (String × String))
    (session : String × String) : Bool :=
  sessionFilter roles filters session && (filters.state = .all || session ∈ candidates)

def queryBgpEventFastRows (store : Store) (roles : Roles) (filters : Filters) (scope : Scope) :
    List FastRow :=
  let discoveryRows := discoveryRows store roles filters scope
  let candidates := discoveryRows.filterMap candidate
  if filters.state ≠ .all ∧ candidates = [] then
    discoveryRows
  else
    discoveryRows ++ detailRows store scope (detailFilter roles filters candidates)

/-- What the rows of one session leave behind. -/
structure FastSession where
  transitions : List TransitionPoint := []
  firstState : Option NeighborPoint := none
  lastState : Option NeighborPoint := none
  sampleCount : Nat := 0
  latestAsn : Option NeighborPoint := none
  latestPrefixes : Option NeighborPoint := none
  priorState : Option NeighborPoint := none
  priorPrefixes : Option NeighborPoint := none

def FastSession.add (session : FastSession) : FastRow → FastSession
  | .sessionEvents point => { session with transitions := session.transitions ++ [point] }
  | .firstState point => { session with firstState := some point }
  | .lastState point => { session with lastState := some point }
  | .stateCount _ value => { session with sampleCount := value }
  | .latestAsn point => { session with latestAsn := some point }
  | .latestPrefixes point => { session with latestPrefixes := some point }
  | .priorState point => { session with priorState := some point }
  | .priorPrefixes point => { session with priorPrefixes := some point }
  | _ => session

structure FastCollection where
  first : Option CollectionPoint := none
  last : Option CollectionPoint := none
  sampleCount : Nat := 0

def FastCollection.add (collection : FastCollection) : FastRow → FastCollection
  | .collectionFirst point => { collection with first := some point }
  | .collectionLast point => { collection with last := some point }
  | .collectionCount _ value => { collection with sampleCount := value }
  | _ => collection

/-- The session that a row belongs to; a row of the collections has none. -/
def FastRow.session : FastRow → Option (String × String)
  | sessionEvents point => some point.session
  | nonEstablishedSample point => some point.session
  | firstState point => some point.session
  | lastState point => some point.session
  | stateCount session _ => some session
  | latestAsn point => some point.session
  | latestPrefixes point => some point.session
  | priorState point => some point.session
  | priorPrefixes point => some point.session
  | _ => none

def FastRow.collection : FastRow → Option String
  | collectionLast point => some point.source
  | collectionFirst point => some point.source
  | collectionCount source _ => some source
  | _ => none

def fastSession (roles : Roles) (filters : Filters) (row : FastRow) : Option (String × String) :=
  row.session.filter fun session =>
    admitsSource roles filters session.1 ∧ session.2 ≠ "" ∧ admits filters.device session.1 ∧
      admits filters.peer session.2

def fastCollection (roles : Roles) (filters : Filters) (row : FastRow) : Option String :=
  row.collection.filter fun source => admitsSource roles filters source

def TransitionPoint.readPrevious (point : TransitionPoint) : String :=
  readState (some point.previousState)

def TransitionPoint.readLatest (point : TransitionPoint) : String :=
  readState (some point.latestState)

/-- The event of one session, from what its rows left behind. -/
def fastEvent (roles : Roles) (filters : Filters) (session : String × String)
    (record : FastSession) : Option BgpEvent :=
  let transitions := sort TransitionPoint.time record.transitions
  let lastTransition := transitions.getLast?
  -- the last transition stands in for a last sample that is missing or older
  let superseding := lastTransition.filter fun transition =>
    (record.lastState.map (·.time)).all (· ≤ transition.time)
  let latest := (superseding.map (·.readLatest)).or (record.lastState.map (·.read))
  let lastSeen := (superseding.map (·.time)).or (record.lastState.map (·.time))
  let firstState := (record.firstState.map (·.read)).or (transitions.head?.map (·.readLatest))
  match latest, firstState with
  | some latest, some firstState =>
    let previous := record.priorState.map fun point => Python.upper point.sessionState
    let timeline := (record.firstState.map fun point => (point.time, firstState)).toList ++
      transitions.map (fun transition => (transition.time, transition.readLatest)) ++
      (record.lastState.map fun point => (point.time, point.read)).toList
    let observed := Python.fromkeys [] ((sort Prod.fst timeline).map Prod.snd)
    let states := Python.fromkeys [] (if observed = [] then [firstState, latest] else observed)
    let transitionPairs := (previous.map fun previous => (previous, firstState)).toList ++
      transitions.map fun transition => (transition.readPrevious, transition.readLatest)
    (sessionEventType filters.state transitionPairs states latest).map fun eventType =>
      { device := session.1, role := (roles.lookup session.1).getD "", peer := some session.2
        peerAs := record.latestAsn.bind (·.asn), eventType, previousState := previous
        latestState := some latest, statesObserved := states
        firstSeen := (record.firstState.map (·.time)).or (transitions.head?.map (·.time)), lastSeen
        sampleCount := record.sampleCount
        prefixesBefore := record.priorPrefixes.bind fun point =>
          if some point.time = record.priorState.map (·.time) then point.prefixesReceived else none
        prefixesAfter := record.latestPrefixes.bind fun point =>
          if some point.time = lastSeen then point.prefixesReceived else none }
  | _, _ => none

def fastGap (roles : Roles) (source : String) (collection : FastCollection) : Option BgpEvent :=
  if (collection.last.map (·.collectionOk)).getD false then none
  else some
    { device := source, role := (roles.lookup source).getD "", eventType := .collectionGap
      firstSeen := collection.first.map (·.time), lastSeen := collection.last.map (·.time)
      sampleCount := collection.sampleCount, errorType := collection.last.map (·.errorType) }

def buildBgpEventsFast (rows : List FastRow) (roles : Roles) (filters : Filters) :
    List BgpEvent :=
  let sessions : Dict (String × String) FastSession :=
    .accumulate (fastSession roles filters) FastSession.add {} rows
  let collections : Dict String FastCollection :=
    .accumulate (fastCollection roles filters) FastCollection.add {} rows
  sessions.entries.filterMap (fun entry => fastEvent roles filters entry.1 entry.2) ++
    collections.entries.filterMap (fun entry => fastGap roles entry.1 entry.2) ++
    (missingDevices roles filters collections.keys).map (missingEvent roles)

end NetOpsBench.Bgp
