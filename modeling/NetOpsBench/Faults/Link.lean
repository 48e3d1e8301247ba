import NetOpsBench.Faults.Injector
import NetOpsBench.Models.InterfaceNames
import NetOpsBench.Models.Topology

/-!
# Link faults

A link fault sets both ends of a link down. The routes of a client through its end are lost with it,
so they are recorded before. How each command ends, and whether it took effect, is an input; what a
command reads is the state of the network.

The network is one `Port` for each interface. `injectLinkDown` and `injectLinkFlapping` start a fault;
`recoverLinkDown` and `recoverLinkFlapping` end it, from whatever state the ports are in by then.
-/

namespace NetOpsBench.Faults
open Models

/-! ## The network -/

/-- One interface of a device: its flags, and its routes. `connected` are the routes that the kernel
adds when the interface comes up. -/
structure Port where
  flags : List String
  connected : List Route := []
  routes : List Route := []
deriving DecidableEq, Repr

/-- The interfaces, by their device and Linux name. -/
abbrev Network := String × String → Port

namespace Port

def IsUp (port : Port) : Prop := "UP" ∈ port.flags

instance (port : Port) : Decidable port.IsUp := inferInstanceAs (Decidable (_ ∈ _))

def raise (port : Port) : Port :=
  if port.IsUp then port
  else { port with flags := "UP" :: port.flags, routes := port.connected ++ port.routes }

def lower (port : Port) : Port :=
  { port with flags := port.flags.filter (· ≠ "UP"), routes := [] }

def setAdmin (port : Port) (enabled applied : Bool) : Port :=
  if applied then if enabled then port.raise else port.lower else port

/-- The route takes the place of one with the same destination and metric. -/
def replaceRoute (port : Port) (route : Route) : Port :=
  { port with routes := route :: port.routes.filter fun other =>
      ¬ (other.dst = route.dst ∧ other.metric = route.metric) }

end Port

/-! ## Commands -/

/-- A command may fail after it took effect. -/
structure CommandOutcome where
  returncode : Int := 0
  stdout : String := ""
  stderr : String := ""
  applied : Bool := true
deriving DecidableEq, Repr

/-- `(first or second or "").strip()` of some texts. -/
def firstText (texts : List String) : String := Python.strip ((texts.find? (· ≠ "")).getD "")

def orText (text default : String) : String := if text = "" then default else text

def CommandOutcome.text (outcome : CommandOutcome) : String :=
  firstText [outcome.stderr, outcome.stdout]

/-- How `ip -j route show` ends; `invalid` is what the JSON decoder says about its output. -/
structure RouteRead where
  command : CommandOutcome := {}
  invalid : Option String := none
deriving DecidableEq, Repr

structure AdminOutcome where
  config : CommandOutcome := {}
  fallback : CommandOutcome := {}
  readback : CommandOutcome := {}
deriving DecidableEq, Repr

/-- A replacement that reports success took effect. -/
structure RestoreOutcome where
  read : RouteRead
  replace : Nat → CommandOutcome
  verify : RouteRead
  replace_applied : ∀ index, (replace index).returncode = 0 → (replace index).applied

/-- Every command succeeds. -/
def RestoreOutcome.ok : RestoreOutcome where
  read := {}
  replace _ := {}
  verify := {}
  replace_applied _ _ := rfl

structure RaiseOutcome where
  admin : AdminOutcome := {}
  restore : RestoreOutcome := .ok

/-! ## Endpoints -/

structure Endpoint where
  device : String
  container : String
  sonicIf : String
  linuxIf : String
deriving DecidableEq, Repr

def Endpoint.key (endpoint : Endpoint) : String × String := (endpoint.device, endpoint.linuxIf)

/-- The Linux name of the SONiC name is the Linux name. -/
def CanonicalInterface (interface : String) : Prop :=
  toLinuxInterface (toSonicInterface interface) = toLinuxInterface interface

/-- The manifest, whose links are between ports with canonical names. -/
structure FaultRuntimeContext where
  manifest : TopologyManifest
  canonical : ∀ link ∈ manifest.links,
    CanonicalInterface link.endpoints.1.interface ∧ CanonicalInterface link.endpoints.2.interface

namespace FaultRuntimeContext

variable (ctx : FaultRuntimeContext)

/-- `container_names.get(device)` -/
def containerName (device : String) : Option String :=
  if device ∈ ctx.manifest.devices.map (·.name) then
    some ("clab-" ++ ctx.manifest.name ++ "-" ++ device)
  else
    none

def isClient (device : String) : Bool :=
  (ctx.manifest.devices.find? (·.name = device)).any (·.role = .client)

/-- `_endpoint` -/
def endpoint (device interface : String) : Except String Endpoint :=
  match ctx.containerName device with
  | none => .error ("Unknown device: " ++ device)
  | some container =>
    .ok
      { device
        container
        sonicIf := toSonicInterface interface
        linuxIf := toLinuxInterface interface }

/-- The end of a link with this device and Linux name, before the other end. -/
def findEnd (device linuxIf : String) : List Link → Option (LinkEndpoint × LinkEndpoint)
  | [] => none
  | link :: links =>
    let (first, second) := link.endpoints
    if first.device = device ∧ toLinuxInterface first.interface = linuxIf then
      some (first, second)
    else if second.device = device ∧ toLinuxInterface second.interface = linuxIf then
      some (second, first)
    else
      findEnd device linuxIf links

/-- `_link_endpoints` -/
def linkEndpoints (device interface : String) : Except String (Endpoint × Endpoint) :=
  match findEnd device (toLinuxInterface interface) ctx.manifest.links with
  | none => .error ("Interface is not a topology link endpoint: " ++ device ++ ":" ++ interface)
  | some (this, peer) => do
    let target ← ctx.endpoint device this.interface
    let peer ← ctx.endpoint peer.device peer.interface
    return (target, peer)

end FaultRuntimeContext

/-! ## The routes of a client -/

namespace Route

def dstText (route : Route) : String := orText (route.dst.getD "") "default"

/-- `_route_identity` -/
def identity (route : Route) : String × String × String × String :=
  (route.dstText, route.gateway.getD "", route.dev.getD "", orText (route.table.getD "") "main")

/-- The route that `ip route replace` puts in for a recorded one. -/
def restored (route : Route) : Route where
  dst := route.dstText
  gateway := Python.truthy route.gateway
  metric := route.metric
  protocol := "boot"

end Route

/-- The routes of the client at an endpoint that the kernel does not add itself. -/
def clientRoutes (ctx : FaultRuntimeContext) (network : Network) (endpoint : Endpoint) : List Route :=
  if ctx.isClient endpoint.device then
    (network endpoint.key).routes.filter (·.protocol ≠ some "kernel")
  else
    []

def endpointText (endpoint : Endpoint) : String := endpoint.device ++ ":" ++ endpoint.linuxIf

/-- `_snapshot_client_routes` -/
def snapshotClientRoutes (ctx : FaultRuntimeContext) (endpoint : Endpoint) (read : RouteRead)
    (network : Network) : Except String (List Route) :=
  if !ctx.isClient endpoint.device then
    .ok []
  else if read.command.returncode ≠ 0 then
    .error (orText read.command.text ("failed to snapshot routes for " ++ endpointText endpoint))
  else
    match read.invalid with
    | some error =>
      .error ("invalid route snapshot for " ++ endpointText endpoint ++ ": " ++ error)
    | none => .ok (clientRoutes ctx network endpoint)

/-- The loop of `_restore_client_routes` over the routes from number `index` on: the port and the
errors that it leaves. -/
def replaceRoutes (current : List Route) (outcomes : Nat → CommandOutcome) (index : Nat) :
    List Route → Port → Port × List String
  | [], port => (port, [])
  | route :: routes, port =>
    if route.identity ∈ current.map (·.identity) then
      replaceRoutes current outcomes (index + 1) routes port
    else
      let outcome := outcomes index
      let (port, errors) := replaceRoutes current outcomes (index + 1) routes
        (if outcome.applied then port.replaceRoute route.restored else port)
      (port,
        if outcome.returncode ≠ 0 then
          orText outcome.text ("failed to restore " ++ route.dstText) :: errors
        else
          errors)

/-- `_restore_client_routes`, and the error if it fails. -/
def restoreClientRoutes (endpoint : Endpoint) (routes : List Route) (outcome : RestoreOutcome)
    (network : Network) : Network × Option String :=
  if routes = [] then
    (network, none)
  else if outcome.read.command.returncode ≠ 0 then
    (network, some (orText outcome.read.command.text
      ("failed to read routes for " ++ endpointText endpoint)))
  else
    match outcome.read.invalid with
    | some error =>
      (network, some ("invalid route readback for " ++ endpointText endpoint ++ ": " ++ error))
    | none =>
      let (port, errors) := replaceRoutes (network endpoint.key).routes outcome.replace 0 routes
        (network endpoint.key)
      let restored :=
        if outcome.verify.command.returncode = 0 ∧ outcome.verify.invalid = none then port.routes
        else []
      let missing := routes.filter fun route => route.identity ∉ restored.map (·.identity)
      let errors := errors ++
        if missing = [] then []
        else ["missing route readback: " ++ ", ".intercalate (missing.map (·.dstText))]
      (Function.update network endpoint.key port,
        if errors = [] then none else some ("; ".intercalate errors))

/-! ## Both ends of a link -/

/-- `_set_link_admin_state`, and the error if it fails. -/
def setLinkAdminState (endpoint : Endpoint) (enabled : Bool) (outcome : AdminOutcome)
    (network : Network) : Network × Option String :=
  let configured := (network endpoint.key).setAdmin enabled outcome.config.applied
  let (port, result) :=
    if outcome.config.returncode ≠ 0 then
      (configured.setAdmin enabled outcome.fallback.applied, outcome.fallback)
    else
      (configured, outcome.config)
  (Function.update network endpoint.key port,
    if result.returncode = 0 ∧ outcome.readback.returncode = 0 ∧ port.flags ≠ [] ∧
        decide port.IsUp = enabled then
      none
    else
      some (orText
        (firstText [result.stderr, result.stdout, outcome.readback.stderr, outcome.readback.stdout])
        (endpoint.device ++ ":" ++ endpoint.sonicIf ++ " did not reach " ++
          (if enabled then "up" else "down") ++ " state")))

def snapshotOf (snapshots : Option RouteSnapshots) (endpoint : Endpoint) : List Route :=
  (snapshots.bind (·.lookup endpoint.key)).getD []

/-- One end is set up and its routes are restored. -/
def raiseEndpoint (snapshots : Option RouteSnapshots) (outcome : RaiseOutcome) (endpoint : Endpoint)
    (network : Network) : Network × Option String :=
  match setLinkAdminState endpoint true outcome.admin network with
  | (network, some error) => (network, some error)
  | (network, none) =>
    restoreClientRoutes endpoint (snapshotOf snapshots endpoint) outcome.restore network

/-- Some ends, with their numbers, are set up one after the other. -/
def raiseEndpoints (label : String) (snapshots : Option RouteSnapshots)
    (outcomes : Nat → RaiseOutcome) : List (Endpoint × Nat) → Network → Network × List String
  | [], network => (network, [])
  | (endpoint, index) :: endpoints, network =>
    let (network, error) := raiseEndpoint snapshots (outcomes index) endpoint network
    let (network, errors) := raiseEndpoints label snapshots outcomes endpoints network
    (network, match error with
      | some error => (label ++ endpoint.device ++ ":" ++ endpoint.sonicIf ++ ": " ++ error) :: errors
      | none => errors)

/-- The ends from number `index` on are set down until one fails: those that were attempted, and the
error. -/
def lowerEndpoints (outcomes : Nat → AdminOutcome) (index : Nat) :
    List Endpoint → Network → Network × List (Endpoint × Nat) × Option String
  | [], network => (network, [], none)
  | endpoint :: endpoints, network =>
    match setLinkAdminState endpoint false (outcomes index) network with
    | (network, some error) =>
      (network, [(endpoint, index)],
        some (endpoint.device ++ ":" ++ endpoint.sonicIf ++ ": " ++ error))
    | (network, none) =>
      let (network, attempted, error) := lowerEndpoints outcomes (index + 1) endpoints network
      (network, (endpoint, index) :: attempted, error)

structure LinkResult where
  success : Bool
  error : Option String
  compensated : Option Bool
  residualMutation : Bool
deriving DecidableEq, Repr

def joinErrors (errors : List String) : Option String :=
  if errors = [] then none else some ("; ".intercalate errors)

/-- `_set_physical_link(enabled=True)` -/
def raisePhysicalLink (endpoints : Endpoint × Endpoint) (snapshots : Option RouteSnapshots)
    (outcomes : Nat → RaiseOutcome) (network : Network) : Network × LinkResult :=
  let (network, errors) := raiseEndpoints "" snapshots outcomes
    [(endpoints.1, 0), (endpoints.2, 1)] network
  (network,
    { success := errors = []
      error := joinErrors errors
      compensated := none
      residualMutation := false })

/-- `_set_physical_link(enabled=False)`: after a failure every end that was attempted is set up
again, the last one first. -/
def lowerPhysicalLink (endpoints : Endpoint × Endpoint) (snapshots : Option RouteSnapshots)
    (outcomes : Nat → AdminOutcome) (compensations : Nat → RaiseOutcome) (network : Network) :
    Network × LinkResult :=
  match lowerEndpoints outcomes 0 [endpoints.1, endpoints.2] network with
  | (network, _, none) =>
    (network,
      { success := true
        error := none
        compensated := some false
        residualMutation := false })
  | (network, attempted, some error) =>
    let (network, errors) :=
      raiseEndpoints "compensation " snapshots compensations attempted.reverse network
    (network,
      { success := false
        error := joinErrors (error :: errors)
        compensated := some (errors = [])
        residualMutation := errors ≠ [] })

/-! ## The handlers -/

inductive LinkFault where
  | linkDown
  | linkFlapping
deriving DecidableEq, Repr

/-- What an injection meets; `taskId` is what the time makes of the task's name. -/
structure InjectionOutcome where
  snapshot : Nat → RouteRead := fun _ => {}
  shutdown : Nat → AdminOutcome := fun _ => {}
  compensation : Nat → RaiseOutcome := fun _ => {}
  taskId : String := ""

/-- What a recovery meets; `ended` is whether the flapping thread ends in time. -/
structure RecoveryOutcome where
  ended : Bool := true
  startup : Nat → RaiseOutcome := fun _ => {}

/-- An injected fault: its record, and whether the injection succeeded. -/
structure FaultInfo where
  fault : ActiveFault
  success : Bool

/-- The first steps of both handlers: the ends of the link and the snapshots of their routes. -/
def prepareLink (ctx : FaultRuntimeContext) (device interface : String)
    (snapshot : Nat → RouteRead) (network : Network) :
    Except String ((Endpoint × Endpoint) × RouteSnapshots) := do
  let (target, peer) ← ctx.linkEndpoints device interface
  let targetRoutes ← snapshotClientRoutes ctx target (snapshot 0) network
  let peerRoutes ← snapshotClientRoutes ctx peer (snapshot 1) network
  return ((target, peer), .ofItems [(target.key, targetRoutes), (peer.key, peerRoutes)])

def injectLinkDown (ctx : FaultRuntimeContext) (device interface : String)
    (outcome : InjectionOutcome) (network : Network) (tracker : FaultTracker) :
    Network × FaultTracker × Except String FaultInfo :=
  match prepareLink ctx device interface outcome.snapshot network with
  | .error error => (network, tracker, .error error)
  | .ok ((target, peer), snapshots) =>
    let (network, result) :=
      lowerPhysicalLink (target, peer) snapshots outcome.shutdown outcome.compensation network
    let fault : ActiveFault :=
      { type := "link_down"
        device
        interface := target.sonicIf
        peerDevice := peer.device
        peerInterface := peer.sonicIf
        routeSnapshots := snapshots
        success := result.success
        error := result.error }
    (network,
      if result.success then tracker.track fault
      else if result.residualMutation then
        tracker.trackResidual fault (orText (result.error.getD "") "link compensation failed")
      else tracker,
      .ok { fault, success := result.success })

/-- Only the first shutdown happens here: the loop that goes on flapping belongs to the time after. -/
def injectLinkFlapping (ctx : FaultRuntimeContext) (device interface : String)
    (outcome : InjectionOutcome) (network : Network) (tracker : FaultTracker) :
    Network × FaultTracker × Except String FaultInfo :=
  match prepareLink ctx device interface outcome.snapshot network with
  | .error error => (network, tracker, .error error)
  | .ok ((target, peer), snapshots) =>
    let (network, initial) :=
      lowerPhysicalLink (target, peer) snapshots outcome.shutdown outcome.compensation network
    if !initial.success then
      -- neither the peer nor the snapshots are recorded here
      let fault : ActiveFault :=
        { type := "link_flapping"
          device
          interface := target.sonicIf
          success := false
          error := initial.error }
      (network,
        if initial.residualMutation then
          tracker.trackResidual fault
            (orText (initial.error.getD "") "link-flapping compensation failed")
        else tracker,
        .ok { fault, success := false })
    else
      let controlId := "link-flap:" ++ device ++ ":" ++ target.sonicIf ++ ":" ++ outcome.taskId
      let fault : ActiveFault :=
        { type := "link_flapping"
          device
          interface := target.sonicIf
          peerDevice := peer.device
          peerInterface := peer.sonicIf
          routeSnapshots := snapshots
          taskId := controlId }
      (network, (tracker.registerBackgroundControl controlId).track fault,
        .ok { fault, success := true })

def LinkFault.inject : LinkFault → FaultRuntimeContext → String → String → InjectionOutcome →
    Network → FaultTracker → Network × FaultTracker × Except String FaultInfo
  | linkDown => injectLinkDown
  | linkFlapping => injectLinkFlapping

/-- The ends of a link for its recovery: the recorded peer, or else the one in the manifest. -/
def recoveryEndpoints (ctx : FaultRuntimeContext) (device interface : String)
    (peerDevice peerInterface : Option String) : Except String (Endpoint × Endpoint) := do
  let (target, discovered) ← ctx.linkEndpoints device interface
  match Python.truthy peerDevice, Python.truthy peerInterface with
  | some peerDevice, some peerInterface =>
    let peer ← ctx.endpoint peerDevice peerInterface
    return (target, peer)
  | _, _ => return (target, discovered)

def sameFault (type device interface : String) (fault : ActiveFault) : Bool :=
  fault.type = type ∧ fault.device = some device ∧ fault.interface = some interface

def recoverLinkDown (ctx : FaultRuntimeContext) (device interface : String)
    (peerDevice peerInterface : Option String) (snapshots : Option RouteSnapshots)
    (outcome : RecoveryOutcome) (network : Network) (tracker : FaultTracker) :
    Network × FaultTracker × Except String RecoveryResult :=
  match recoveryEndpoints ctx device interface peerDevice peerInterface with
  | .error error => (network, tracker, .error error)
  | .ok (target, peer) =>
    let (network, result) := raisePhysicalLink (target, peer) snapshots outcome.startup network
    (network,
      if result.success then tracker.removeFaults (sameFault "link_down" device target.sonicIf)
      else tracker,
      .ok { type := "link_down", recovered := .bool result.success, error := result.error })

def recoverLinkFlapping (ctx : FaultRuntimeContext) (device interface : String)
    (taskId peerDevice peerInterface : Option String) (snapshots : Option RouteSnapshots)
    (outcome : RecoveryOutcome) (network : Network) (tracker : FaultTracker) :
    Network × FaultTracker × Except String RecoveryResult :=
  let (tracker, stopped) :=
    match Python.truthy taskId with
    | some taskId => tracker.stopBackground taskId outcome.ended
    | none => (tracker, true)
  match recoveryEndpoints ctx device interface peerDevice peerInterface with
  | .error error => (network, tracker, .error error)
  | .ok (target, peer) =>
    let (network, result) := raisePhysicalLink (target, peer) snapshots outcome.startup network
    let recovered := stopped && result.success
    (network,
      if recovered then tracker.removeFaults (sameFault "link_flapping" device target.sonicIf)
      else tracker,
      .ok
        { type := "link_flapping"
          recovered := .bool recovered
          error :=
            if stopped then result.error
            else some ("; ".intercalate
              ("failed to stop link flapping task" :: (Python.truthy result.error).toList)) })

/-- The recovery of a tracked fault, by its record. -/
def LinkFault.recover (kind : LinkFault) (ctx : FaultRuntimeContext) (fault : ActiveFault)
    (outcome : RecoveryOutcome) (network : Network) (tracker : FaultTracker) :
    Network × FaultTracker × Except String RecoveryResult :=
  match fault.device, fault.interface with
  | some device, some interface =>
    match kind with
    | linkDown =>
      recoverLinkDown ctx device interface fault.peerDevice fault.peerInterface
        fault.routeSnapshots outcome network tracker
    | linkFlapping =>
      recoverLinkFlapping ctx device interface fault.taskId fault.peerDevice fault.peerInterface
        fault.routeSnapshots outcome network tracker
  | none, _ => (network, tracker, .error "'device'")
  | _, none => (network, tracker, .error "'interface'")

end NetOpsBench.Faults
