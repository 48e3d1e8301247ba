import NetOpsBench.Faults.Routes

/-!
# Recovery of link faults

A recovery that succeeds has read back both ends and the routes of its record. So a fault is undone
if its record has the snapshots, which the residual record of a flapping fault does not, and if no
recorded route was shown with another metric only (`faultHandled_iff`).
`unreadable_not_restored` is an injection whose recovery loses a route.
-/

namespace NetOpsBench.Faults
open Models

/-! ## Ends -/

def ends (endpoints : Endpoint × Endpoint) : List Endpoint := [endpoints.1, endpoints.2]

theorem clientRoutes_subset (ctx : FaultRuntimeContext) (network : Network) (endpoint : Endpoint) :
    clientRoutes ctx network endpoint ⊆ (network endpoint.key).routes := by
  unfold clientRoutes
  split
  · exact List.filter_subset_self _
  · exact List.nil_subset _

theorem clientRoutes_congr (ctx : FaultRuntimeContext) (network : Network) {a b : Endpoint}
    (h : a.key = b.key) : clientRoutes ctx network a = clientRoutes ctx network b := by
  have hdevice : a.device = b.device := congrArg Prod.fst h
  unfold clientRoutes
  rw [h, hdevice]

theorem snapshotOf_congr (snapshots : Option RouteSnapshots) {a b : Endpoint} (h : a.key = b.key) :
    snapshotOf snapshots a = snapshotOf snapshots b := by
  rw [snapshotOf, snapshotOf, h]

/-- An end that was set up, with the routes that were to be restored: all of them are shown, and they
are kept exactly if no one was shown with another metric only when the end came up. -/
structure RaisedFrom (recorded : List Route) (before after : Port) : Prop where
  up : after.IsUp
  shown : ∀ route ∈ recorded, route.identity ∈ after.routes.map (·.identity)
  kept : OneEach recorded →
    (RoutesKept recorded after.routes ↔ MetricShown recorded before.raise.routes)

theorem Port.raise_of_isUp {port : Port} (h : port.IsUp) : port.raise = port := if_pos h

theorem RaisedFrom.trans {recorded : List Route} {first second third : Port}
    (h : RaisedFrom recorded first second) (h' : RaisedFrom recorded second third) :
    RaisedFrom recorded first third where
  up := h'.up
  shown := h'.shown
  kept := by
    intro hone
    have hkept : MetricShown recorded second.routes ↔ RoutesKept recorded second.routes :=
      ⟨fun hmetric route hroute => hmetric route hroute (h.shown route hroute),
        RoutesKept.metricShown⟩
    rw [h'.kept hone, Port.raise_of_isUp h.up, hkept, h.kept hone]

/-! ## What the commands do -/

section Commands

variable {endpoint : Endpoint} {network next : Network} {snapshots : Option RouteSnapshots}

/-- A command on one end leaves the others alone, and if it succeeds then the end is as it should. -/
theorem setLinkAdminState_spec {enabled : Bool} {outcome : AdminOutcome} {error : Option String}
    (h : setLinkAdminState endpoint enabled outcome network = (next, error)) :
    (∀ key, key ≠ endpoint.key → next key = network key) ∧
    (error = none → decide (next endpoint.key).IsUp = enabled) := by
  unfold setLinkAdminState at h
  dsimp only at h
  obtain ⟨rfl, rfl⟩ := Prod.mk.inj h
  refine ⟨fun key hkey => Function.update_of_ne hkey _ _, fun hnone => ?_⟩
  rw [Function.update_self]
  exact (of_ite_eq_none hnone).2.2.2

/-- An end that is set up without an error has come up as it was. -/
theorem setLinkAdminState_raise {outcome : AdminOutcome}
    (h : setLinkAdminState endpoint true outcome network = (next, none)) :
    next endpoint.key = (network endpoint.key).raise := by
  have hup := (setLinkAdminState_spec h).2 rfl
  have hraise (port : Port) (applied : Bool) : port.setAdmin true applied = port ∨
      port.setAdmin true applied = port.raise := by
    cases applied with
    | false => exact .inl rfl
    | true => exact .inr rfl
  have hport : next endpoint.key = network endpoint.key ∨
      next endpoint.key = (network endpoint.key).raise := by
    have hraised (port : Port) : port.raise.raise = port.raise := by
      refine Port.raise_of_isUp ?_
      unfold Port.raise
      split
      · assumption
      · exact List.mem_cons_self
    unfold setLinkAdminState at h
    dsimp only at h
    obtain ⟨rfl, -⟩ := Prod.mk.inj h
    rw [Function.update_self]
    rcases hraise (network endpoint.key) outcome.config.applied with hconfig | hconfig <;>
      rw [hconfig] <;> split
    · exact hraise _ _
    · exact .inl rfl
    · refine .inr ((hraise _ _).elim id fun hfallback => ?_)
      rw [hfallback, hraised]
    · exact .inr rfl
  rcases hport with hport | hport
  · rw [hport] at hup ⊢
    exact (Port.raise_of_isUp (of_decide_eq_true hup)).symm
  · exact hport

/-- Setting one end up leaves the others alone; without an error the end is up, with its routes. -/
theorem raiseEndpoint_spec {outcome : RaiseOutcome} {error : Option String}
    (h : raiseEndpoint snapshots outcome endpoint network = (next, error)) :
    (∀ key, key ≠ endpoint.key → next key = network key) ∧
    (error = none → RaisedFrom (snapshotOf snapshots endpoint) (network endpoint.key)
      (next endpoint.key)) := by
  unfold raiseEndpoint at h
  split at h
  · rename_i hadmin
    cases h
    exact ⟨(setLinkAdminState_spec hadmin).1, nofun⟩
  · rename_i middle hadmin
    obtain ⟨hframe, hup⟩ := setLinkAdminState_spec hadmin
    obtain ⟨hframe', hflags⟩ := restoreClientRoutes_frame h
    refine ⟨fun key hkey => (hframe' key hkey).trans (hframe key hkey), ?_⟩
    rintro rfl
    obtain ⟨hshown, hkept⟩ := restoreClientRoutes_kept h
    rw [setLinkAdminState_raise hadmin] at hkept
    refine ⟨?_, hshown, hkept⟩
    rw [Port.IsUp, hflags]
    exact of_decide_eq_true (hup rfl)

/-- Ends that are set up without an error are up with their routes. -/
theorem raiseEndpoints_spec {label : String} {outcomes : Nat → RaiseOutcome}
    {endpoints : List (Endpoint × Nat)} {errors : List String}
    (h : raiseEndpoints label snapshots outcomes endpoints network = (next, errors)) :
    (∀ key, (∀ item ∈ endpoints, item.1.key ≠ key) → next key = network key) ∧
    (errors = [] → ∀ other : Endpoint, (∃ item ∈ endpoints, item.1.key = other.key) →
      RaisedFrom (snapshotOf snapshots other) (network other.key) (next other.key)) := by
  induction endpoints generalizing network errors with
  | nil =>
    cases h
    refine ⟨fun _ _ => rfl, fun _ other hother => ?_⟩
    obtain ⟨_, hmem, -⟩ := hother
    cases hmem
  | cons item endpoints ih =>
    obtain ⟨first, index⟩ := item
    rw [raiseEndpoints] at h
    rcases hfirst : raiseEndpoint snapshots (outcomes index) first network with ⟨middle, error⟩
    rcases hrest : raiseEndpoints label snapshots outcomes endpoints middle with ⟨last, rest⟩
    rw [hfirst] at h
    dsimp only at h
    rw [hrest] at h
    obtain ⟨rfl, rfl⟩ := Prod.mk.inj h
    obtain ⟨hframe, hraised⟩ := raiseEndpoint_spec hfirst
    obtain ⟨hframe', hraised'⟩ := ih hrest
    refine ⟨fun key hkey => ?_, fun herrors other hother => ?_⟩
    · obtain ⟨hhead, htail⟩ := List.forall_mem_cons.mp hkey
      exact (hframe' key htail).trans (hframe key hhead.symm)
    · cases error with
      | some error => cases herrors
      | none =>
        by_cases hkey : first.key = other.key
        · have hfirst := hraised rfl
          rw [snapshotOf_congr snapshots hkey, hkey] at hfirst
          by_cases hlater : ∃ item ∈ endpoints, item.1.key = other.key
          · exact hfirst.trans (hraised' herrors other hlater)
          · rwa [hframe' other.key fun item hitem heq => hlater ⟨item, hitem, heq⟩]
        · have hlater : ∃ item ∈ endpoints, item.1.key = other.key := by
            obtain ⟨item, hmem, hitem⟩ := hother
            rcases List.mem_cons.mp hmem with rfl | hmem
            · exact absurd hitem hkey
            · exact ⟨item, hmem, hitem⟩
          have hrest := hraised' herrors other hlater
          rwa [hframe other.key (Ne.symm hkey)] at hrest

/-- Only the ends that were attempted change. -/
theorem lowerEndpoints_spec {outcomes : Nat → AdminOutcome} {index : Nat}
    {endpoints : List Endpoint} {attempted : List (Endpoint × Nat)} {error : Option String}
    (h : lowerEndpoints outcomes index endpoints network = (next, attempted, error)) :
    (∀ key, (∀ item ∈ attempted, item.1.key ≠ key) → next key = network key) ∧
    ∀ item ∈ attempted, item.1 ∈ endpoints := by
  induction endpoints generalizing network index attempted error with
  | nil =>
    cases h
    exact ⟨fun _ _ => rfl, nofun⟩
  | cons first endpoints ih =>
    rw [lowerEndpoints] at h
    split at h
    · rename_i hfirst
      cases h
      refine ⟨fun key hkey => (setLinkAdminState_spec hfirst).1 key ?_,
        List.forall_mem_singleton.mpr (.head _)⟩
      exact (List.forall_mem_singleton.mp hkey).symm
    · rename_i middle hfirst
      rcases hrest : lowerEndpoints outcomes (index + 1) endpoints middle with ⟨last, rest, error'⟩
      rw [hrest] at h
      cases h
      obtain ⟨hframe, hmem⟩ := ih hrest
      refine ⟨fun key hkey => ?_, List.forall_mem_cons.mpr
        ⟨.head _, fun item hitem => .tail _ (hmem item hitem)⟩⟩
      obtain ⟨hhead, htail⟩ := List.forall_mem_cons.mp hkey
      exact (hframe key htail).trans ((setLinkAdminState_spec hfirst).1 key hhead.symm)

end Commands

/-! ## The ends of a link -/

section Ends

variable {ctx : FaultRuntimeContext} {device interface : String} {target peer : Endpoint}
  {network : Network}

/-- An endpoint has the names that its interface has in SONiC and in Linux. -/
theorem endpoint_eq_ok {endpoint : Endpoint} (h : ctx.endpoint device interface = .ok endpoint) :
    endpoint.device = device ∧ endpoint.sonicIf = toSonicInterface interface ∧
      endpoint.linuxIf = toLinuxInterface interface ∧
      ctx.containerName device = some endpoint.container := by
  unfold FaultRuntimeContext.endpoint at h
  split at h
  · cases h
  · rename_i hcontainer
    cases h
    exact ⟨rfl, rfl, rfl, hcontainer⟩

/-- The end that is found is on a link of the manifest, and so are the names of both ends. -/
theorem findEnd_eq_some {linuxIf : String} {this other : LinkEndpoint} {links : List Link}
    (h : FaultRuntimeContext.findEnd device linuxIf links = some (this, other)) :
    toLinuxInterface this.interface = linuxIf ∧
      ∃ link ∈ links, (this, other) = link.endpoints ∨ (other, this) = link.endpoints := by
  induction links with
  | nil => cases h
  | cons link links ih =>
    rw [FaultRuntimeContext.findEnd] at h
    dsimp only at h
    split at h
    · rename_i hfirst
      cases h
      exact ⟨hfirst.2, link, .head _, .inl rfl⟩
    · split at h
      · rename_i hsecond
        cases h
        exact ⟨hsecond.2, link, .head _, .inr rfl⟩
      · obtain ⟨hname, link, hlink, hends⟩ := ih h
        exact ⟨hname, link, .tail _ hlink, hends⟩

theorem linkEndpoints_eq_ok (h : ctx.linkEndpoints device interface = .ok (target, peer)) :
    toLinuxInterface target.sonicIf = toLinuxInterface interface ∧
      toLinuxInterface peer.sonicIf = peer.linuxIf ∧
      ctx.containerName peer.device = some peer.container := by
  unfold FaultRuntimeContext.linkEndpoints at h
  split at h
  · cases h
  · rename_i this other hfind
    obtain ⟨first, hthis, h⟩ := Except.bind_eq_ok.mp h
    obtain ⟨second, hother, h⟩ := Except.bind_eq_ok.mp h
    cases h
    obtain ⟨hname, link, hlink, hends⟩ := findEnd_eq_some hfind
    obtain ⟨-, hsonic, -, -⟩ := endpoint_eq_ok hthis
    obtain ⟨hdevice, hsonic', hlinux', hcontainer⟩ := endpoint_eq_ok hother
    have hcanonical : CanonicalInterface this.interface ∧ CanonicalInterface other.interface := by
      have h := ctx.canonical link hlink
      rcases hends with hends | hends
      · rwa [← hends] at h
      · rw [← hends] at h
        exact h.symm
    refine ⟨?_, ?_, by rw [hdevice, hcontainer]⟩
    · rw [hsonic, hcanonical.1, hname]
    · rw [hsonic', hcanonical.2, hlinux']

/-- A recovery by the recorded name finds the same target, and a peer at the same end. -/
theorem recoveryEndpoints_eq_ok (h : ctx.linkEndpoints device interface = .ok (target, peer))
    {peerDevice peerInterface : Option String}
    (hpeer : (peerDevice = some peer.device ∧ peerInterface = some peer.sonicIf) ∨
      peerDevice = none) :
    ∃ found, recoveryEndpoints ctx device target.sonicIf peerDevice peerInterface =
      .ok (target, found) ∧ found.key = peer.key := by
  obtain ⟨hname, hlinux, hcontainer⟩ := linkEndpoints_eq_ok h
  have hlink : ctx.linkEndpoints device target.sonicIf = .ok (target, peer) := by
    unfold FaultRuntimeContext.linkEndpoints at h ⊢
    rw [hname]
    split at h
    · cases h
    · exact h
  unfold recoveryEndpoints
  rw [hlink]
  dsimp only [bind, Except.bind]
  split
  · rename_i recorded interface hdevice hinterface
    rw [Python.truthy_eq_some] at hdevice hinterface
    rcases hpeer with ⟨hpeer, hpeer'⟩ | hpeer
    · obtain rfl : peer.device = recorded := Option.some.inj (hpeer.symm.trans hdevice.1)
      obtain rfl : peer.sonicIf = interface := Option.some.inj (hpeer'.symm.trans hinterface.1)
      unfold FaultRuntimeContext.endpoint
      rw [hcontainer]
      exact ⟨_, rfl, congrArg (peer.device, ·) hlinux⟩
    · cases hpeer.symm.trans hdevice.1
  · exact ⟨peer, rfl, rfl⟩

end Ends

/-! ## Recovery -/

section Recovery

variable {ctx : FaultRuntimeContext} {device interface : String} {target peer : Endpoint}
  {network next : Network} {snapshots : Option RouteSnapshots} {kind : LinkFault}
  {fault : ActiveFault}

/-- A link that is set up with success has both of its ends up. -/
theorem raisePhysicalLink_spec {endpoints : Endpoint × Endpoint} {outcomes : Nat → RaiseOutcome}
    {result : LinkResult}
    (h : raisePhysicalLink endpoints snapshots outcomes network = (next, result))
    (hsuccess : result.success) {endpoint : Endpoint}
    (hkey : endpoint.key = endpoints.1.key ∨ endpoint.key = endpoints.2.key) :
    RaisedFrom (snapshotOf snapshots endpoint) (network endpoint.key) (next endpoint.key) := by
  unfold raisePhysicalLink at h
  rcases hraise : raiseEndpoints "" snapshots outcomes [(endpoints.1, 0), (endpoints.2, 1)] network
    with ⟨last, errors⟩
  rw [hraise] at h
  cases h
  refine (raiseEndpoints_spec hraise).2 (of_decide_eq_true hsuccess) endpoint ?_
  rcases hkey with hkey | hkey
  · exact ⟨_, .head _, hkey.symm⟩
  · exact ⟨_, .tail _ (.head _), hkey.symm⟩

/-- The record of a fault on a link. -/
structure RecordOf (device : String) (target peer : Endpoint) (fault : ActiveFault) : Prop where
  device : fault.device = some device
  interface : fault.interface = some target.sonicIf
  peer : (fault.peerDevice = some peer.device ∧ fault.peerInterface = some peer.sonicIf) ∨
    fault.peerDevice = none

/-- A recovery that reports success has set both ends up and restored the recorded routes. -/
theorem raised_of_recovered (hlink : ctx.linkEndpoints device interface = .ok (target, peer))
    (hfault : RecordOf device target peer fault) {outcome : RecoveryOutcome}
    {tracker rest : FaultTracker} {result : RecoveryResult}
    (h : kind.recover ctx fault outcome network tracker = (next, rest, .ok result))
    (hrecovered : result.recovered = .bool true) :
    ∀ endpoint ∈ ends (target, peer), RaisedFrom (snapshotOf fault.routeSnapshots endpoint)
      (network endpoint.key) (next endpoint.key) := by
  obtain ⟨found, hfound, hkey⟩ := recoveryEndpoints_eq_ok hlink hfault.peer
  have hkeys : ∀ endpoint ∈ ends (target, peer),
      endpoint.key = target.key ∨ endpoint.key = found.key := by
    rw [hkey]
    exact List.forall_mem_cons.mpr ⟨.inl rfl, List.forall_mem_singleton.mpr (.inr rfl)⟩
  intro endpoint hmem
  unfold LinkFault.recover at h
  rw [hfault.device, hfault.interface] at h
  rcases hraise : raisePhysicalLink (target, found) fault.routeSnapshots outcome.startup network with
    ⟨last, linkResult⟩
  cases kind with
  | linkDown =>
    dsimp only at h
    unfold recoverLinkDown at h
    rw [hfound] at h
    dsimp only at h
    rw [hraise] at h
    cases h
    exact raisePhysicalLink_spec hraise (Flag.bool.inj hrecovered) (hkeys endpoint hmem)
  | linkFlapping =>
    dsimp only at h
    unfold recoverLinkFlapping at h
    rw [hfound] at h
    dsimp only at h
    rw [hraise] at h
    cases h
    have hboth := Flag.bool.inj hrecovered
    rw [Bool.and_eq_true] at hboth
    exact raisePhysicalLink_spec hraise hboth.2 (hkeys endpoint hmem)

/-- A network in which everything is up and no route is there. -/
def bareNetwork : Network := fun _ => { flags := ["UP"] }

/-- Where everything is up and no route is there, nothing is to be done. -/
theorem raiseEndpoints_bareNetwork (label : String) (endpoints : List (Endpoint × Nat)) :
    raiseEndpoints label none (fun _ => {}) endpoints bareNetwork = (bareNetwork, []) := by
  have hraise : ∀ endpoint, raiseEndpoint none {} endpoint bareNetwork = (bareNetwork, none) := by
    intro endpoint
    have hadmin : setLinkAdminState endpoint true {} bareNetwork = (bareNetwork, none) := by
      show (Function.update bareNetwork endpoint.key (bareNetwork endpoint.key), none) = _
      rw [Function.update_eq_self]
    unfold raiseEndpoint
    rw [hadmin]
    rfl
  induction endpoints with
  | nil => rfl
  | cons item endpoints ih =>
    obtain ⟨endpoint, index⟩ := item
    rw [raiseEndpoints, hraise endpoint]
    dsimp only
    rw [ih]

/-- Without snapshots a recovery of the bare network reports success. -/
theorem recover_bareNetwork (kind : LinkFault)
    (hlink : ctx.linkEndpoints device interface = .ok (target, peer))
    (hfault : RecordOf device target peer fault) (hsnapshots : fault.routeSnapshots = none)
    (htask : fault.taskId = none) :
    ∃ rest result, kind.recover ctx fault {} bareNetwork {} = (bareNetwork, rest, .ok result) ∧
      result.recovered = .bool true := by
  obtain ⟨found, hfound, -⟩ := recoveryEndpoints_eq_ok hlink hfault.peer
  have hraise : raisePhysicalLink (target, found) none (fun _ => {}) bareNetwork =
      (bareNetwork, ⟨true, none, none, false⟩) := by
    unfold raisePhysicalLink
    rw [raiseEndpoints_bareNetwork]
    rfl
  unfold LinkFault.recover
  rw [hfault.device, hfault.interface, hsnapshots, htask]
  cases kind with
  | linkDown =>
    dsimp only
    unfold recoverLinkDown
    rw [hfound]
    dsimp only
    rw [hraise]
    exact ⟨_, _, rfl, rfl⟩
  | linkFlapping =>
    dsimp only
    unfold recoverLinkFlapping
    rw [hfound]
    dsimp only
    rw [hraise]
    exact ⟨_, _, rfl, rfl⟩

end Recovery

/-! ## Injection and recovery -/

section Handled

/-- The ends are as they were, and the routes of a client at them are there. -/
def AsBefore (ctx : FaultRuntimeContext) (endpoints : Endpoint × Endpoint)
    (before after : Network) : Prop :=
  ∀ endpoint ∈ ends endpoints, ((after endpoint.key).IsUp ↔ (before endpoint.key).IsUp) ∧
    RoutesKept (clientRoutes ctx before endpoint) (after endpoint.key).routes

/-- The ends are up, and the routes that a client had at them are there. -/
def Restored (ctx : FaultRuntimeContext) (endpoints : Endpoint × Endpoint)
    (before after : Network) : Prop :=
  ∀ endpoint ∈ ends endpoints, (after endpoint.key).IsUp ∧
    RoutesKept (clientRoutes ctx before endpoint) (after endpoint.key).routes

def Succeeded (outcome : Except String FaultInfo) : Prop :=
  ∃ info, outcome = .ok info ∧ info.success

/-- No recorded route is shown with other metrics only when its end is up. -/
def MetricsTold (snapshots : Option RouteSnapshots) (endpoints : Endpoint × Endpoint)
    (network : Network) : Prop :=
  ∀ endpoint ∈ ends endpoints,
    MetricShown (snapshotOf snapshots endpoint) (network endpoint.key).raise.routes

/-- What an injection owes, and a later recovery of its fault that reports success: the link is
restored, exactly if the metrics of the recorded routes are told before. Between the two the network
may have become anything. -/
structure FaultHandled (kind : LinkFault) (ctx : FaultRuntimeContext) (device interface : String)
    (outcome : InjectionOutcome) (network : Network) (tracker : FaultTracker) : Prop where
  failed : ∀ after rest info,
    kind.inject ctx device interface outcome network tracker = (after, rest, info) →
    ¬ Succeeded info →
    (∀ endpoints, ctx.linkEndpoints device interface = .ok endpoints →
      AsBefore ctx endpoints network after) ∨
    ∃ fault, fault.residualMutation ∧ rest.activeFaults = tracker.activeFaults ++ [fault]
  recovered : ∀ after rest info fault,
    kind.inject ctx device interface outcome network tracker = (after, rest, info) →
    rest.activeFaults = tracker.activeFaults ++ [fault] →
    ∀ recovery later others final remaining result,
      kind.recover ctx fault recovery later others = (final, remaining, .ok result) →
      result.recovered = .bool true →
      ∀ endpoints, ctx.linkEndpoints device interface = .ok endpoints →
        (Restored ctx endpoints network final ↔ MetricsTold fault.routeSnapshots endpoints later)

/-- A shutdown of one of the ends fails: `attempted` are the ends that it reached, and `lowered` is
the network then. -/
def ShutdownFails (outcome : InjectionOutcome) (endpoints : Endpoint × Endpoint) (network : Network)
    (attempted : List (Endpoint × Nat)) (lowered : Network) : Prop :=
  ∃ error, lowerEndpoints outcome.shutdown 0 (ends endpoints) network =
    (lowered, attempted, some error)

/-- Setting one of the attempted ends up again, or restoring its routes, fails. -/
def CompensationFails (outcome : InjectionOutcome) (snapshots : RouteSnapshots)
    (attempted : List (Endpoint × Nat)) (lowered : Network) : Prop :=
  (raiseEndpoints "compensation " (some snapshots) outcome.compensation attempted.reverse
    lowered).2 ≠ []

/-- An end may be set up again: it was up, and its routes do not come back with other metrics. -/
def MayRaise (ctx : FaultRuntimeContext) (network lowered : Network) (endpoint : Endpoint) : Prop :=
  (network endpoint.key).IsUp ∧
    MetricShown (clientRoutes ctx network endpoint) (lowered endpoint.key).raise.routes

/-- The condition on a failed shutdown: a flapping fault is not left on a client that had routes, and
an end is set up again only if it may be. -/
def Compensable (kind : LinkFault) (ctx : FaultRuntimeContext) (outcome : InjectionOutcome)
    (network : Network) (endpoints : Endpoint × Endpoint) (snapshots : RouteSnapshots)
    (attempted : List (Endpoint × Nat)) (lowered : Network) : Prop :=
  (CompensationFails outcome snapshots attempted lowered → kind = .linkFlapping →
    ∀ endpoint ∈ ends endpoints, clientRoutes ctx network endpoint = []) ∧
  (¬ CompensationFails outcome snapshots attempted lowered →
    ∀ item ∈ attempted, MayRaise ctx network lowered item.1)

/-- Every shutdown that fails meets the condition. -/
def Recoverable (kind : LinkFault) (ctx : FaultRuntimeContext) (device interface : String)
    (outcome : InjectionOutcome) (network : Network) : Prop :=
  ∀ endpoints snapshots attempted lowered,
    prepareLink ctx device interface outcome.snapshot network = .ok (endpoints, snapshots) →
    ShutdownFails outcome endpoints network attempted lowered →
    Compensable kind ctx outcome network endpoints snapshots attempted lowered

/-- The routes of a client at an end of the link are one for each destination and metric. -/
def DistinctRoutes (ctx : FaultRuntimeContext) (device interface : String) (network : Network) :
    Prop :=
  ∀ endpoints, ctx.linkEndpoints device interface = .ok endpoints →
    ∀ endpoint ∈ ends endpoints, OneEach (clientRoutes ctx network endpoint)

variable {kind : LinkFault} {ctx : FaultRuntimeContext} {device interface : String}
  {outcome : InjectionOutcome} {network : Network} {tracker : FaultTracker}
  {endpoints : Endpoint × Endpoint} {snapshots : RouteSnapshots}

theorem AsBefore.refl : AsBefore ctx endpoints network network := fun endpoint _ =>
  ⟨.rfl, .of_subset (clientRoutes_subset ctx network endpoint)⟩

theorem prepareLink_eq_ok
    (h : prepareLink ctx device interface outcome.snapshot network = .ok (endpoints, snapshots)) :
    ctx.linkEndpoints device interface = .ok endpoints ∧
    ∀ endpoint ∈ ends endpoints,
      snapshotOf (some snapshots) endpoint = clientRoutes ctx network endpoint := by
  have hread : ∀ {endpoint read routes},
      snapshotClientRoutes ctx endpoint read network = .ok routes →
      routes = clientRoutes ctx network endpoint := by
    intro endpoint read routes h
    unfold snapshotClientRoutes at h
    split at h
    · rename_i hclient
      cases h
      rw [clientRoutes, if_neg (by simpa using hclient)]
    · split at h
      · cases h
      · split at h
        · cases h
        · cases h
          rfl
  obtain ⟨⟨target, peer⟩, hlink, h⟩ := Except.bind_eq_ok.mp h
  obtain ⟨targetRoutes, htarget, h⟩ := Except.bind_eq_ok.mp h
  obtain ⟨peerRoutes, hpeer, h⟩ := Except.bind_eq_ok.mp h
  cases h
  refine ⟨hlink, fun endpoint hmem => ?_⟩
  rw [snapshotOf, Option.bind_some, Dict.lookup_ofItems, hread htarget, hread hpeer]
  by_cases hpeer : peer.key = endpoint.key
  · rw [← clientRoutes_congr ctx network hpeer]
    simp only [List.filter_cons, hpeer, decide_true, if_true, List.filter_nil]
    split <;> rfl
  · have htarget : target.key = endpoint.key := by
      rcases List.mem_cons.mp hmem with rfl | hmem
      · rfl
      · exact absurd (congrArg Endpoint.key (List.mem_singleton.mp hmem)).symm hpeer
    rw [← clientRoutes_congr ctx network htarget]
    simp only [List.filter_cons, htarget, hpeer, decide_true, decide_false, if_true,
      Bool.false_eq_true, if_false, List.filter_nil]
    rfl

/-- How an injection ends: not at all, with both ends down, with everything compensated, or with a
residual. -/
theorem lowerPhysicalLink_cases (outcome : InjectionOutcome) (endpoints : Endpoint × Endpoint)
    (snapshots : RouteSnapshots) (network : Network) :
    (∃ after error, lowerPhysicalLink endpoints (some snapshots) outcome.shutdown
        outcome.compensation network = (after, ⟨true, error, some false, false⟩) ∧
      ∀ attempted lowered, ¬ ShutdownFails outcome endpoints network attempted lowered) ∨
    ∃ attempted lowered after errors error compensated residual,
      lowerPhysicalLink endpoints (some snapshots) outcome.shutdown outcome.compensation network =
        (after, ⟨false, error, compensated, residual⟩) ∧
      ShutdownFails outcome endpoints network attempted lowered ∧
      raiseEndpoints "compensation " (some snapshots) outcome.compensation attempted.reverse lowered =
        (after, errors) ∧
      (residual ↔ errors ≠ []) := by
  unfold lowerPhysicalLink ShutdownFails ends
  rcases lowerEndpoints outcome.shutdown 0 [endpoints.1, endpoints.2] network with
    ⟨lowered, attempted, error⟩
  cases error with
  | none => exact .inl ⟨lowered, none, rfl, fun _ _ ⟨_, h⟩ => by cases h⟩
  | some error =>
    rcases hraise : raiseEndpoints "compensation " (some snapshots) outcome.compensation
      attempted.reverse lowered with ⟨after, errors⟩
    refine .inr ⟨attempted, lowered, after, errors, joinErrors (error :: errors),
      some (errors = []), errors ≠ [], ?_, ⟨error, rfl⟩, hraise, decide_eq_true_iff⟩
    dsimp only
    rw [hraise]

/-- An injection that cannot take the snapshots touches nothing. -/
theorem inject_of_prepareLink_error (kind : LinkFault) (tracker : FaultTracker) {error : String}
    (h : prepareLink ctx device interface outcome.snapshot network = .error error) :
    kind.inject ctx device interface outcome network tracker = (network, tracker, .error error) := by
  cases kind with
  | linkDown => rw [LinkFault.inject, injectLinkDown, h]
  | linkFlapping => rw [LinkFault.inject, injectLinkFlapping, h]

section Prepared

variable (kind) (tracker) (hprepare : prepareLink ctx device interface outcome.snapshot network =
  .ok (endpoints, snapshots))
include hprepare

/-- An injection that succeeds is tracked, with the snapshots. -/
theorem inject_of_success {after : Network} {error : Option String} {compensated : Option Bool}
    {residual : Bool}
    (h : lowerPhysicalLink endpoints (some snapshots) outcome.shutdown outcome.compensation network =
      (after, ⟨true, error, compensated, residual⟩)) :
    ∃ rest info fault, kind.inject ctx device interface outcome network tracker =
        (after, rest, .ok info) ∧ info.success ∧
      rest.activeFaults = tracker.activeFaults ++ [fault] ∧
      RecordOf device endpoints.1 endpoints.2 fault ∧ fault.routeSnapshots = some snapshots := by
  obtain ⟨target, peer⟩ := endpoints
  cases kind with
  | linkDown =>
    rw [LinkFault.inject, injectLinkDown, hprepare]
    dsimp only
    rw [h]
    exact ⟨_, _, _, rfl, rfl, rfl, ⟨rfl, rfl, .inl ⟨rfl, rfl⟩⟩, rfl⟩
  | linkFlapping =>
    rw [LinkFault.inject, injectLinkFlapping, hprepare]
    dsimp only
    rw [h]
    exact ⟨_, _, _, rfl, rfl, rfl, ⟨rfl, rfl, .inl ⟨rfl, rfl⟩⟩, rfl⟩

/-- An injection that fails and is compensated is not tracked. -/
theorem inject_of_compensated {after : Network} {error : Option String} {compensated : Option Bool}
    (h : lowerPhysicalLink endpoints (some snapshots) outcome.shutdown outcome.compensation network =
      (after, ⟨false, error, compensated, false⟩)) :
    ∃ info, kind.inject ctx device interface outcome network tracker = (after, tracker, .ok info) ∧
      info.success = false := by
  obtain ⟨target, peer⟩ := endpoints
  cases kind with
  | linkDown =>
    rw [LinkFault.inject, injectLinkDown, hprepare]
    dsimp only
    rw [h]
    exact ⟨_, rfl, rfl⟩
  | linkFlapping =>
    rw [LinkFault.inject, injectLinkFlapping, hprepare]
    dsimp only
    rw [h]
    exact ⟨_, rfl, rfl⟩

/-- The residual record of a flapping fault has no snapshots. -/
theorem inject_of_residual {after : Network} {error : Option String} {compensated : Option Bool}
    (h : lowerPhysicalLink endpoints (some snapshots) outcome.shutdown outcome.compensation network =
      (after, ⟨false, error, compensated, true⟩)) :
    ∃ rest info fault, kind.inject ctx device interface outcome network tracker =
        (after, rest, .ok info) ∧ info.success = false ∧
      rest.activeFaults = tracker.activeFaults ++ [fault] ∧ fault.residualMutation ∧
      RecordOf device endpoints.1 endpoints.2 fault ∧
      (kind = .linkDown → fault.routeSnapshots = some snapshots) ∧
      (kind = .linkFlapping → fault.routeSnapshots = none ∧ fault.taskId = none) := by
  obtain ⟨target, peer⟩ := endpoints
  cases kind with
  | linkDown =>
    rw [LinkFault.inject, injectLinkDown, hprepare]
    dsimp only
    rw [h]
    exact ⟨_, _, _, rfl, rfl, rfl, rfl, ⟨rfl, rfl, .inl ⟨rfl, rfl⟩⟩, fun _ => rfl, nofun⟩
  | linkFlapping =>
    rw [LinkFault.inject, injectLinkFlapping, hprepare]
    dsimp only
    rw [h]
    exact ⟨_, _, _, rfl, rfl, rfl, rfl, ⟨rfl, rfl, .inr rfl⟩, nofun, fun _ => ⟨rfl, rfl⟩⟩

/-- The recovery of a record with the snapshots restores the link, if the metrics are told. -/
theorem restored_iff (hdistinct : DistinctRoutes ctx device interface network) {fault : ActiveFault}
    (hfault : RecordOf device endpoints.1 endpoints.2 fault)
    (hroutes : ∀ endpoint ∈ ends endpoints,
      snapshotOf fault.routeSnapshots endpoint = clientRoutes ctx network endpoint)
    {recovery : RecoveryOutcome} {later final : Network} {others remaining : FaultTracker}
    {result : RecoveryResult}
    (h : kind.recover ctx fault recovery later others = (final, remaining, .ok result))
    (hrecovered : result.recovered = .bool true) :
    Restored ctx endpoints network final ↔ MetricsTold fault.routeSnapshots endpoints later := by
  obtain ⟨hlink, -⟩ := prepareLink_eq_ok hprepare
  refine forall₂_congr fun endpoint hmem => ?_
  have hraised := raised_of_recovered hlink hfault h hrecovered endpoint hmem
  have hkept := hraised.kept (hroutes endpoint hmem ▸ hdistinct endpoints hlink endpoint hmem)
  rw [and_iff_right hraised.up, ← hroutes endpoint hmem]
  exact hkept

/-- When the compensation succeeds, the ends are as before if those that were attempted might be set
up. -/
theorem asBefore_iff (hdistinct : DistinctRoutes ctx device interface network)
    {attempted : List (Endpoint × Nat)} {lowered after : Network}
    (hshutdown : ShutdownFails outcome endpoints network attempted lowered)
    (hraise : raiseEndpoints "compensation " (some snapshots) outcome.compensation attempted.reverse
      lowered = (after, [])) :
    AsBefore ctx endpoints network after ↔ ∀ item ∈ attempted, MayRaise ctx network lowered item.1 := by
  obtain ⟨error, hlower⟩ := hshutdown
  obtain ⟨hframe, hattempted⟩ := lowerEndpoints_spec hlower
  obtain ⟨hframe', hraised⟩ := raiseEndpoints_spec hraise
  obtain ⟨hlink, hsnapshots⟩ := prepareLink_eq_ok hprepare
  -- what the compensation makes of an end that was attempted
  have hend (endpoint : Endpoint) (hmem : endpoint ∈ ends endpoints)
      (hkey : ∃ item ∈ attempted, item.1.key = endpoint.key) :
      (((after endpoint.key).IsUp ↔ (network endpoint.key).IsUp) ∧
        RoutesKept (clientRoutes ctx network endpoint) (after endpoint.key).routes) ↔
      MayRaise ctx network lowered endpoint := by
    obtain ⟨item, hitem, hkey⟩ := hkey
    have hraised := hraised rfl endpoint ⟨item, List.mem_reverse.mpr hitem, hkey⟩
    rw [hsnapshots endpoint hmem] at hraised
    rw [iff_true_left hraised.up, hraised.kept (hdistinct endpoints hlink endpoint hmem)]
    exact Iff.rfl
  constructor
  · intro h item hitem
    have hmem := hattempted item hitem
    exact (hend item.1 hmem ⟨item, hitem, rfl⟩).mp (h item.1 hmem)
  · intro h endpoint hmem
    by_cases hkey : ∃ item ∈ attempted, item.1.key = endpoint.key
    · refine (hend endpoint hmem hkey).mpr ?_
      obtain ⟨item, hitem, hkey⟩ := hkey
      obtain ⟨hup, hmetric⟩ := h item hitem
      unfold MayRaise
      rw [← hkey, ← clientRoutes_congr ctx network hkey]
      exact ⟨hup, hmetric⟩
    · have hsame : after endpoint.key = network endpoint.key := by
        rw [hframe' endpoint.key fun item hitem heq =>
            hkey ⟨item, List.mem_reverse.mp hitem, heq⟩,
          hframe endpoint.key fun item hitem heq => hkey ⟨item, hitem, heq⟩]
      rw [hsame]
      exact ⟨.rfl, .of_subset (clientRoutes_subset ctx network endpoint)⟩

end Prepared

theorem append_singleton_ne {α : Type} {items : List α} {item : α} (h : items = items ++ [item]) :
    False := by
  have hlength := congrArg List.length h
  rw [List.length_append, List.length_singleton] at hlength
  omega

theorem not_succeeded {info : FaultInfo} (h : info.success = false) : ¬ Succeeded (.ok info) := by
  rintro ⟨other, hother, hsuccess⟩
  cases hother
  rw [h] at hsuccess
  cases hsuccess

/-- The condition of a failed shutdown, for the shutdown at hand. -/
theorem recoverable_iff {attempted : List (Endpoint × Nat)} {lowered : Network}
    (hprepare : prepareLink ctx device interface outcome.snapshot network =
      .ok (endpoints, snapshots))
    (hshutdown : ShutdownFails outcome endpoints network attempted lowered) :
    Recoverable kind ctx device interface outcome network ↔
      Compensable kind ctx outcome network endpoints snapshots attempted lowered := by
  refine ⟨fun h => h endpoints snapshots attempted lowered hprepare hshutdown, ?_⟩
  intro h endpoints' snapshots' attempted' lowered' hprepare' hshutdown'
  cases hprepare.symm.trans hprepare'
  obtain ⟨error, hlower⟩ := hshutdown
  obtain ⟨error', hlower'⟩ := hshutdown'
  cases hlower.symm.trans hlower'
  exact h

/-- An injection that cannot read the link or its routes changes nothing. -/
theorem faultHandled_of_unprepared {error : String}
    (hprepare : prepareLink ctx device interface outcome.snapshot network = .error error) :
    FaultHandled kind ctx device interface outcome network tracker := by
  have hinject := inject_of_prepareLink_error kind tracker hprepare
  constructor
  · intro after rest info h _
    cases hinject.symm.trans h
    exact .inl fun endpoints _ => .refl
  · intro after rest info fault h htracked
    cases hinject.symm.trans h
    exact (append_singleton_ne htracked).elim

section Cases

variable (hdistinct : DistinctRoutes ctx device interface network)
  (hprepare : prepareLink ctx device interface outcome.snapshot network = .ok (endpoints, snapshots))
include hdistinct hprepare

/-- A tracked fault is handled by the recovery of its record. -/
theorem faultHandled_of_tracked {after : Network} {rest : FaultTracker} {info : FaultInfo}
    {fault : ActiveFault}
    (hinject : kind.inject ctx device interface outcome network tracker = (after, rest, .ok info))
    (hsuccess : info.success ∨ fault.residualMutation)
    (htracked : rest.activeFaults = tracker.activeFaults ++ [fault])
    (hrecord : RecordOf device endpoints.1 endpoints.2 fault)
    (hroutes : ∀ endpoint ∈ ends endpoints,
      snapshotOf fault.routeSnapshots endpoint = clientRoutes ctx network endpoint) :
    FaultHandled kind ctx device interface outcome network tracker := by
  obtain ⟨hlink, -⟩ := prepareLink_eq_ok hprepare
  constructor
  · intro _ _ _ h hfailed
    cases hinject.symm.trans h
    rcases hsuccess with hsuccess | hresidual
    · exact absurd ⟨info, rfl, hsuccess⟩ hfailed
    · exact .inr ⟨fault, hresidual, htracked⟩
  · intro _ _ _ other h hother
    cases hinject.symm.trans h
    rw [htracked] at hother
    obtain rfl := List.singleton_inj.mp (List.append_cancel_left hother)
    intro recovery later others final remaining result hrecover hrecovered ends' hlink'
    cases hlink.symm.trans hlink'
    exact restored_iff kind hprepare hdistinct hrecord hroutes hrecover hrecovered

/-- An injection that is undone is handled if the ends are as before. -/
theorem faultHandled_iff_of_compensated {attempted : List (Endpoint × Nat)}
    {lowered after : Network} {error : Option String} {compensated : Option Bool}
    (hlower : lowerPhysicalLink endpoints (some snapshots) outcome.shutdown outcome.compensation
      network = (after, ⟨false, error, compensated, false⟩))
    (hshutdown : ShutdownFails outcome endpoints network attempted lowered)
    (hraise : raiseEndpoints "compensation " (some snapshots) outcome.compensation attempted.reverse
      lowered = (after, [])) :
    FaultHandled kind ctx device interface outcome network tracker ↔
      ∀ item ∈ attempted, MayRaise ctx network lowered item.1 := by
  obtain ⟨hlink, -⟩ := prepareLink_eq_ok hprepare
  obtain ⟨info, hinject, hfailed⟩ := inject_of_compensated kind tracker hprepare hlower
  rw [← asBefore_iff hprepare hdistinct hshutdown hraise]
  constructor
  · intro h
    rcases h.failed _ _ _ hinject (not_succeeded hfailed) with h | ⟨fault, -, h⟩
    · exact h endpoints hlink
    · exact (append_singleton_ne h).elim
  · intro h
    constructor
    · intro _ _ _ h' _
      refine .inl fun ends' hlink' => ?_
      cases hinject.symm.trans h'
      cases hlink.symm.trans hlink'
      exact h
    · intro _ _ _ fault h' htracked
      cases hinject.symm.trans h'
      exact (append_singleton_ne htracked).elim

/-- A flapping fault that is left is handled if no client had routes: its record has none. -/
theorem faultHandled_iff_of_residual {after : Network} {error : Option String}
    {compensated : Option Bool}
    (hlower : lowerPhysicalLink endpoints (some snapshots) outcome.shutdown outcome.compensation
      network = (after, ⟨false, error, compensated, true⟩)) :
    FaultHandled kind ctx device interface outcome network tracker ↔
      (kind = .linkFlapping → ∀ endpoint ∈ ends endpoints, clientRoutes ctx network endpoint = []) := by
  obtain ⟨hlink, hsnapshots⟩ := prepareLink_eq_ok hprepare
  obtain ⟨rest, info, fault, hinject, hfailed, htracked, hmutation, hrecord, hdown, hflapping⟩ :=
    inject_of_residual kind tracker hprepare hlower
  constructor
  · intro h hkind endpoint hmem
    obtain ⟨hunrecorded, htask⟩ := hflapping hkind
    obtain ⟨remaining, result, hrecover, hrecovered⟩ :=
      recover_bareNetwork kind hlink hrecord hunrecorded htask
    have htold : MetricsTold fault.routeSnapshots endpoints bareNetwork := by
      intro other _ route hroute
      rw [hunrecorded] at hroute
      cases hroute
    have hkept := ((h.recovered _ _ _ fault hinject htracked _ _ _ _ _ _ hrecover hrecovered
      endpoints hlink).mpr htold endpoint hmem).2
    refine List.eq_nil_iff_forall_not_mem.mpr fun route hroute => ?_
    have hbare := hkept route hroute
    cases hbare
  · intro h
    refine faultHandled_of_tracked hdistinct hprepare hinject (.inr hmutation) htracked hrecord ?_
    intro endpoint hmem
    cases kind with
    | linkDown => rw [hdown rfl, hsnapshots endpoint hmem]
    | linkFlapping =>
      rw [(hflapping rfl).1, h rfl endpoint hmem]
      rfl

end Cases

/-- Injection and recovery give all that they owe, exactly when no flapping fault is left on a client
that had routes and every end that is set up again might be. -/
theorem faultHandled_iff (kind : LinkFault) (ctx : FaultRuntimeContext) (device interface : String)
    (outcome : InjectionOutcome) (network : Network) (tracker : FaultTracker)
    (hdistinct : DistinctRoutes ctx device interface network) :
    FaultHandled kind ctx device interface outcome network tracker ↔
      Recoverable kind ctx device interface outcome network := by
  cases hprepare : prepareLink ctx device interface outcome.snapshot network with
  | error error =>
    refine iff_of_true (faultHandled_of_unprepared hprepare) ?_
    intro endpoints snapshots _ _ h
    cases hprepare.symm.trans h
  | ok prepared =>
    obtain ⟨endpoints, snapshots⟩ := prepared
    rcases lowerPhysicalLink_cases outcome endpoints snapshots network with
      ⟨after, error, hlower, hnone⟩ |
      ⟨attempted, lowered, after, errors, error, compensated, residual, hlower, hshutdown, hraise,
        hresidual⟩
    · obtain ⟨rest, info, fault, hinject, hsuccess, htracked, hrecord, hrecorded⟩ :=
        inject_of_success kind tracker hprepare hlower
      refine iff_of_true (faultHandled_of_tracked hdistinct hprepare hinject (.inl hsuccess) htracked
        hrecord fun endpoint hmem => ?_) ?_
      · rw [hrecorded, (prepareLink_eq_ok hprepare).2 endpoint hmem]
      · intro endpoints' snapshots' attempted lowered hprepare' hshutdown
        cases hprepare.symm.trans hprepare'
        exact absurd hshutdown (hnone attempted lowered)
    · rw [recoverable_iff hprepare hshutdown]
      unfold Compensable CompensationFails
      rw [hraise]
      by_cases herrors : errors = []
      · subst herrors
        obtain rfl : residual = false := Bool.eq_false_iff.mpr fun h => hresidual.mp h rfl
        rw [faultHandled_iff_of_compensated hdistinct hprepare hlower hshutdown hraise]
        exact ⟨fun h => ⟨fun h => absurd rfl h, fun _ => h⟩, fun h => h.2 fun h => h rfl⟩
      · obtain rfl : residual = true := hresidual.mpr herrors
        rw [faultHandled_iff_of_residual hdistinct hprepare hlower]
        exact ⟨fun h => ⟨fun _ => h, fun h => absurd herrors h⟩, fun h => h.1 herrors⟩

end Handled

/-! ### A client without its route -/

/-- A client on the first port of a leaf. -/
def leafClient : TopologyManifest where
  topologyId := "dcn"
  name := "dcn"
  scale := "custom"
  facts := { totalClients := 1 }
  devices := [{ name := "leaf1", role := .leaf },
    { name := "client1", role := .client, attachedSwitch := "leaf1" }]
  links := [{ kind := "client", endpoints := (⟨"leaf1", "eth1"⟩, ⟨"client1", "eth1"⟩) }]

theorem canonical_ethName {n : Nat} (h : 1 ≤ n) : CanonicalInterface (ethName n) :=
  toLinuxInterface_toSonicInterface h

def leafClientContext : FaultRuntimeContext where
  manifest := leafClient
  canonical := List.forall_mem_singleton.mpr ⟨canonical_ethName le_rfl, canonical_ethName le_rfl⟩

def defaultRoute : Route where
  dst := "default"
  gateway := "192.168.101.1"
  protocol := "static"

def leafClientNetwork : Network := fun key =>
  { flags := ["BROADCAST", "UP"]
    routes := if key = ("client1", "eth1") then [defaultRoute] else [] }

/-- The readback of the client's shutdown fails, and so does the readback of its compensation. -/
def unreadable : InjectionOutcome where
  shutdown index := if index = 1 then { readback := { returncode := 1 } } else {}
  compensation index := if index = 1 then { admin := { readback := { returncode := 1 } } } else {}

/-- An injection and, at once, a recovery: the network and what the recovery reports. -/
def injectAndRecover (kind : LinkFault) (ctx : FaultRuntimeContext) (device interface : String)
    (outcome : InjectionOutcome) (network : Network) : Network × Option Flag :=
  match kind.inject ctx device interface outcome network {} with
  | (after, rest, _) =>
    match rest.activeFaults with
    | [fault] =>
      match kind.recover ctx fault {} after rest with
      | (final, _, .ok result) => (final, some result.recovered)
      | (final, _, .error _) => (final, none)
    | _ => (after, none)

theorem leafClient_linkEndpoints : leafClientContext.linkEndpoints "leaf1" "eth1" =
    .ok (⟨"leaf1", "clab-dcn-leaf1", "Ethernet0", "eth1"⟩,
      ⟨"client1", "clab-dcn-client1", "Ethernet0", "eth1"⟩) := by
  decide +kernel

theorem leafClient_distinctRoutes :
    DistinctRoutes leafClientContext "leaf1" "eth1" leafClientNetwork := by
  intro endpoints hlink endpoint hmem route hroute other hother _ _
  cases leafClient_linkEndpoints.symm.trans hlink
  have hone : ∀ endpoint ∈ ends (⟨"leaf1", "clab-dcn-leaf1", "Ethernet0", "eth1"⟩,
      ⟨"client1", "clab-dcn-client1", "Ethernet0", "eth1"⟩),
      ∀ route ∈ clientRoutes leafClientContext leafClientNetwork endpoint, route = defaultRoute := by
    decide +kernel
  rw [hone endpoint hmem route hroute, hone endpoint hmem other hother]

/-- Without a failed command the fault is handled. -/
theorem leafClient_handled :
    FaultHandled .linkFlapping leafClientContext "leaf1" "eth1" {} leafClientNetwork {} := by
  refine (faultHandled_iff _ _ _ _ _ _ _ leafClient_distinctRoutes).mpr ?_
  intro endpoints snapshots attempted lowered hprepare hshutdown
  obtain ⟨hlink, -⟩ := prepareLink_eq_ok hprepare
  obtain ⟨error, hlower⟩ := hshutdown
  cases leafClient_linkEndpoints.symm.trans hlink
  have hnone : (lowerEndpoints ({} : InjectionOutcome).shutdown 0
      (ends (⟨"leaf1", "clab-dcn-leaf1", "Ethernet0", "eth1"⟩,
        ⟨"client1", "clab-dcn-client1", "Ethernet0", "eth1"⟩)) leafClientNetwork).2.2 = none := by
    decide +kernel
  rw [hlower] at hnone
  cases hnone

/-- The recovery of the residual fault reports success, and the client has lost its route. -/
theorem unreadable_not_restored : ∃ after rest info fault final remaining result endpoints,
    LinkFault.linkFlapping.inject leafClientContext "leaf1" "eth1" unreadable leafClientNetwork {} =
      (after, rest, info) ∧ rest.activeFaults = [fault] ∧
    LinkFault.linkFlapping.recover leafClientContext fault {} after rest =
      (final, remaining, .ok result) ∧ result.recovered = .bool true ∧
    leafClientContext.linkEndpoints "leaf1" "eth1" = .ok endpoints ∧
    ¬ Restored leafClientContext endpoints leafClientNetwork final := by
  have hreport : (injectAndRecover .linkFlapping leafClientContext "leaf1" "eth1" unreadable
      leafClientNetwork).2 = some (.bool true) := by
    decide +kernel
  have hlost : ((injectAndRecover .linkFlapping leafClientContext "leaf1" "eth1" unreadable
      leafClientNetwork).1 ("client1", "eth1")).routes = [] := by
    decide +kernel
  have hroute : clientRoutes leafClientContext leafClientNetwork
      ⟨"client1", "clab-dcn-client1", "Ethernet0", "eth1"⟩ = [defaultRoute] := by
    decide +kernel
  unfold injectAndRecover at hreport hlost
  rcases hinject : LinkFault.linkFlapping.inject leafClientContext "leaf1" "eth1" unreadable
    leafClientNetwork {} with ⟨after, rest, info⟩
  rw [hinject] at hreport hlost
  dsimp only at hreport hlost
  split at hreport
  · rename_i fault htracked
    rw [htracked] at hlost
    dsimp only at hlost
    split at hreport
    · rename_i final remaining result hrecover
      rw [hrecover] at hlost
      refine ⟨after, rest, info, fault, final, remaining, result, _, rfl, htracked, hrecover,
        Option.some.inj hreport, leafClient_linkEndpoints, fun h => ?_⟩
      have hkept := (h _ (.tail _ (.head _))).2
      rw [hroute] at hkept
      have hthere := hkept defaultRoute (.head _)
      rw [show (final (Endpoint.key ⟨"client1", "clab-dcn-client1", "Ethernet0", "eth1"⟩)).routes = []
        from hlost] at hthere
      cases hthere
    · cases hreport
  · cases hreport

end NetOpsBench.Faults
