import NetOpsBench.Data.Run
import NetOpsBench.Traffic.Runtime

/-!
# The invariant of the traffic process

Between two events the process has no plan at all, or the plan that its status describes. Its sender
runs for an enabled plan with flows, and the status counts the active ones.

`traffic_runtime_sound` is the result over every sequence of requests and reports, whatever binds fail. The
cases of the `Invariant` are `Unloaded` and `Loaded`; each operation says which one it leaves, and
`Invariant.step` is the step lemma.
-/

namespace NetOpsBench.Traffic
open ClientAgent

variable {sha256 : String → List UInt8} {runtime : TrafficRuntime} {machine : Machine}

/-- No plan is loaded. -/
structure Unloaded (runtime : TrafficRuntime) : Prop where
  plan_eq : runtime.plan = none
  generation : runtime.status.generation = 0
  planDigest : runtime.status.planDigest = ""
  listenerTasks : runtime.listenerTasks = []
  senderTask : runtime.senderTask = none
  listeners : runtime.status.activeListeners = runtime.status.expectedListeners

/-- A plan is loaded, and the status describes it. -/
structure Loaded (sha256 : String → List UInt8) (runtime : TrafficRuntime)
    (plan : ClientTrafficPlan) : Prop where
  plan_eq : runtime.plan = some plan
  generation : runtime.status.generation ≠ 0
  planDigest : runtime.status.planDigest = planDigest sha256 plan
  listenerTasks : runtime.listenerTasks = plan.listeners
  expectedListeners : runtime.status.expectedListeners = plan.listeners.length
  activeListeners : runtime.status.activeListeners = plan.listeners.length
  expectedFlows : runtime.status.expectedFlows = plan.flows.length

/-- A sender runs the flows of the plan. -/
structure Sending (runtime : TrafficRuntime) (flows : List ScheduledFlow)
    (plan : ClientTrafficPlan) : Prop where
  plan_eq : runtime.plan = some plan
  flows_eq : flows.map (·.plan) = plan.flows
  nonempty : plan.flows ≠ []
  enabled : runtime.status.enabled
  activeFlows : runtime.status.activeFlows = flows.countP (·.active)

structure Invariant (sha256 : String → List UInt8) (runtime : TrafficRuntime) : Prop where
  shape : Unloaded runtime ∨ ∃ plan, Loaded sha256 runtime plan
  sending : ∀ flows, runtime.senderTask = some flows → ∃ plan, Sending runtime flows plan
  silent : runtime.senderTask = none → runtime.status.activeFlows = 0 ∧
    (runtime.status.enabled → ∃ plan, runtime.plan = some plan ∧ plan.flows = [])

/-! ## What each operation can do -/

/-- A load that the runtime turns down before it touches anything. -/
def Rejected (sha256 : String → List UInt8) (payload : LoadPayload) : Prop :=
  payload.generation = 0 ∨ payload.planDigest = "" ∨
    planDigest sha256 payload.plan ≠ payload.planDigest

/-- The request names the generation and digest of the loaded plan. -/
def Matches (runtime : TrafficRuntime) (payload : GenerationPayload) : Prop :=
  runtime.status.generation = payload.generation ∧ runtime.status.planDigest = payload.planDigest

namespace TrafficRuntime

/-- The runtime with the plan of a successful load. -/
def installed (runtime : TrafficRuntime) (payload : LoadPayload) : TrafficRuntime :=
  { runtime with
    listenerTasks := payload.plan.listeners
    plan := some payload.plan
    senderTask := none
    status := { runtime.status with
      generation := payload.generation
      planDigest := payload.planDigest
      enabled := false
      expectedFlows := payload.plan.flows.length
      activeFlows := 0
      expectedListeners := payload.plan.listeners.length
      activeListeners := payload.plan.listeners.length
      ready := true
      lastError := none } }

/-- The runtime with its plan enabled. -/
def started (runtime : TrafficRuntime) (plan : ClientTrafficPlan) : TrafficRuntime :=
  { runtime with
    status := { runtime.status with
      enabled := true
      ready := decide (plan.flows = []) &&
        decide (runtime.status.activeListeners = runtime.status.expectedListeners)
      activeFlows := 0 }
    senderTask :=
      if plan.flows = [] then none else some (plan.flows.map fun plan => { plan, active := false }) }

theorem spawnListeners_eq_ok {localIp : Ipv4.Addr} {binds : Nat → Except String Unit}
    {handles listeners result : List ListenerPlan}
    (h : spawnListeners localIp binds handles listeners = .ok result) :
    result = handles ++ listeners := by
  induction listeners generalizing handles with
  | nil =>
    cases h
    exact (List.append_nil _).symm
  | cons listener listeners ih =>
    rw [spawnListeners] at h
    cases hbind : binds handles.length with
    | error cause =>
      rw [hbind] at h
      cases h
    | ok _ =>
      rw [hbind] at h
      rw [ih h, List.append_assoc]
      rfl

/-- A load is turned down, resets the process because a bind fails, or installs its plan. -/
theorem load_cases (sha256 : String → List UInt8) (runtime : TrafficRuntime)
    (payload : LoadPayload) (machine : Machine) :
    (Rejected sha256 payload ∧ ∃ error, runtime.load sha256 payload machine = (runtime, .error error)) ∨
    (¬ Rejected sha256 payload ∧ ∃ error,
      runtime.load sha256 payload machine = (runtime.reset machine, .error error)) ∨
    (¬ Rejected sha256 payload ∧
      runtime.load sha256 payload machine = (runtime.installed payload, .ok ())) := by
  unfold load
  by_cases hmissing : payload.generation = 0 ∨ payload.planDigest = ""
  · rw [if_pos hmissing]
    exact .inl ⟨or_assoc.mp (.inl hmissing), _, rfl⟩
  · rw [if_neg hmissing]
    by_cases hdigest : planDigest sha256 payload.plan ≠ payload.planDigest
    · rw [if_pos hdigest]
      exact .inl ⟨.inr (.inr hdigest), _, rfl⟩
    · rw [if_neg hdigest]
      have haccepted : ¬ Rejected sha256 payload := fun h => (or_assoc.mpr h).elim hmissing hdigest
      dsimp only
      cases hspawn : spawnListeners runtime.disable.stopListeners.localIp machine.binds []
          payload.plan.listeners with
      | error error => exact .inr (.inl ⟨haccepted, error, rfl⟩)
      | ok handles =>
        have hhandles : handles = payload.plan.listeners := spawnListeners_eq_ok hspawn
        refine .inr (.inr ⟨haccepted, ?_⟩)
        subst hhandles
        simp [installed, disable, stopListeners]

theorem validateGeneration_eq (runtime : TrafficRuntime) (payload : GenerationPayload) :
    (Matches runtime payload ∧ runtime.validateGeneration payload = .ok ()) ∨
      (¬ Matches runtime payload ∧ ∃ error, runtime.validateGeneration payload = .error error) := by
  unfold validateGeneration Matches
  by_cases h : runtime.status.generation = payload.generation ∧
      runtime.status.planDigest = payload.planDigest
  · rw [if_neg (by simp [h])]
    exact .inl ⟨h, rfl⟩
  · rw [if_pos (by rwa [ne_eq, ne_eq, ← not_and_or])]
    exact .inr ⟨h, _, rfl⟩

/-- An enable changes nothing, or starts the sender of the loaded plan. -/
theorem enable_cases (runtime : TrafficRuntime) (payload : GenerationPayload) :
    (runtime.enable payload).1 = runtime ∨
      ∃ plan, Matches runtime payload ∧ runtime.senderTask = none ∧ runtime.plan = some plan ∧
        runtime.enable payload = (runtime.started plan, .ok ()) := by
  unfold enable
  rcases runtime.validateGeneration_eq payload with ⟨hmatches, hvalid⟩ | ⟨-, error, hvalid⟩
  · rw [hvalid]
    dsimp only
    split
    · exact .inl rfl
    · rename_i hsender
      rw [Bool.not_eq_true, Option.isSome_eq_false_iff, Option.isNone_iff_eq_none] at hsender
      cases hplan : runtime.plan with
      | none => exact .inl rfl
      | some plan =>
        refine .inr ⟨plan, hmatches, hsender, rfl, ?_⟩
        dsimp only
        by_cases hflows : plan.flows = []
        · rw [if_pos hflows]
          simp [started, hflows, hsender, hplan]
        · rw [if_neg hflows]
          simp [started, hflows, hplan]
  · rw [hvalid]
    exact .inl rfl

end TrafficRuntime

/-! ## The invariant -/

theorem Invariant.fresh (sha256 : String → List UInt8) (localIp : Ipv4.Addr) :
    Invariant sha256 (.fresh localIp) where
  shape := .inl ⟨rfl, rfl, rfl, rfl, rfl, rfl⟩
  sending := nofun
  silent _ := ⟨rfl, nofun⟩

theorem Invariant.disable (h : Invariant sha256 runtime) : Invariant sha256 runtime.disable where
  shape := by
    rcases h.shape with hidle | ⟨plan, hplan⟩
    · exact .inl ⟨hidle.plan_eq, hidle.generation, hidle.planDigest, hidle.listenerTasks, rfl,
        hidle.listeners⟩
    · exact .inr ⟨plan, hplan.plan_eq, hplan.generation, hplan.planDigest, hplan.listenerTasks,
        hplan.expectedListeners, hplan.activeListeners, hplan.expectedFlows⟩
  sending := nofun
  silent _ := ⟨rfl, nofun⟩

theorem Invariant.reset (sha256 : String → List UInt8) (runtime : TrafficRuntime)
    (machine : Machine) : Invariant sha256 (runtime.reset machine) where
  shape := .inl ⟨rfl, rfl, rfl, rfl, rfl, rfl⟩
  sending := nofun
  silent _ := ⟨rfl, nofun⟩

theorem Invariant.installed {payload : LoadPayload} (h : ¬ Rejected sha256 payload)
    (runtime : TrafficRuntime) : Invariant sha256 (runtime.installed payload) where
  shape := by
    rw [Rejected, not_or, not_or, not_not] at h
    exact .inr ⟨payload.plan, rfl, h.1, h.2.2.symm, rfl, rfl, rfl, rfl⟩
  sending := nofun
  silent _ := ⟨rfl, nofun⟩

theorem Invariant.started (h : Invariant sha256 runtime) {plan : ClientTrafficPlan}
    (hplan : runtime.plan = some plan) : Invariant sha256 (runtime.started plan) where
  shape := by
    rcases h.shape with hidle | ⟨plan', hloaded⟩
    · rw [hidle.plan_eq] at hplan
      cases hplan
    · exact .inr ⟨plan', hloaded.plan_eq, hloaded.generation, hloaded.planDigest,
        hloaded.listenerTasks, hloaded.expectedListeners, hloaded.activeListeners,
        hloaded.expectedFlows⟩
  sending flows hflows := by
    rw [TrafficRuntime.started, Option.ite_none_left_eq_some, Option.some.injEq] at hflows
    obtain ⟨hne, rfl⟩ := hflows
    refine ⟨plan, hplan, ?_, hne, rfl, ?_⟩
    · rw [List.map_map]
      exact List.map_id _
    · rw [List.countP_map]
      exact (congrFun List.countP_false _).symm
  silent hsender := by
    refine ⟨rfl, fun _ => ⟨plan, hplan, ?_⟩⟩
    rw [TrafficRuntime.started] at hsender
    by_contra hne
    rw [if_neg hne] at hsender
    cases hsender

theorem Invariant.perform (h : Invariant sha256 runtime) (request : Request) (machine : Machine) :
    Invariant sha256 (runtime.perform sha256 request machine).1 := by
  unfold TrafficRuntime.perform
  split
  · rename_i payload
    rcases runtime.load_cases sha256 payload machine with ⟨-, error, hload⟩ | ⟨-, error, hload⟩ |
      ⟨haccepted, hload⟩
    · rwa [hload]
    · rw [hload]
      exact .reset sha256 runtime machine
    · rw [hload]
      exact .installed haccepted runtime
  · exact h
  · rename_i payload
    rcases runtime.enable_cases payload with henable | ⟨plan, -, -, hplan, henable⟩
    · rwa [henable]
    · rw [henable]
      exact h.started hplan
  · exact h
  · split
    · exact h.disable
    · exact h
  · exact h
  · exact .reset sha256 runtime machine
  · exact h
  · exact h

/-- One active flow more, or one less. -/
theorem countP_set_active {flows : List ScheduledFlow} {index : Nat} {flow : ScheduledFlow}
    (hflow : flows[index]? = some flow) {value : Bool} (hne : flow.active ≠ value) :
    (flows.set index { flow with active := value }).countP (·.active) =
      if value then flows.countP (·.active) + 1 else flows.countP (·.active) - 1 := by
  obtain ⟨hindex, hget⟩ := List.getElem?_eq_some_iff.mp hflow
  rw [List.countP_set hindex, hget]
  cases value with
  | true => simp [Bool.eq_false_iff.mpr hne]
  | false => simp [Bool.of_not_eq_false hne]

theorem map_plan_set {flows : List ScheduledFlow} {index : Nat} {flow : ScheduledFlow}
    (hflow : flows[index]? = some flow) (value : Bool) :
    (flows.set index { flow with active := value }).map (·.plan) = flows.map (·.plan) := by
  obtain ⟨hindex, hget⟩ := List.getElem?_eq_some_iff.mp hflow
  rw [List.map_set]
  refine List.ext_getElem (by simp) fun i _ _ => ?_
  rw [List.getElem_set]
  split
  · rename_i heq
    subst heq
    rw [List.getElem_map, hget]
  · rfl

/-- The runtime after a flow of the sender changed its activity. -/
def TrafficRuntime.toggled (runtime : TrafficRuntime) (flows : List ScheduledFlow) (value : Bool) :
    TrafficRuntime :=
  { runtime with senderTask := some flows, status := setFlowActive runtime.status value }

/-- The status after a report of the sender on its traffic. -/
structure Counts (status before : AgentStatus) : Prop where
  ready : status.ready = before.ready
  enabled : status.enabled = before.enabled
  generation : status.generation = before.generation
  planDigest : status.planDigest = before.planDigest
  expectedFlows : status.expectedFlows = before.expectedFlows
  activeFlows : status.activeFlows = before.activeFlows
  expectedListeners : status.expectedListeners = before.expectedListeners
  activeListeners : status.activeListeners = before.activeListeners

def TrafficRuntime.counted (runtime : TrafficRuntime) (status : AgentStatus) : TrafficRuntime :=
  { runtime with status }

/-- A report of the sender counts its traffic, or toggles one flow. -/
theorem TrafficRuntime.sender_cases (runtime : TrafficRuntime) (event : SenderEvent) :
    (∃ status, runtime.sender event = runtime.counted status ∧ Counts status runtime.status) ∨
    ∃ flows index flow value, runtime.senderTask = some flows ∧ flows[index]? = some flow ∧
      flow.active ≠ value ∧
      runtime.sender event = runtime.toggled (flows.set index { flow with active := value }) value := by
  have hsame : ∃ status, runtime = runtime.counted status ∧ Counts status runtime.status :=
    ⟨runtime.status, rfl, rfl, rfl, rfl, rfl, rfl, rfl, rfl, rfl⟩
  unfold TrafficRuntime.sender
  split
  · exact .inl hsame
  · rename_i flows hsender
    cases event with
    | setFlowActive index value =>
      dsimp only
      split
      · exact .inl hsame
      · rename_i flow hflow
        split
        · exact .inl hsame
        · rename_i hne
          exact .inr ⟨flows, index, flow, value, hsender, hflow, hne, rfl⟩
    | recordSchedulerTick packets bytes now =>
      exact .inl ⟨_, rfl, rfl, rfl, rfl, rfl, rfl, rfl, rfl, rfl⟩
    | recordReconnect => exact .inl ⟨_, rfl, rfl, rfl, rfl, rfl, rfl, rfl, rfl, rfl⟩
    | recordError error => exact .inl ⟨_, rfl, rfl, rfl, rfl, rfl, rfl, rfl, rfl, rfl⟩

theorem Invariant.counted (h : Invariant sha256 runtime) {status : AgentStatus}
    (hstatus : Counts status runtime.status) : Invariant sha256 (runtime.counted status) where
  shape := by
    rcases h.shape with hidle | ⟨plan, hplan⟩
    · exact .inl ⟨hidle.plan_eq, hstatus.generation.trans hidle.generation,
        hstatus.planDigest.trans hidle.planDigest, hidle.listenerTasks, hidle.senderTask,
        hstatus.activeListeners.trans (hidle.listeners.trans hstatus.expectedListeners.symm)⟩
    · refine .inr ⟨plan, hplan.plan_eq, ?_, hstatus.planDigest.trans hplan.planDigest,
        hplan.listenerTasks, hstatus.expectedListeners.trans hplan.expectedListeners,
        hstatus.activeListeners.trans hplan.activeListeners,
        hstatus.expectedFlows.trans hplan.expectedFlows⟩
      exact hstatus.generation.trans_ne hplan.generation
  sending flows hflows := by
    obtain ⟨plan, hplan⟩ := h.sending flows hflows
    exact ⟨plan, hplan.plan_eq, hplan.flows_eq, hplan.nonempty, hstatus.enabled.trans hplan.enabled,
      hstatus.activeFlows.trans hplan.activeFlows⟩
  silent hsender := by
    obtain ⟨hactive, henabled⟩ := h.silent hsender
    exact ⟨hstatus.activeFlows.trans hactive, fun h => henabled (hstatus.enabled.symm.trans h)⟩

theorem Invariant.toggled (h : Invariant sha256 runtime) {flows : List ScheduledFlow} {index : Nat}
    {flow : ScheduledFlow} {value : Bool} (hsender : runtime.senderTask = some flows)
    (hflow : flows[index]? = some flow) (hne : flow.active ≠ value) :
    Invariant sha256 (runtime.toggled (flows.set index { flow with active := value }) value) where
  shape := by
    rcases h.shape with hidle | ⟨plan, hplan⟩
    · rw [hidle.senderTask] at hsender
      cases hsender
    · exact .inr ⟨plan, hplan.plan_eq, hplan.generation, hplan.planDigest, hplan.listenerTasks,
        hplan.expectedListeners, hplan.activeListeners, hplan.expectedFlows⟩
  sending flows' hflows := by
    cases hflows
    obtain ⟨plan, hplan⟩ := h.sending flows hsender
    refine ⟨plan, hplan.plan_eq, (map_plan_set hflow value).trans hplan.flows_eq, hplan.nonempty,
      hplan.enabled, ?_⟩
    rw [countP_set_active hflow hne, ← hplan.activeFlows]
    rfl
  silent := nofun

theorem Invariant.sender (h : Invariant sha256 runtime) (event : SenderEvent) :
    Invariant sha256 (runtime.sender event) := by
  rcases runtime.sender_cases event with ⟨status, hevent, hstatus⟩ |
    ⟨flows, index, flow, value, hsender, hflow, hne, hevent⟩
  · rw [hevent]
    exact h.counted hstatus
  · rw [hevent]
    exact h.toggled hsender hflow hne

/-- The step lemma: a request or a report leaves the process with no plan, or with the one that its
status describes. -/
theorem Invariant.step (h : Invariant sha256 runtime) (event : Event) :
    Invariant sha256 (runtime.step sha256 event) := by
  cases event with
  | request request machine => exact h.perform request machine
  | sender event => exact h.sender event

/-- The invariant holds after every sequence of events. -/
theorem Invariant.run (sha256 : String → List UInt8) (localIp : Ipv4.Addr) (events : List Event) :
    Invariant sha256 (.run sha256 localIp events) :=
  Run.invariant_of_step (fun _ event h => h.step event) (.fresh sha256 localIp) events

/-! ## The two shapes -/

/-- What holds of the process between two events. -/
structure RuntimeSound (sha256 : String → List UInt8) (runtime : TrafficRuntime) : Prop where
  shape : Unloaded runtime ∨ ∃ plan, Loaded sha256 runtime plan
  sender : runtime.senderTask.isSome →
    ∃ plan, runtime.plan = some plan ∧ plan.flows ≠ [] ∧ runtime.status.enabled
  rejected : ∀ payload machine, Rejected sha256 payload →
    (runtime.handleRequest sha256 (.loadPlan (.ok payload)) machine).1 = runtime
  mismatch : ∀ payload machine, ¬ Matches runtime payload →
    (runtime.handleRequest sha256 (.enable (.ok payload)) machine).1 = runtime ∧
      (runtime.handleRequest sha256 (.disable (.ok payload)) machine).1 = runtime

/-- After any events the process has no plan, or the plan that its status describes; a sender runs
for an enabled plan with flows; requests for another plan change nothing. -/
theorem traffic_runtime_sound (sha256 : String → List UInt8) (localIp : Ipv4.Addr)
    (events : List Event) : RuntimeSound sha256 (.run sha256 localIp events) where
  shape := (Invariant.run sha256 localIp events).shape
  sender hsender := by
    obtain ⟨flows, hflows⟩ := Option.isSome_iff_exists.mp hsender
    obtain ⟨plan, hplan⟩ := (Invariant.run sha256 localIp events).sending flows hflows
    exact ⟨plan, hplan.plan_eq, hplan.nonempty, hplan.enabled⟩
  rejected payload machine hrejected := by
    rcases TrafficRuntime.load_cases sha256 _ payload machine with ⟨-, error, hload⟩ | ⟨h, -⟩ | ⟨h, -⟩
    · exact congrArg Prod.fst hload
    · exact absurd hrejected h
    · exact absurd hrejected h
  mismatch payload machine hmismatch := by
    constructor
    · rcases TrafficRuntime.enable_cases _ payload with henable | ⟨plan, hmatches, -⟩
      · exact henable
      · exact absurd hmatches hmismatch
    · rcases TrafficRuntime.validateGeneration_eq _ payload with ⟨hmatches, -⟩ | ⟨-, error, hvalid⟩
      · exact absurd hmatches hmismatch
      · simp only [TrafficRuntime.handleRequest, TrafficRuntime.perform, hvalid]

end NetOpsBench.Traffic
