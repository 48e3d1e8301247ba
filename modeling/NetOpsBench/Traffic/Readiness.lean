import NetOpsBench.Traffic.Invariant

/-!
# Readiness of the traffic process

The controller starts an experiment when every process says that it is ready. One request makes a
process say so without a plan: the `disable` that names no generation.

`readiness_iff` is the equivalence over runs: being ready means `ReadyMeansReady` after every run in which
no request `DisablesNothing`. `blank_disable_ready` is the one request.
-/

namespace NetOpsBench.Traffic
open ClientAgent

variable {sha256 : String → List UInt8} {runtime : TrafficRuntime}

/-- A ready process has a plan and its listeners, and if enabled it runs every flow. -/
def ReadyMeansReady (runtime : TrafficRuntime) : Prop :=
  runtime.status.ready → ∃ plan, runtime.plan = some plan ∧
    runtime.listenerTasks = plan.listeners ∧
    (runtime.status.enabled → runtime.status.activeFlows = runtime.status.expectedFlows)

/-- A `disable` that names the generation and digest of a process without a plan. -/
def DisablesNothing (runtime : TrafficRuntime) (event : Event) : Prop :=
  runtime.plan = none ∧
    ∃ machine, event = .request (.disable (.ok { generation := 0, planDigest := "" })) machine

theorem Invariant.unloaded (h : Invariant sha256 runtime) (hplan : runtime.plan = none) :
    Unloaded runtime := by
  rcases h.shape with hidle | ⟨plan, hloaded⟩
  · exact hidle
  · rw [hloaded.plan_eq] at hplan
    cases hplan

theorem Invariant.loaded (h : Invariant sha256 runtime) {plan : ClientTrafficPlan}
    (hplan : runtime.plan = some plan) : Loaded sha256 runtime plan := by
  rcases h.shape with hidle | ⟨plan', hloaded⟩
  · rw [hidle.plan_eq] at hplan
    cases hplan
  · have heq := hloaded.plan_eq
    rw [hplan, Option.some.injEq] at heq
    rwa [heq]

/-- A disable with the generation and digest of the process takes effect, and any other is refused. -/
theorem perform_disable_cases (sha256 : String → List UInt8) (runtime : TrafficRuntime)
    (payload : GenerationPayload) (machine : Machine) :
    (Matches runtime payload ∧
      (runtime.perform sha256 (.disable (.ok payload)) machine).1 = runtime.disable) ∨
    (¬ Matches runtime payload ∧
      (runtime.perform sha256 (.disable (.ok payload)) machine).1 = runtime) := by
  rcases runtime.validateGeneration_eq payload with ⟨hmatches, hvalid⟩ | ⟨hmismatch, error, hvalid⟩
  · refine .inl ⟨hmatches, ?_⟩
    simp only [TrafficRuntime.perform, hvalid]
  · refine .inr ⟨hmismatch, ?_⟩
    simp only [TrafficRuntime.perform, hvalid]

/-- The request that disables nothing makes a process without a plan ready. -/
theorem not_readyMeansReady (h : Invariant sha256 runtime) {event : Event}
    (hevent : DisablesNothing runtime event) : ¬ ReadyMeansReady (runtime.step sha256 event) := by
  obtain ⟨hplan, machine, rfl⟩ := hevent
  have hidle := h.unloaded hplan
  have hstep : runtime.step sha256
      (.request (.disable (.ok { generation := 0, planDigest := "" })) machine) =
        runtime.disable := by
    rcases perform_disable_cases sha256 runtime { generation := 0, planDigest := "" } machine with
      ⟨-, hperform⟩ | ⟨hmismatch, -⟩
    · exact hperform
    · exact absurd ⟨hidle.generation, hidle.planDigest⟩ hmismatch
  intro hready
  rw [hstep] at hready
  obtain ⟨plan, hsome, -⟩ := hready (decide_eq_true hidle.listeners)
  exact Option.some_ne_none plan (hsome.symm.trans hplan)

/-! ## Every other step keeps it -/

theorem ReadyMeansReady.reset (runtime : TrafficRuntime) (machine : Machine) :
    ReadyMeansReady (runtime.reset machine) := nofun

theorem ReadyMeansReady.installed (runtime : TrafficRuntime) (payload : LoadPayload) :
    ReadyMeansReady (runtime.installed payload) :=
  fun _ => ⟨payload.plan, rfl, rfl, nofun⟩

theorem ReadyMeansReady.started (h : Invariant sha256 runtime) {plan : ClientTrafficPlan}
    (hplan : runtime.plan = some plan) : ReadyMeansReady (runtime.started plan) := by
  intro hready
  have hloaded := h.loaded hplan
  have hflows : plan.flows = [] := of_decide_eq_true (Bool.and_eq_true_iff.mp hready).1
  refine ⟨plan, hplan, hloaded.listenerTasks, fun _ => ?_⟩
  show 0 = runtime.status.expectedFlows
  rw [hloaded.expectedFlows, hflows]
  rfl

theorem ReadyMeansReady.disable (h : Invariant sha256 runtime) (hplan : runtime.plan ≠ none) :
    ReadyMeansReady runtime.disable := by
  intro _
  obtain ⟨plan, hplan⟩ := Option.ne_none_iff_exists'.mp hplan
  exact ⟨plan, hplan, (h.loaded hplan).listenerTasks, nofun⟩

theorem ReadyMeansReady.toggled (h : Invariant sha256 runtime)
    {flows : List ScheduledFlow} (hsender : runtime.senderTask = some flows)
    (flows' : List ScheduledFlow) (value : Bool) :
    ReadyMeansReady (runtime.toggled flows' value) := by
  intro hready
  obtain ⟨plan, hsending⟩ := h.sending flows hsender
  refine ⟨plan, hsending.plan_eq, (h.loaded hsending.plan_eq).listenerTasks, fun henabled => ?_⟩
  rcases (of_decide_eq_true hready).2 with hdisabled | hactive
  · exact absurd henabled hdisabled
  · exact hactive

theorem ReadyMeansReady.perform (h : Invariant sha256 runtime) (hready : ReadyMeansReady runtime)
    {request : Request} {machine : Machine}
    (hrequest : ¬ DisablesNothing runtime (.request request machine)) :
    ReadyMeansReady (runtime.perform sha256 request machine).1 := by
  cases request with
  | loadPlan payload =>
    cases payload with
    | error error => exact hready
    | ok payload =>
      show ReadyMeansReady (runtime.load sha256 payload machine).1
      rcases runtime.load_cases sha256 payload machine with ⟨-, error, hload⟩ |
        ⟨-, error, hload⟩ | ⟨-, hload⟩
      · rwa [hload]
      · rw [hload]
        exact .reset runtime machine
      · rw [hload]
        exact .installed runtime payload
  | enable payload =>
    cases payload with
    | error error => exact hready
    | ok payload =>
      show ReadyMeansReady (runtime.enable payload).1
      rcases runtime.enable_cases payload with henable | ⟨plan, -, -, hplan, henable⟩
      · rwa [henable]
      · rw [henable]
        exact .started h hplan
  | disable payload =>
    cases payload with
    | error error => exact hready
    | ok payload =>
      rcases perform_disable_cases sha256 runtime payload machine with ⟨hmatches, hdisable⟩ |
        ⟨-, hdisable⟩
      · rw [hdisable]
        refine .disable h fun hplan => hrequest ⟨hplan, machine, ?_⟩
        -- without a plan only the blank generation matches
        have hidle := h.unloaded hplan
        obtain ⟨generation, digest⟩ := payload
        obtain ⟨hgeneration, hdigest⟩ := hmatches
        rw [hidle.generation] at hgeneration
        rw [hidle.planDigest] at hdigest
        subst hgeneration hdigest
        rfl
      · rwa [hdisable]
  | reset => exact .reset runtime machine
  | status => exact hready
  | other op => exact hready

/-- Every event but the request that disables nothing keeps the promise. -/
theorem ReadyMeansReady.step (h : Invariant sha256 runtime) (hready : ReadyMeansReady runtime)
    {event : Event} (hevent : ¬ DisablesNothing runtime event) :
    ReadyMeansReady (runtime.step sha256 event) := by
  cases event with
  | request request machine => exact hready.perform h hevent
  | sender event =>
    show ReadyMeansReady (runtime.sender event)
    rcases runtime.sender_cases event with ⟨status, hsame, hstatus⟩ |
      ⟨flows, index, flow, value, hsender, -, -, htoggled⟩
    · rw [hsame]
      intro hcounted
      obtain ⟨plan, hplan, hlisteners, hactive⟩ := hready (hstatus.ready.symm.trans hcounted)
      refine ⟨plan, hplan, hlisteners, fun henabled => ?_⟩
      have henabled := hactive (hstatus.enabled.symm.trans henabled)
      exact hstatus.activeFlows.trans (henabled.trans hstatus.expectedFlows.symm)
    · rw [htoggled]
      exact .toggled h hsender _ _

/-- Readiness means readiness in every state of a run, if and only if the run never disables a
process without a plan. -/
theorem readiness_iff (sha256 : String → List UInt8) (localIp : Ipv4.Addr) (events : List Event) :
    (∀ before, before <+: events → ReadyMeansReady (.run sha256 localIp before)) ↔
      Run.Meets (·.step sha256 ·) (fun runtime event => ¬ DisablesNothing runtime event)
        (.fresh localIp) events := by
  constructor
  · intro h
    rw [Run.meets_iff]
    intro before event after hevents hevent
    refine not_readyMeansReady (Invariant.run sha256 localIp before) hevent ?_
    have hprefix : before ++ [event] <+: events := ⟨after, by rw [hevents, List.append_assoc]; rfl⟩
    have hready := h _ hprefix
    rw [TrafficRuntime.run, List.foldl_append] at hready
    exact hready
  · rintro h before ⟨after, rfl⟩
    have hkeep : ∀ runtime event, Invariant sha256 runtime ∧ ReadyMeansReady runtime →
        ¬ DisablesNothing runtime event → Invariant sha256 (runtime.step sha256 event) ∧
          ReadyMeansReady (runtime.step sha256 event) :=
      fun runtime event h hevent => ⟨h.1.step event, h.2.step h.1 hevent⟩
    exact (Run.invariant hkeep ⟨.fresh sha256 localIp, nofun⟩ (Run.meets_append.mp h).1).2

/-- A fresh process that is told to disable generation 0 says that it is ready. -/
theorem blank_disable_ready :
    ¬ ReadyMeansReady (.run (fun _ => []) (.ofOctets 192 0 2 1)
      [.request (.disable (.ok { generation := 0, planDigest := "" }))
        { now := 0, binds := fun _ => .ok () }]) := by
  refine not_readyMeansReady (Invariant.fresh _ _) ⟨rfl, _, rfl⟩

end NetOpsBench.Traffic
