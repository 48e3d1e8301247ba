import NetOpsBench.Traffic.Controller
import NetOpsBench.Traffic.Readiness

/-!
# One generation at a time

The agents never run the traffic of two rounds, as long as no late request finds an agent that a later
round has taken over. The agents themselves do not look: a reset is never refused, and a load or an
enable is checked against its own digest and the loaded plan, not against what the agent handled
since.

`generation_switch` is the result over every run whose deliveries are `Timely`: `OneGeneration` at any
time, and in a round that has succeeded every agent `Runs` its plan, which no late copy stops
(`LateCopySafe`). The invariant is `Consistent`. `lateCopies_two_generations` is a run in which late copies of
the first round take over one agent from the second.
-/

namespace NetOpsBench.Traffic
open ClientAgent

variable {sha256 : String → List UInt8} {clients : List String} {system : System}

/-! ## What the switch promises -/

/-- The agents that are enabled have plans of one generation. -/
def OneGeneration (system : System) : Prop :=
  ∀ first second, (system.agents first).status.enabled → (system.agents second).status.enabled →
    (system.agents first).status.generation = (system.agents second).status.generation

/-- The agent of a client is enabled for the plan of a round. -/
structure Runs (round : Round) (client : String) (runtime : TrafficRuntime) : Prop where
  enabled : runtime.status.enabled
  plan_eq : runtime.plan = some (round.plans client)
  generation : runtime.status.generation = round.generation

/-- Once every agent has acknowledged the enable of a round, a copy of an earlier round stops no plan
of that round, and leaves no agent enabled for another plan. -/
def LateCopySafe (sha256 : String → List UInt8) (clients : List String) (system : System)
    (event : SystemEvent) : Prop :=
  ∀ position machine answered copy latest, event = .deliver position machine answered →
    system.flight[position]? = some copy → system.acknowledged = some latest →
    copy.origin.index < latest.index →
    (Runs latest.round copy.client (system.agents copy.client) →
      Runs latest.round copy.client
        ((system.step sha256 clients event).agents copy.client)) ∧
    (((system.step sha256 clients event).agents copy.client).status.enabled →
      Runs latest.round copy.client
        ((system.step sha256 clients event).agents copy.client))

/-- A load that its agent accepts is not older than the last reset that the agent handled. A reset of
a round before the last acknowledged one finds its agent disabled. -/
def Copy.Timely (sha256 : String → List UInt8) (system : System) (copy : Copy) : Prop :=
  (copy.operation = .load → ¬ Rejected sha256 (copy.origin.round.loadPayload copy.client) →
    system.resets copy.client ≤ copy.origin.index) ∧
  (copy.Resets → (∃ latest ∈ system.acknowledged, copy.origin.index < latest.index) →
    (system.agents copy.client).status.enabled = false)

def Timely (sha256 : String → List UInt8) (system : System) : SystemEvent → Prop
  | .deliver position _ _ => ∀ copy ∈ system.flight[position]?, copy.Timely sha256 system
  | _ => True

instance (payload : LoadPayload) : Decidable (Rejected sha256 payload) :=
  inferInstanceAs (Decidable (_ ∨ _))

instance (copy : Copy) : Decidable (copy.Timely sha256 system) :=
  inferInstanceAs (Decidable ((_ → ¬ Rejected sha256 _ → _) ∧ _))

instance (event : SystemEvent) : Decidable (Timely sha256 system event) :=
  match event with
  | .deliver position _ _ =>
    inferInstanceAs (Decidable (∀ copy ∈ system.flight[position]?, copy.Timely sha256 system))
  | .start _ | .send _ | .timeout _ | .advance | .ready | .unready | .sender _ _ => .isTrue trivial

/-! ## What a copy does to its agent -/

theorem enabled_plan {runtime : TrafficRuntime} (h : Invariant sha256 runtime)
    (henabled : runtime.status.enabled) : ∃ plan, runtime.plan = some plan := by
  cases hsender : runtime.senderTask with
  | none =>
    obtain ⟨plan, hplan, -⟩ := (h.silent hsender).2 henabled
    exact ⟨plan, hplan⟩
  | some flows =>
    obtain ⟨plan, hplan⟩ := h.sending flows hsender
    exact ⟨plan, hplan.plan_eq⟩

/-- The runtime after a copy. -/
def Copy.handled (sha256 : String → List UInt8) (copy : Copy) (runtime : TrafficRuntime)
    (machine : Machine) : TrafficRuntime :=
  (runtime.handleRequest sha256 copy.request machine).1

theorem Copy.handled_reset {copy : Copy} (h : copy.Resets) (runtime : TrafficRuntime)
    (machine : Machine) : copy.handled sha256 runtime machine = runtime.reset machine := by
  obtain ⟨origin, operation, client, attempt⟩ := copy
  rcases h with rfl | rfl <;> rfl

variable (sha256) in
/-- A load is turned down, or fails and leaves no plan, or installs its plan. -/
theorem Copy.handled_load {copy : Copy} (h : copy.operation = .load) (runtime : TrafficRuntime)
    (machine : Machine) :
    (Rejected sha256 (copy.origin.round.loadPayload copy.client) ∧
      copy.handled sha256 runtime machine = runtime) ∨
    (¬ Rejected sha256 (copy.origin.round.loadPayload copy.client) ∧
      (copy.handled sha256 runtime machine = runtime.reset machine ∨
        copy.handled sha256 runtime machine =
          runtime.installed (copy.origin.round.loadPayload copy.client))) := by
  obtain ⟨origin, operation, client, attempt⟩ := copy
  subst h
  rcases runtime.load_cases sha256 (origin.round.loadPayload client) machine with
    ⟨hrejected, error, hload⟩ | ⟨haccepted, error, hload⟩ | ⟨haccepted, hload⟩
  · exact .inl ⟨hrejected, congrArg Prod.fst hload⟩
  · exact .inr ⟨haccepted, .inl (congrArg Prod.fst hload)⟩
  · exact .inr ⟨haccepted, .inr (congrArg Prod.fst hload)⟩

variable (sha256) in
/-- An enable changes neither plan nor generation, and disables nothing. -/
theorem Copy.handled_enable {copy : Copy} (h : copy.operation = .enable) (runtime : TrafficRuntime)
    (machine : Machine) :
    (copy.handled sha256 runtime machine).plan = runtime.plan ∧
      (copy.handled sha256 runtime machine).status.generation = runtime.status.generation ∧
      (runtime.status.enabled → (copy.handled sha256 runtime machine).status.enabled) := by
  obtain ⟨origin, operation, client, attempt⟩ := copy
  subst h
  show (runtime.enable (origin.round.generationPayload client)).1.plan = _ ∧
    (runtime.enable (origin.round.generationPayload client)).1.status.generation = _ ∧
    (_ → (runtime.enable (origin.round.generationPayload client)).1.status.enabled)
  rcases runtime.enable_cases (origin.round.generationPayload client) with
    henable | ⟨plan, -, -, -, henable⟩
  · rw [henable]
    exact ⟨rfl, rfl, id⟩
  · rw [henable]
    exact ⟨rfl, rfl, fun _ => rfl⟩

theorem Copy.operation_cases (copy : Copy) :
    copy.Resets ∨ copy.operation = .load ∨ copy.operation = .enable := by
  cases h : copy.operation with
  | reset => exact .inl (.inl h)
  | load => exact .inr (.inl rfl)
  | enable => exact .inr (.inr rfl)
  | recover => exact .inl (.inr h)

/-! ## The invariant -/

/-- Where a copy on its way comes from. -/
structure Copy.Accounted (clients : List String) (current loading : Option Started) (copy : Copy) :
    Prop where
  client_mem : copy.client ∈ clients
  of_current : ∃ origin ∈ current, copy.origin.index ≤ origin.index ∧
    (copy.origin.index = origin.index → copy.origin = origin)
  of_loading : ∀ latest ∈ loading, copy.origin.index = latest.index → copy.origin = latest
  load : copy.operation = .load → ∃ latest ∈ loading, copy.origin.index ≤ latest.index

/-- A client's agent has the plan of the latest round that came to load, and handled no later
reset. -/
structure Holds (clients : List String) (client : String) (reset : Nat) (runtime : TrafficRuntime)
    (plan : ClientTrafficPlan) (latest : Started) : Prop where
  client_mem : client ∈ clients
  reset_le : reset ≤ latest.index
  plan_eq : plan = latest.round.plans client
  generation : runtime.status.generation = latest.round.generation

structure Consistent (sha256 : String → List UInt8) (clients : List String) (system : System) :
    Prop where
  agents : ∀ client, Invariant sha256 (system.agents client)
  flight : ∀ copy ∈ system.flight, copy.Accounted clients system.current system.loading
  loading : ∀ latest ∈ system.loading, ∃ origin ∈ system.current, latest.index ≤ origin.index ∧
    (origin.index = latest.index → origin = latest)
  resets : ∀ client, system.resets client ≤ system.index
  reset_all : ∀ latest ∈ system.loading, ∀ client ∈ clients, latest.index ≤ system.resets client
  resetting : system.phase = .requesting .reset →
    (∀ latest ∈ system.loading, latest.index < system.index) ∧
      ∀ client, system.calls client = .answered → system.index ≤ system.resets client
  switching : system.phase = .requesting .load ∨ system.phase = .requesting .enable →
    system.loading = system.current
  acknowledged : ∀ latest ∈ system.acknowledged, system.loading = some latest
  plans : ∀ client plan, (system.agents client).plan = some plan →
    ∃ latest ∈ system.loading,
      Holds clients client (system.resets client) (system.agents client) plan latest

theorem System.index_of_current {origin : Started} (h : system.current = some origin) :
    system.index = origin.index := by
  rw [System.index, h]
  rfl

theorem Consistent.init (sha256 : String → List UInt8) (clients : List String)
    (localIps : String → Ipv4.Addr) : Consistent sha256 clients (.init localIps) where
  agents client := .fresh sha256 (localIps client)
  flight := nofun
  loading := nofun
  resets _ := le_rfl
  reset_all := nofun
  resetting := nofun
  switching := by rintro (h | h) <;> cases h
  acknowledged := nofun
  plans := nofun

/-! ## Steps of the controller -/

theorem answered_of_update {calls : String → Call} {client client' : String} {call : Call}
    (h : Function.update calls client call client' = .answered) (hcall : call ≠ .answered) :
    calls client' = .answered := by
  by_cases heq : client' = client
  · subst heq
    rw [Function.update_self] at h
    exact absurd h hcall
  · rwa [Function.update_of_ne heq] at h

/-- Another phase, with all requests unsent. -/
theorem Consistent.enter (h : Consistent sha256 clients system) {phase : Phase}
    (hreset : phase = .requesting .reset → ∀ latest ∈ system.loading, latest.index < system.index)
    (hswitch : phase = .requesting .load ∨ phase = .requesting .enable →
      system.loading = system.current) :
    Consistent sha256 clients (system.enter phase) :=
  { h with
    resetting := fun hphase => ⟨hreset hphase, nofun⟩
    switching := hswitch }

theorem Consistent.start (h : Consistent sha256 clients system) (round : Round) :
    Consistent sha256 clients (system.start round) := by
  unfold System.start
  split
  · rename_i hidle
    set next : Started := { index := system.index + 1, round }
    have hlater : ∀ {origin : Started}, system.current = some origin →
        origin.index < next.index := fun hcurrent => by
      rw [← System.index_of_current hcurrent]
      exact Nat.lt_succ_self _
    have hloading : ∀ latest ∈ system.loading, latest.index < next.index := fun latest hlatest => by
      obtain ⟨origin, hcurrent, hle, -⟩ := h.loading latest hlatest
      exact hle.trans_lt (hlater hcurrent)
    have hnext : Consistent sha256 clients { system with current := some next } := by
      refine { h with
        flight := fun copy hcopy => ?_
        loading := fun latest hlatest => ⟨next, rfl, (hloading latest hlatest).le,
          fun heq => absurd heq (hloading latest hlatest).ne'⟩
        resets := fun client => (h.resets client).trans (Nat.le_succ _)
        resetting := fun hphase => by rw [hidle] at hphase; cases hphase
        switching := fun hphase => by rw [hidle] at hphase; rcases hphase with h | h <;> cases h }
      have haccounted := h.flight copy hcopy
      obtain ⟨origin, hcurrent, hle, -⟩ := haccounted.of_current
      have hlt := hle.trans_lt (hlater hcurrent)
      exact { haccounted with of_current := ⟨next, rfl, hlt.le, fun heq => absurd heq hlt.ne⟩ }
    exact hnext.enter (fun _ => hloading) (by rintro (h | h) <;> cases h)
  · exact h

/-- A copy that is sent comes from the current round. -/
theorem Consistent.send (h : Consistent sha256 clients system) (client : String) :
    Consistent sha256 clients (system.send clients client) := by
  unfold System.send
  split
  · rename_i operation origin attempt hphase hcurrent hcall
    split
    · rename_i hclient
      have hcopy : Copy.Accounted clients system.current system.loading
          { origin, operation, client, attempt } := by
        refine ⟨hclient, ⟨origin, hcurrent, le_rfl, fun _ => rfl⟩, fun latest hlatest heq => ?_,
          fun hload => ?_⟩
        · obtain ⟨origin', hcurrent', -, hsame⟩ := h.loading latest hlatest
          cases hcurrent.symm.trans hcurrent'
          exact hsame heq
        · have hload : operation = .load := hload
          subst hload
          exact ⟨origin, (h.switching (.inl hphase)).trans hcurrent, le_rfl⟩
      refine { h with
        flight := fun copy hmem => ?_
        resetting := fun hreset => ⟨(h.resetting hreset).1, fun client' hanswered =>
          (h.resetting hreset).2 client' (answered_of_update hanswered nofun)⟩ }
      rcases List.mem_append.mp hmem with hmem | hmem
      · exact h.flight copy hmem
      · cases List.mem_singleton.mp hmem
        exact hcopy
    · exact h
  · exact h

theorem Consistent.timeout (h : Consistent sha256 clients system) (client : String) :
    Consistent sha256 clients (system.timeout client) := by
  unfold System.timeout
  split
  · exact { h with
      resetting := fun hreset => ⟨(h.resetting hreset).1, fun client' hanswered =>
        (h.resetting hreset).2 client' (answered_of_update hanswered (by split <;> nofun))⟩ }
  · exact h

/-- When every agent has answered the reset of a round, no agent has a plan. -/
theorem Consistent.no_plan (h : Consistent sha256 clients system)
    (hphase : system.phase = .requesting .reset)
    (hanswered : ∀ client ∈ clients, system.calls client = .answered) (client : String) :
    (system.agents client).plan = none := by
  obtain ⟨hloading, hresets⟩ := h.resetting hphase
  cases hplan : (system.agents client).plan with
  | none => rfl
  | some plan =>
    obtain ⟨latest, hlatest, hholds⟩ := h.plans client plan hplan
    have hreset := hresets client (hanswered client hholds.client_mem)
    exact absurd hholds.reset_le ((hloading latest hlatest).trans_le hreset).not_ge

/-- The round that has reset every agent comes to load. -/
theorem Consistent.load (h : Consistent sha256 clients system)
    (hphase : system.phase = .requesting .reset)
    (hanswered : ∀ client ∈ clients, system.calls client = .answered) :
    Consistent sha256 clients
      ({ system with loading := system.current, acknowledged := none }.enter
        (.requesting .load)) := by
  refine { h with
    flight := fun copy hcopy => ?_
    loading := fun latest hlatest => ⟨latest, hlatest, le_rfl, fun _ => rfl⟩
    reset_all := fun latest hlatest client hclient => ?_
    resetting := nofun
    switching := fun _ => rfl
    acknowledged := nofun
    plans := fun client plan hplan => ?_ }
  · have haccounted := h.flight copy hcopy
    obtain ⟨origin, hcurrent, hle, hsame⟩ := haccounted.of_current
    refine { haccounted with
      of_loading := fun latest hlatest heq => ?_
      load := fun _ => ⟨origin, hcurrent, hle⟩ }
    cases Option.mem_unique hcurrent hlatest
    exact hsame heq
  · have hreset := (h.resetting hphase).2 client (hanswered client hclient)
    rwa [System.index_of_current hlatest] at hreset
  · have hnone := h.no_plan hphase hanswered client
    exact absurd (hnone.symm.trans hplan) nofun

theorem Consistent.acknowledge (h : Consistent sha256 clients system)
    (hphase : system.phase = .requesting .enable) :
    Consistent sha256 clients
      ({ system with acknowledged := system.current }.enter .polling) :=
  { h with
    resetting := nofun
    switching := fun hphase => by rcases hphase with h | h <;> cases h
    acknowledged := fun _ hlatest => (h.switching (.inr hphase)).trans hlatest }

/-- A phase ends when every client has answered or failed. -/
theorem Consistent.advance (h : Consistent sha256 clients system) :
    Consistent sha256 clients (system.advance clients) := by
  unfold System.advance
  split
  · rename_i operation hphase
    split
    · have hrecover : Consistent sha256 clients (system.enter (.requesting .recover)) :=
        h.enter nofun (by rintro (h | h) <;> cases h)
      have hidle : Consistent sha256 clients (system.enter .idle) :=
        h.enter nofun (by rintro (h | h) <;> cases h)
      cases operation with
      | recover => exact hidle
      | reset =>
        rw [if_neg nofun]
        split
        · rename_i hanswered
          exact h.load hphase hanswered
        · exact hrecover
      | load =>
        rw [if_neg nofun]
        split
        · exact h.enter nofun (fun _ => h.switching (.inl hphase))
        · exact hrecover
      | enable =>
        rw [if_neg nofun]
        split
        · exact h.acknowledge hphase
        · exact hrecover
    · exact h
  · exact h

/-! ## Steps of the agents -/

/-- One agent has another state, and may have handled a reset. -/
theorem Consistent.update (h : Consistent sha256 clients system) {client : String}
    {runtime : TrafficRuntime} {reset : Nat} (hruntime : Invariant sha256 runtime)
    (hle : system.resets client ≤ reset) (hindex : reset ≤ system.index)
    (hplan : ∀ plan, runtime.plan = some plan →
      ∃ latest ∈ system.loading, Holds clients client reset runtime plan latest) :
    Consistent sha256 clients
      { system with
        agents := Function.update system.agents client runtime
        resets := Function.update system.resets client reset } := by
  have hmono : ∀ client', system.resets client' ≤
      Function.update system.resets client reset client' := fun client' => by
    by_cases heq : client' = client
    · rwa [heq, Function.update_self]
    · rw [Function.update_of_ne heq]
  refine { h with
    agents := ?_
    resets := ?_
    reset_all := fun latest hlatest client' hclient =>
      (h.reset_all latest hlatest client' hclient).trans (hmono client')
    resetting := fun hphase => ⟨(h.resetting hphase).1, fun client' hanswered =>
      ((h.resetting hphase).2 client' hanswered).trans (hmono client')⟩
    plans := fun client' plan hsome => ?_ }
  · exact (Function.forall_update_iff _ fun _ => Invariant sha256).mpr
      ⟨hruntime, fun client' _ => h.agents client'⟩
  · exact (Function.forall_update_iff _ fun _ reset => reset ≤ system.index).mpr
      ⟨hindex, fun client' _ => h.resets client'⟩
  · dsimp only at hsome ⊢
    by_cases heq : client' = client
    · subst heq
      rw [Function.update_self] at hsome
      rw [Function.update_self, Function.update_self]
      exact hplan plan hsome
    · rw [Function.update_of_ne heq] at hsome
      rw [Function.update_of_ne heq, Function.update_of_ne heq]
      exact h.plans client' plan hsome

/-- One agent has another state, with the plan and generation that it had. -/
theorem Consistent.update_same (h : Consistent sha256 clients system) {client : String}
    {runtime : TrafficRuntime} (hruntime : Invariant sha256 runtime)
    (hplan : runtime.plan = (system.agents client).plan)
    (hgeneration : runtime.status.generation = (system.agents client).status.generation) :
    Consistent sha256 clients
      { system with agents := Function.update system.agents client runtime } := by
  have hupdate := h.update hruntime (le_refl (system.resets client)) (h.resets client)
    fun plan hsome => by
      obtain ⟨latest, hlatest, hholds⟩ := h.plans client plan (hplan.symm.trans hsome)
      exact ⟨latest, hlatest, { hholds with generation := hgeneration.trans hholds.generation }⟩
  rwa [Function.update_eq_self] at hupdate

theorem Consistent.sender (h : Consistent sha256 clients system) (client : String)
    (event : SenderEvent) :
    Consistent sha256 clients
      { system with
        agents := Function.update system.agents client ((system.agents client).sender event) } := by
  have hruntime := (h.agents client).sender event
  rcases (system.agents client).sender_cases event with ⟨status, heq, hstatus⟩ |
    ⟨flows, index, flow, value, -, -, -, heq⟩
  · rw [heq] at hruntime ⊢
    exact h.update_same hruntime rfl hstatus.generation
  · rw [heq] at hruntime ⊢
    exact h.update_same hruntime rfl rfl

/-- The agents and their resets after a copy was handled. -/
def System.handle (sha256 : String → List UInt8) (system : System) (copy : Copy)
    (machine : Machine) : System :=
  { system with
    agents := Function.update system.agents copy.client
      (copy.handled sha256 (system.agents copy.client) machine)
    resets :=
      if copy.Resets then
        Function.update system.resets copy.client
          (max (system.resets copy.client) copy.origin.index)
      else
        system.resets }

theorem System.handle_resets {copy : Copy} (h : copy.Resets) (machine : Machine) :
    (system.handle sha256 copy machine).resets copy.client =
      max (system.resets copy.client) copy.origin.index := by
  rw [System.handle, if_pos h]
  exact Function.update_self ..

theorem Consistent.handle (h : Consistent sha256 clients system) {copy : Copy}
    (hcopy : copy ∈ system.flight) (htimely : copy.Timely sha256 system) (machine : Machine) :
    Consistent sha256 clients (system.handle sha256 copy machine) := by
  have haccounted := h.flight copy hcopy
  have hruntime : Invariant sha256 (copy.handled sha256 (system.agents copy.client) machine) :=
    (h.agents copy.client).perform copy.request machine
  unfold System.handle
  rcases copy.operation_cases with hresets | hload | henable
  · rw [if_pos hresets]
    rw [copy.handled_reset hresets] at hruntime ⊢
    obtain ⟨origin, hcurrent, hle, -⟩ := haccounted.of_current
    rw [← System.index_of_current hcurrent] at hle
    exact h.update hruntime (le_max_left _ _) (max_le (h.resets copy.client) hle) nofun
  · have hresets : ¬ copy.Resets := by
      rintro (h | h) <;> cases h.symm.trans hload
    rw [if_neg hresets]
    rcases copy.handled_load sha256 hload (system.agents copy.client) machine with ⟨-, heq⟩ |
      ⟨haccepted, heq⟩
    · rw [heq, Function.update_eq_self]
      exact h
    · have hplan : ∀ plan,
          (copy.handled sha256 (system.agents copy.client) machine).plan = some plan →
          ∃ latest ∈ system.loading, Holds clients copy.client (system.resets copy.client)
            (copy.handled sha256 (system.agents copy.client) machine) plan latest := by
        rcases heq with heq | heq
        · rw [heq]
          nofun
        · rw [heq]
          intro plan hplan
          -- the agent handled the reset of the latest round, so the copy is of no earlier one
          obtain ⟨latest, hlatest, hle⟩ := haccounted.load hload
          have hreset := htimely.1 hload haccepted
          have hindex := (h.reset_all latest hlatest _ haccounted.client_mem).trans hreset
          have horigin := haccounted.of_loading latest hlatest (hle.antisymm hindex)
          subst horigin
          cases hplan
          exact ⟨copy.origin, hlatest, haccounted.client_mem, hreset, rfl, rfl⟩
      have hupdate := h.update hruntime le_rfl (h.resets copy.client) hplan
      rwa [Function.update_eq_self] at hupdate
  · have hresets : ¬ copy.Resets := by
      rintro (h | h) <;> cases h.symm.trans henable
    rw [if_neg hresets]
    obtain ⟨hplan, hgeneration, -⟩ :=
      copy.handled_enable sha256 henable (system.agents copy.client) machine
    exact h.update_same hruntime hplan hgeneration

variable (sha256) in
theorem System.deliver_eq {position : Nat} {copy : Copy}
    (hcopy : system.flight[position]? = some copy) (machine : Machine) (answered : Bool) :
    ∃ response : ResponseEnvelope, system.deliver sha256 position machine answered =
      { system.handle sha256 copy machine with
        flight := system.flight.eraseIdx position
        calls :=
          if answered ∧ system.Awaits copy then
            Function.update system.calls copy.client (if response.ok then .answered else .failed)
          else
            system.calls } := by
  refine ⟨((system.agents copy.client).handleRequest sha256 copy.request machine).2, ?_⟩
  rw [System.deliver, hcopy]
  rfl

theorem Consistent.deliver (h : Consistent sha256 clients system) (position : Nat)
    (machine : Machine) (answered : Bool)
    (htimely : ∀ copy ∈ system.flight[position]?, copy.Timely sha256 system) :
    Consistent sha256 clients (system.deliver sha256 position machine answered) := by
  cases hcopy : system.flight[position]? with
  | none =>
    rw [System.deliver, hcopy]
    exact h
  | some copy =>
    obtain ⟨response, hdeliver⟩ := System.deliver_eq sha256 hcopy machine answered
    rw [hdeliver]
    have hmem := List.mem_of_getElem? hcopy
    have hhandle := h.handle hmem (htimely copy hcopy) machine
    refine { hhandle with
      flight := fun other hother => h.flight other (List.mem_of_mem_eraseIdx hother)
      resetting := fun hphase => ⟨(h.resetting hphase).1, fun client hanswered => ?_⟩ }
    dsimp only at hanswered
    split at hanswered
    · rename_i hawaits
      obtain ⟨-, hoperation, hindex, -⟩ := hawaits
      by_cases hclient : client = copy.client
      · -- the answer is that of a reset of this round
        have hresets : copy.Resets := .inl (Phase.requesting.inj (hoperation.symm.trans hphase))
        show system.index ≤ (system.handle sha256 copy machine).resets client
        rw [hindex, hclient, System.handle_resets hresets]
        exact le_max_right _ _
      · rw [Function.update_of_ne hclient] at hanswered
        exact (hhandle.resetting hphase).2 client hanswered
    · exact (hhandle.resetting hphase).2 client hanswered

/-- The step lemma: no event of the controller, and no timely delivery, makes the agents
inconsistent. -/
theorem Consistent.step (h : Consistent sha256 clients system) {event : SystemEvent}
    (htimely : Timely sha256 system event) :
    Consistent sha256 clients (system.step sha256 clients event) := by
  have hidle : Consistent sha256 clients (system.enter .idle) :=
    h.enter nofun (by rintro (h | h) <;> cases h)
  have hrecover : Consistent sha256 clients (system.enter (.requesting .recover)) :=
    h.enter nofun (by rintro (h | h) <;> cases h)
  cases event with
  | start round => exact h.start round
  | send client => exact h.send client
  | deliver position machine answered => exact h.deliver position machine answered htimely
  | timeout client => exact h.timeout client
  | advance => exact h.advance
  | ready =>
    rw [System.step]
    split
    · exact hidle
    · exact h
  | unready =>
    rw [System.step]
    split
    · exact hrecover
    · exact h
  | sender client event => exact h.sender client event

/-! ## Switching is safe -/

/-- Consistent agents that are enabled have plans of one generation. -/
theorem Consistent.oneGeneration (h : Consistent sha256 clients system) : OneGeneration system := by
  intro first second hfirst hsecond
  obtain ⟨plan, hplan⟩ := enabled_plan (h.agents first) hfirst
  obtain ⟨plan', hplan'⟩ := enabled_plan (h.agents second) hsecond
  obtain ⟨latest, hlatest, hholds⟩ := h.plans first plan hplan
  obtain ⟨latest', hlatest', hholds'⟩ := h.plans second plan' hplan'
  cases Option.mem_unique hlatest hlatest'
  exact hholds.generation.trans hholds'.generation.symm

/-- An enabled agent runs the round that every agent acknowledged. -/
theorem Consistent.runs (h : Consistent sha256 clients system) {latest : Started}
    (hlatest : system.acknowledged = some latest) {client : String}
    (henabled : (system.agents client).status.enabled) :
    Runs latest.round client (system.agents client) := by
  obtain ⟨plan, hplan⟩ := enabled_plan (h.agents client) henabled
  obtain ⟨loaded, hloaded, hholds⟩ := h.plans client plan hplan
  cases Option.mem_unique hloaded (h.acknowledged latest hlatest)
  exact ⟨henabled, hplan.trans (congrArg some hholds.plan_eq), hholds.generation⟩

/-- Once all have acknowledged, a timely copy of an earlier round stops nothing. -/
theorem Consistent.lateCopySafe (h : Consistent sha256 clients system) {event : SystemEvent}
    (htimely : Timely sha256 system event) : LateCopySafe sha256 clients system event := by
  rintro position machine answered copy latest rfl hcopy hlatest hlate
  have hnext := h.step htimely
  obtain ⟨response, hdeliver⟩ := System.deliver_eq sha256 hcopy machine answered
  have hacknowledged : (system.step sha256 clients
      (.deliver position machine answered)).acknowledged = some latest := by
    rw [System.step, hdeliver]
    exact hlatest
  have hagent : (system.step sha256 clients (.deliver position machine answered)).agents
      copy.client = copy.handled sha256 (system.agents copy.client) machine := by
    rw [System.step, hdeliver]
    exact Function.update_self ..
  refine ⟨fun hruns => ?_, hnext.runs hacknowledged⟩
  refine hnext.runs hacknowledged ?_
  rw [hagent]
  have haccounted := h.flight copy (List.mem_of_getElem? hcopy)
  have hcopy := htimely copy hcopy
  rcases copy.operation_cases with hresets | hload | henable
  · have hdisabled := hcopy.2 hresets ⟨latest, hlatest, hlate⟩
    exact absurd hruns.enabled (Bool.eq_false_iff.mp hdisabled)
  · rcases copy.handled_load sha256 hload (system.agents copy.client) machine with
      ⟨-, heq⟩ | ⟨haccepted, -⟩
    · rw [heq]
      exact hruns.enabled
    · have hreset := h.reset_all latest (h.acknowledged latest hlatest) _ haccounted.client_mem
      exact absurd (hcopy.1 hload haccepted) (hlate.trans_le hreset).not_ge
  · exact (copy.handled_enable sha256 henable (system.agents copy.client) machine).2.2 hruns.enabled

/-- In a run whose late copies are harmless the agents never run two generations, and no late copy
undoes an acknowledged round. -/
theorem generation_switch (sha256 : String → List UInt8) (clients : List String)
    (localIps : String → Ipv4.Addr) (events : List SystemEvent)
    (htimely : Run.Meets (·.step sha256 clients ·) (Timely sha256) (.init localIps) events) :
    (∀ before, before <+: events →
      OneGeneration (.run sha256 clients localIps before)) ∧
    (∀ before event after, events = before ++ event :: after →
      LateCopySafe sha256 clients (.run sha256 clients localIps before) event) := by
  have hrun : ∀ before, before <+: events →
      Consistent sha256 clients (.run sha256 clients localIps before) := by
    rintro before ⟨after, rfl⟩
    exact Run.invariant (P := Consistent sha256 clients) (fun system event h => h.step)
      (.init sha256 clients localIps) (Run.meets_append.mp htimely).1
  constructor
  · intro before hprefix
    exact (hrun before hprefix).oneGeneration
  · intro before event after hevents
    have hprefix : before <+: events := ⟨event :: after, hevents.symm⟩
    exact (hrun before hprefix).lateCopySafe (Run.meets_iff.mp htimely before event after hevents)

/-! ## A copy that comes too late -/

/-- One flow from client `a` to client `b`. -/
def matrixPlans (client : String) : ClientTrafficPlan :=
  if client = "a" then
    { listeners := []
      flows := [{ flowId := "f", protocol := .udp, dstIp := .ofOctets 192 168 102 2, dstPort := 5001
                  bandwidthBps := 1000000, payloadBytes := 1000, tcpMss := 0 }] }
  else
    { listeners := [{ protocol := .udp, port := 5001 }], flows := [] }

/-- SHA-256 on the texts of the two plans. -/
def matrixSha256 (text : String) : List UInt8 :=
  if text = "\x7b\"flows\":[],\"listeners\":[\x7b\"port\":5001,\"protocol\":\"udp\"\x7d]\x7d" then
    [25, 58, 55, 131, 172, 120, 19, 137, 90, 226, 35, 235, 200, 110, 149, 245, 12, 114, 18, 216,
      158, 175, 123, 137, 46, 139, 87, 43, 146, 125, 69, 88]
  else
    [7, 11, 13, 255, 107, 38, 149, 99, 149, 38, 77, 72, 17, 140, 97, 185, 228, 193, 215, 91, 229,
      132, 50, 11, 209, 251, 107, 158, 242, 231, 222, 89]

def matrixRound (generation : UInt64) : Round where
  generation
  plans := matrixPlans
  planDigests client := planDigest matrixSha256 (matrixPlans client)

def matrixMachine : Machine where
  now := 0
  binds _ := .ok ()

/-- A phase in which both clients answer, with some copies still on their way. -/
def exchange (onTheWay : Nat) : List SystemEvent :=
  [.send "a", .send "b", .deliver onTheWay matrixMachine true,
    .deliver onTheWay matrixMachine true, .advance]

/-- A phase in which the answer to the first copy for `a` does not come in time. -/
def slowExchange (onTheWay : Nat) : List SystemEvent :=
  [.send "a", .timeout "a"] ++ exchange (onTheWay + 1)

/-- Two rounds that succeed; a load and an enable of the first are still on their way to `a`. -/
def twoRounds : List SystemEvent :=
  [.start (matrixRound 1)] ++ exchange 0 ++ slowExchange 0 ++ slowExchange 1 ++ [.ready] ++
    [.start (matrixRound 2)] ++ exchange 2 ++ exchange 2 ++ exchange 2 ++ [.ready]

def matrixIps (_ : String) : Ipv4.Addr := .ofOctets 192 168 101 2

theorem twoRounds_switch :
    (∀ before, before <+: twoRounds →
      OneGeneration (.run matrixSha256 ["a", "b"] matrixIps before)) ∧
    (∀ before event after, twoRounds = before ++ event :: after →
      LateCopySafe matrixSha256 ["a", "b"] (.run matrixSha256 ["a", "b"] matrixIps before) event) :=
  generation_switch matrixSha256 ["a", "b"] matrixIps twoRounds (by decide +kernel)

/-- When the late load and enable arrive, `a` sends the traffic of the first round and `b` is enabled
for the second. -/
theorem lateCopies_two_generations :
    ¬ OneGeneration (.run matrixSha256 ["a", "b"] matrixIps
      (twoRounds ++ [.deliver 0 matrixMachine false, .deliver 0 matrixMachine false])) := by
  intro h
  have hsame := h "a" "b" (by decide +kernel) (by decide +kernel)
  exact absurd hsame (by decide +kernel)

end NetOpsBench.Traffic
