import NetOpsBench.Data.Fallible
import NetOpsBench.Faults.Link

/-!
# The routes of a client

A route is there again when one with its identity and its metric is. The restore of
`_restore_client_routes` compares identities alone, which have no metric. So a restore that succeeds
gives back the recorded routes exactly when no recorded route was shown with other metrics only
(`restoreClientRoutes_kept`).
-/

namespace NetOpsBench.Faults

/-- A route is more than its identity: two routes may differ in the metric alone. -/
def Route.entry (route : Route) : (String × String × String × String) × Option Nat :=
  (route.identity, route.metric)

/-- The routes are there again. -/
def RoutesKept (before after : List Route) : Prop :=
  ∀ route ∈ before, route.entry ∈ after.map (·.entry)

theorem RoutesKept.of_subset {before after : List Route} (h : before ⊆ after) :
    RoutesKept before after := fun _ hroute => List.mem_map_of_mem (h hroute)

/-- A destination has one route of a metric, as in a table of the kernel. -/
def OneEach (routes : List Route) : Prop :=
  ∀ route ∈ routes, ∀ other ∈ routes, route.dstText = other.dstText → route.metric = other.metric →
    route.identity = other.identity

/-- A recorded route whose identity is shown is shown with its metric. -/
def MetricShown (recorded shown : List Route) : Prop :=
  ∀ route ∈ recorded, route.identity ∈ shown.map (·.identity) → route.entry ∈ shown.map (·.entry)

theorem RoutesKept.metricShown {before after : List Route} (h : RoutesKept before after) :
    MetricShown before after := fun route hroute _ => h route hroute

namespace Route

variable {route other : Route}

theorem entry_eq_iff : route.entry = other.entry ↔
    route.identity = other.identity ∧ route.metric = other.metric := Prod.ext_iff

theorem dstText_ne_empty (route : Route) : route.dstText ≠ "" := by
  unfold dstText orText
  split
  · decide
  · assumption

theorem dstText_restored (route : Route) : route.restored.dstText = route.dstText := by
  show orText route.dstText "default" = route.dstText
  rw [orText, if_neg route.dstText_ne_empty]

/-- The restored route is in the main table, and its device is left out. -/
theorem identity_restored (route : Route) :
    route.restored.identity = (route.dstText, route.gateway.getD "", "", "main") := by
  have hgateway : (Python.truthy route.gateway).getD "" = route.gateway.getD "" := by
    cases route.gateway with
    | none => rfl
    | some gateway =>
      by_cases h : gateway = ""
      · subst h
        rfl
      · rw [Python.truthy_some h]
  rw [identity, dstText_restored]
  exact congrArg (fun gateway => (route.dstText, gateway, "", "main")) hgateway

/-- A route whose identity is that of some restored route is restored as it was. -/
theorem entry_restored (h : route.identity = other.restored.identity) :
    route.restored.entry = route.entry := by
  rw [identity_restored, identity, Prod.mk.injEq, Prod.mk.injEq, Prod.mk.injEq] at h
  obtain ⟨-, -, hdev, htable⟩ := h
  refine entry_eq_iff.mpr ⟨?_, rfl⟩
  rw [identity_restored, identity, hdev, htable]

theorem restored_congr (hidentity : route.identity = other.identity)
    (hmetric : route.metric = other.metric) : route.restored.entry = other.restored.entry := by
  refine entry_eq_iff.mpr ⟨?_, hmetric⟩
  rw [identity, identity, Prod.mk.injEq, Prod.mk.injEq] at hidentity
  rw [identity_restored, identity_restored, hidentity.1, hidentity.2.1]

end Route

/-! ## The loop over the recorded routes -/

section Replace

variable {current routes : List Route} {outcomes : Nat → CommandOutcome} {index : Nat} {port : Port}

/-- A recorded route that is put in: its identity is not among the current ones. -/
def IsMissing (current : List Route) (route : Route) : Prop :=
  route.identity ∉ current.map (·.identity)

theorem replaceRoutes_flags : (replaceRoutes current outcomes index routes port).1.flags =
    port.flags := by
  induction routes generalizing index port with
  | nil => rfl
  | cons route routes ih =>
    rw [replaceRoutes]
    split
    · exact ih
    · dsimp only
      rw [ih]
      split <;> rfl

/-- Nothing else than the missing routes is put in. -/
theorem mem_replaceRoutes {shown : Route}
    (h : shown ∈ (replaceRoutes current outcomes index routes port).1.routes) :
    shown ∈ port.routes ∨ ∃ route ∈ routes, IsMissing current route ∧ shown = route.restored := by
  induction routes generalizing index port with
  | nil => exact .inl h
  | cons route routes ih =>
    have hlater : (∃ route ∈ routes, IsMissing current route ∧ shown = route.restored) →
        ∃ other ∈ route :: routes, IsMissing current other ∧ shown = other.restored := by
      rintro ⟨other, hother, hshown⟩
      exact ⟨other, List.mem_cons_of_mem _ hother, hshown⟩
    rw [replaceRoutes] at h
    split at h
    · exact (ih h).imp_right hlater
    · rename_i hmissing
      rcases ih h with hport | hroute
      · split at hport
        · rcases List.mem_cons.mp hport with rfl | hport
          · exact .inr ⟨route, List.mem_cons_self, hmissing, rfl⟩
          · exact .inl (List.mem_of_mem_filter hport)
        · exact .inl hport
      · exact .inr (hlater hroute)

/-- The missing routes that would take the place of a route are that route. -/
def Spared (current routes : List Route) (entry : (String × String × String × String) × Option Nat) :
    Prop :=
  ∀ route ∈ routes, IsMissing current route → route.dstText = entry.1.1 → route.metric = entry.2 →
    route.restored.entry = entry

/-- A replacement leaves the entries that it does not take the place of. -/
theorem replaceRoute_entry {route : Route} {entry}
    (hspared : route.dstText = entry.1.1 → route.metric = entry.2 → route.restored.entry = entry)
    (h : entry ∈ port.routes.map (·.entry)) :
    entry ∈ (port.replaceRoute route.restored).routes.map (·.entry) := by
  obtain ⟨shown, hshown, rfl⟩ := List.mem_map.mp h
  by_cases hplace : shown.dst = route.restored.dst ∧ shown.metric = route.restored.metric
  · refine List.mem_map.mpr ⟨route.restored, List.mem_cons_self, hspared ?_ hplace.2.symm⟩
    have hdst : shown.dstText = route.restored.dstText := by
      rw [Route.dstText, hplace.1]
      rfl
    exact (route.dstText_restored).symm.trans hdst.symm
  · refine List.mem_map.mpr ⟨shown, List.mem_cons_of_mem _ (List.mem_filter.mpr ⟨hshown, ?_⟩), rfl⟩
    exact decide_eq_true hplace

/-- A route that is there stays there, if no other one takes its place. -/
theorem replaceRoutes_spared {entry} (hspared : Spared current routes entry)
    (h : entry ∈ port.routes.map (·.entry)) :
    entry ∈ (replaceRoutes current outcomes index routes port).1.routes.map (·.entry) := by
  induction routes generalizing index port with
  | nil => exact h
  | cons route routes ih =>
    obtain ⟨hroute, hroutes⟩ := List.forall_mem_cons.mp hspared
    rw [replaceRoutes]
    split
    · exact ih hroutes h
    · rename_i hmissing
      refine ih hroutes ?_
      split
      · exact replaceRoute_entry (hroute hmissing) h
      · exact h

/-- Without errors a missing route is put in. -/
theorem replaceRoutes_missing (happlied : ∀ index, (outcomes index).returncode = 0 →
      (outcomes index).applied)
    (herrors : (replaceRoutes current outcomes index routes port).2 = []) {route : Route}
    (hroute : route ∈ routes) (hmissing : IsMissing current route)
    (hspared : Spared current routes route.restored.entry) :
    route.restored.entry ∈
      (replaceRoutes current outcomes index routes port).1.routes.map (·.entry) := by
  induction routes generalizing index port with
  | nil => cases hroute
  | cons first routes ih =>
    obtain ⟨-, hspared'⟩ := List.forall_mem_cons.mp hspared
    rw [replaceRoutes] at herrors ⊢
    split
    · rename_i hcurrent
      rw [if_pos hcurrent] at herrors
      rcases List.mem_cons.mp hroute with rfl | hroute
      · exact absurd hcurrent hmissing
      · exact ih herrors hroute hspared'
    · rename_i hcurrent
      rw [if_neg hcurrent] at herrors
      dsimp only at herrors ⊢
      have hok : (outcomes index).returncode = 0 := by
        by_contra hfailed
        rw [if_pos hfailed] at herrors
        cases herrors
      rw [if_neg (not_not.mpr hok)] at herrors
      rcases List.mem_cons.mp hroute with rfl | hroute
      · refine replaceRoutes_spared hspared' ?_
        rw [if_pos (happlied index hok)]
        exact List.mem_map_of_mem List.mem_cons_self
      · exact ih herrors hroute hspared'

/-- When every recorded route is shown by its identity, all are there with their metrics exactly if
those that were there before were there with their metrics. -/
theorem routesKept_iff (hone : OneEach routes)
    (happlied : ∀ index, (outcomes index).returncode = 0 → (outcomes index).applied)
    (herrors : (replaceRoutes current outcomes index routes port).2 = [])
    (hcurrent : port.routes = current)
    (hshown : ∀ route ∈ routes, route.identity ∈
      (replaceRoutes current outcomes index routes port).1.routes.map (·.identity)) :
    RoutesKept routes (replaceRoutes current outcomes index routes port).1.routes ↔
      MetricShown routes current := by
  subst hcurrent
  constructor
  · intro hkept route hroute hidentity
    obtain ⟨shown, hmem, hentry⟩ := List.mem_map.mp (hkept route hroute)
    rcases mem_replaceRoutes hmem with hmem | ⟨other, hother, hmissing, rfl⟩
    · exact List.mem_map.mpr ⟨shown, hmem, hentry⟩
    · -- a missing route of the same destination and metric would be the recorded one
      obtain ⟨hsame, hmetric⟩ := Route.entry_eq_iff.mp hentry
      have hdst : other.dstText = route.dstText := by
        rw [← other.dstText_restored]
        exact congrArg Prod.fst hsame
      exact absurd (hone other hother route hroute hdst hmetric ▸ hidentity) hmissing
  · intro hmetric route hroute
    have hspared {entry} (hentry : entry.1.1 = route.dstText) (hentry' : entry.2 = route.metric)
        (h : ∀ other ∈ routes, IsMissing port.routes other → other.identity = route.identity →
          other.metric = route.metric → other.restored.entry = entry) :
        Spared port.routes routes entry := by
      intro other hother hmissing hdst hother'
      rw [hentry] at hdst
      rw [hentry'] at hother'
      exact h other hother hmissing (hone other hother route hroute hdst hother') hother'
    by_cases hthere : route.identity ∈ port.routes.map (·.identity)
    · refine replaceRoutes_spared (hspared rfl rfl ?_) (hmetric route hroute hthere)
      intro other _ hmissing hsame _
      exact absurd (hsame ▸ hthere) hmissing
    · obtain ⟨shown, hmem, hidentity⟩ := List.mem_map.mp (hshown route hroute)
      have hentry : route.restored.entry = route.entry := by
        rcases mem_replaceRoutes hmem with hmem | ⟨other, -, -, rfl⟩
        · exact absurd (List.mem_map.mpr ⟨shown, hmem, hidentity⟩) hthere
        · exact Route.entry_restored hidentity.symm
      rw [← hentry]
      refine replaceRoutes_missing happlied herrors hroute hthere (hspared ?_ rfl ?_)
      · exact route.dstText_restored
      · exact fun other _ _ => Route.restored_congr

end Replace

/-! ## The restore -/

theorem of_ite_eq_none {α : Type} {p : Prop} [Decidable p] {a : α}
    (h : (if p then none else some a) = none) : p := by
  by_contra hp
  rw [if_neg hp] at h
  cases h

section Restore

variable {endpoint : Endpoint} {network next : Network} {routes : List Route}
  {outcome : RestoreOutcome} {error : Option String}

/-- A restore touches the routes of its end alone. -/
theorem restoreClientRoutes_frame
    (h : restoreClientRoutes endpoint routes outcome network = (next, error)) :
    (∀ key, key ≠ endpoint.key → next key = network key) ∧
      (next endpoint.key).flags = (network endpoint.key).flags := by
  unfold restoreClientRoutes at h
  split at h
  · cases h
    exact ⟨fun _ _ => rfl, rfl⟩
  · split at h
    · cases h
      exact ⟨fun _ _ => rfl, rfl⟩
    · split at h
      · cases h
        exact ⟨fun _ _ => rfl, rfl⟩
      · obtain ⟨rfl, -⟩ := Prod.mk.inj h
        refine ⟨fun key hkey => Function.update_of_ne hkey _ _, ?_⟩
        rw [Function.update_self, replaceRoutes_flags]

/-- A restore that succeeds shows every recorded route by its identity, and keeps all of them exactly
if those that were shown before were shown with their metrics. -/
theorem restoreClientRoutes_kept
    (h : restoreClientRoutes endpoint routes outcome network = (next, none)) :
    (∀ route ∈ routes, route.identity ∈ (next endpoint.key).routes.map (·.identity)) ∧
      (OneEach routes → (RoutesKept routes (next endpoint.key).routes ↔
        MetricShown routes (network endpoint.key).routes)) := by
  unfold restoreClientRoutes at h
  split at h
  · rename_i hroutes
    subst hroutes
    simp [RoutesKept, MetricShown]
  · split at h
    · cases h
    · split at h
      · cases h
      · obtain ⟨rfl, herror⟩ := Prod.mk.inj h
        obtain ⟨herrors, hmissing⟩ := List.append_eq_nil_iff.mp (of_ite_eq_none herror)
        rw [Function.update_self]
        have hshown : ∀ route ∈ routes, route.identity ∈
            (replaceRoutes (network endpoint.key).routes outcome.replace 0 routes
              (network endpoint.key)).1.routes.map (·.identity) := by
          intro route hroute
          by_contra hlost
          rw [ite_eq_left_iff] at hmissing
          have hread := List.filter_eq_nil_iff.mp (by_contra fun h => by cases hmissing h) route hroute
          rw [decide_eq_true_iff, not_not] at hread
          split at hread
          · exact hlost hread
          · cases hread
        exact ⟨hshown, fun hone =>
          routesKept_iff hone outcome.replace_applied herrors rfl hshown⟩

end Restore

end NetOpsBench.Faults
