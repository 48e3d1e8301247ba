import Mathlib

/-!
# Runs of a transition system

A system takes one step for each event. A condition on its steps carries an invariant over the runs
whose steps all meet it.

`invariant` is this rule and `invariant_of_step` its case without a condition; `meets_append` splits the
condition on a run at any of its events.
-/

namespace Run

variable {σ ε : Type} {step : σ → ε → σ} {C : σ → ε → Prop} {P : σ → Prop}

/-- Every step of a run meets the condition, in the state that it starts from. -/
def Meets (step : σ → ε → σ) (C : σ → ε → Prop) : σ → List ε → Prop
  | _, [] => True
  | state, event :: events => C state event ∧ Meets step C (step state event) events

instance decidableMeets [∀ state event, Decidable (C state event)] :
    ∀ state events, Decidable (Meets step C state events)
  | _, [] => .isTrue trivial
  | state, event :: events =>
    have := decidableMeets (step state event) events
    inferInstanceAs (Decidable (C state event ∧ Meets step C (step state event) events))

theorem meets_append {state : σ} {before after : List ε} :
    Meets step C state (before ++ after) ↔
      Meets step C state before ∧ Meets step C (before.foldl step state) after := by
  induction before generalizing state with
  | nil => exact (iff_of_eq (true_and _)).symm
  | cons event before ih => rw [List.cons_append, Meets, ih, Meets, List.foldl_cons, and_assoc]

/-- The condition is met before each event of the run. -/
theorem meets_iff {state : σ} {events : List ε} :
    Meets step C state events ↔ ∀ before event after, events = before ++ event :: after →
      C (before.foldl step state) event := by
  constructor
  · rintro h before event after rfl
    exact (meets_append.mp h).2.1
  · intro h
    induction events generalizing state with
    | nil => trivial
    | cons event events ih =>
      refine ⟨h [] event events rfl, ih fun before later after hevents => ?_⟩
      exact h (event :: before) later after (congrArg (event :: ·) hevents)

/-- What holds at first and is kept by every step that meets the condition holds in the end. -/
theorem invariant (hstep : ∀ state event, P state → C state event → P (step state event))
    {state : σ} (hinit : P state) {events : List ε} (h : Meets step C state events) :
    P (events.foldl step state) := by
  induction events generalizing state with
  | nil => exact hinit
  | cons event events ih =>
    obtain ⟨hevent, hevents⟩ := h
    exact ih (hstep state event hinit hevent) hevents

/-- What every step preserves holds after every run. -/
theorem invariant_of_step (hstep : ∀ state event, P state → P (step state event)) {state : σ}
    (hinit : P state) (events : List ε) : P (events.foldl step state) :=
  List.foldlRecOn events step hinit fun state h event _ => hstep state event h

end Run
