import Mathlib

/-!
# Loops that may fail

A loop of fallible steps ends well when all of its steps do, and otherwise with the error of one of
them.

`mapM_eq_ok` says what a loop returns in terms of what its steps return; `exists_mapM_eq_ok` and
`mapM_eq_error` say when it returns, and when it fails.
-/

theorem List.Forall₂.exists_of_mem {α β : Type*} {r : α → β → Prop} {as : List α} {bs : List β}
    (h : List.Forall₂ r as bs) {a : α} (hmem : a ∈ as) : ∃ b ∈ bs, r a b := by
  induction h with
  | nil => cases hmem
  | cons hhead _ ih =>
    rcases List.mem_cons.mp hmem with rfl | hmem
    · exact ⟨_, .head _, hhead⟩
    · obtain ⟨b, hb, hr⟩ := ih hmem
      exact ⟨b, .tail _ hb, hr⟩

namespace Except

variable {ε : Type u} {α β : Type v}

theorem bind_eq_ok {x : Except ε α} {f : α → Except ε β} {b : β} :
    x >>= f = .ok b ↔ ∃ a, x = .ok a ∧ f a = .ok b := by
  cases x with
  | error error => exact ⟨nofun, nofun⟩
  | ok a => exact ⟨fun h => ⟨a, rfl, h⟩, fun ⟨_, hx, h⟩ => by cases hx; exact h⟩

/-- `if not condition: raise ...` -/
def ensure (condition : Prop) [Decidable condition] (error : ε) : Except ε Unit :=
  if condition then .ok () else .error error

theorem mapM_eq_ok {f : α → Except ε β} {items : List α} {results : List β} :
    items.mapM f = .ok results ↔ List.Forall₂ (fun item result => f item = .ok result) items results := by
  induction items generalizing results with
  | nil =>
    constructor
    · rintro ⟨⟩
      exact .nil
    · rintro ⟨⟩
      rfl
  | cons item items ih =>
    rw [List.mapM_cons, bind_eq_ok]
    constructor
    · rintro ⟨result, hitem, h⟩
      obtain ⟨rest, hrest, h⟩ := bind_eq_ok.mp h
      cases h
      exact .cons hitem (ih.mp hrest)
    · rintro (_ | ⟨hitem, hrest⟩)
      exact ⟨_, hitem, bind_eq_ok.mpr ⟨_, ih.mpr hrest, rfl⟩⟩

theorem mapM_of_forall {f : α → Except ε β} {g : α → β} {items : List α}
    (h : ∀ item ∈ items, f item = .ok (g item)) : items.mapM f = .ok (items.map g) := by
  rw [mapM_eq_ok, List.forall₂_map_right_iff, List.forall₂_same]
  exact h

theorem exists_mapM_eq_ok {f : α → Except ε β} {items : List α}
    (h : ∀ item ∈ items, ∃ result, f item = .ok result) : ∃ results, items.mapM f = .ok results := by
  induction items with
  | nil => exact ⟨[], rfl⟩
  | cons item items ih =>
    obtain ⟨hitem, hitems⟩ := List.forall_mem_cons.mp h
    obtain ⟨result, hresult⟩ := hitem
    obtain ⟨results, hresults⟩ := ih hitems
    exact ⟨result :: results, mapM_eq_ok.mpr (.cons hresult (mapM_eq_ok.mp hresults))⟩

/-- Every step of a loop that ended well has a result. -/
theorem exists_of_mapM_eq_ok {f : α → Except ε β} {items : List α} {results : List β}
    (h : items.mapM f = .ok results) {item : α} (hmem : item ∈ items) :
    ∃ result ∈ results, f item = .ok result :=
  (mapM_eq_ok.mp h).exists_of_mem hmem

/-- A loop with a failing step fails. -/
theorem mapM_eq_error {f : α → Except ε β} {items : List α}
    (h : ∃ item ∈ items, ∃ error, f item = .error error) : ∃ error, items.mapM f = .error error := by
  obtain ⟨item, hmem, error, hitem⟩ := h
  cases hloop : items.mapM f with
  | error error => exact ⟨error, rfl⟩
  | ok results =>
    obtain ⟨result, -, hresult⟩ := exists_of_mapM_eq_ok hloop hmem
    rw [hitem] at hresult
    cases hresult

end Except

namespace Option

variable {α β γ : Type}

theorem mapM_cons_eq_some {f : α → Option β} {item : α} {items : List α} {result : β}
    {results : List β} (h : (item :: items).mapM f = some (result :: results)) :
    f item = some result ∧ items.mapM f = some results := by
  rw [List.mapM_cons] at h
  obtain ⟨first, hfirst, h⟩ := Option.bind_eq_some_iff.mp h
  obtain ⟨others, hothers, h⟩ := Option.bind_eq_some_iff.mp h
  cases h
  exact ⟨hfirst, hothers⟩

theorem exists_of_mem_mapM {f : α → Option β} {items : List α} {results : List β}
    (h : items.mapM f = some results) {result : β} (hmem : result ∈ results) :
    ∃ item ∈ items, f item = some result := by
  induction items generalizing results with
  | nil =>
    cases h
    cases hmem
  | cons item items ih =>
    cases results with
    | nil => cases hmem
    | cons first results =>
      obtain ⟨hfirst, hrest⟩ := mapM_cons_eq_some h
      rcases List.mem_cons.mp hmem with rfl | hmem
      · exact ⟨item, List.mem_cons_self, hfirst⟩
      · obtain ⟨other, hother, hresult⟩ := ih hrest hmem
        exact ⟨other, List.mem_cons_of_mem item hother, hresult⟩

theorem mapM_map_of_forall₂ {f : β → Option γ} {g : α → β} {items : List α} {results : List γ}
    (h : List.Forall₂ (fun item result => f (g item) = some result) items results) :
    (items.map g).mapM f = some results := by
  induction h with
  | nil => rfl
  | cons hitem _ ih =>
    rw [List.map_cons, List.mapM_cons, hitem, ih]
    rfl

end Option
