import Mathlib

/-!
# Replacing the occurrences of a word

`text.replace(old, new)` goes through a text from its start and replaces each occurrence of a word
that does not overlap with the one before.

`Replaced` is the relation between a text and its replacement that an induction over the text can use;
`replaced_all` says that `all` meets it.
-/

namespace Replace

variable {α : Type*} [DecidableEq α]

/-- The rest of a text, of which some items belong to an occurrence that is replaced already. -/
def loop (old new : List α) : ℕ → List α → List α
  | _, [] => []
  | skip + 1, _ :: text => loop old new skip text
  | 0, c :: text =>
    if old <+: c :: text then new ++ loop old new (old.length - 1) text
    else c :: loop old new 0 text

/-- `text.replace(old, new)` for a word that is not empty. -/
def all (old new text : List α) : List α := loop old new 0 text

/-- A text comes from another by replacing some occurrences of a word. -/
inductive Replaced (old new : List α) : List α → List α → Prop where
  | nil : Replaced old new [] []
  | keep (c : α) {text out : List α} : Replaced old new text out →
    Replaced old new (c :: text) (c :: out)
  | replace {text out : List α} : Replaced old new text out →
    Replaced old new (old ++ text) (new ++ out)

section
variable {old new text out : List α}

theorem loop_append (skipped text : List α) :
    loop old new skipped.length (skipped ++ text) = all old new text := by
  induction skipped with
  | nil => rfl
  | cons c skipped ih => exact ih

theorem all_append_of_match (hold : old ≠ []) (text : List α) :
    all old new (old ++ text) = new ++ all old new text := by
  cases old with
  | nil => contradiction
  | cons c rest =>
    rw [all, List.cons_append, loop, if_pos (by exact List.prefix_append (c :: rest) text),
      List.length_cons, Nat.add_sub_cancel, loop_append]

/-- Where no occurrence starts, the character stays. -/
theorem all_cons {c : α} (h : ¬ old <+: c :: text) :
    all old new (c :: text) = c :: all old new text := by
  rw [all, loop, if_neg h, all]

theorem replaced_all (hold : old ≠ []) (text : List α) :
    Replaced old new text (all old new text) := by
  induction hlength : text.length using Nat.strong_induction_on generalizing text with
  | _ n ih =>
    cases text with
    | nil => exact .nil
    | cons c text =>
      by_cases h : old <+: c :: text
      · obtain ⟨rest, hrest⟩ := h
        have hpos := List.length_pos_iff.mpr hold
        have hshorter := congrArg List.length hrest
        rw [List.length_append] at hshorter
        rw [← hrest, all_append_of_match hold]
        exact .replace (ih _ (by omega) rest rfl)
      · rw [all_cons h]
        exact .keep c (ih _ (by rw [← hlength]; exact Nat.lt_succ_self _) text rfl)

/-- Without an occurrence nothing changes. -/
theorem all_eq_self (h : ¬ old <:+: text) : all old new text = text := by
  induction text with
  | nil => rfl
  | cons c text ih =>
    rw [all_cons fun hmatch => h hmatch.isInfix,
      ih fun hoccurs => h (hoccurs.trans (List.infix_cons_iff.mpr (.inr List.infix_rfl)))]

theorem all_eq_self_of_not_mem {c : α} (hc : c ∈ old) (h : c ∉ text) : all old new text = text :=
  all_eq_self fun hoccurs => h (hoccurs.subset hc)

/-- A word cannot start where its first item does not stand. -/
theorem all_append_of_not_mem {c : α} (hc : old.head? = some c) {start : List α} (h : c ∉ start)
    (text : List α) : all old new (start ++ text) = start ++ all old new text := by
  induction start with
  | nil => rfl
  | cons d start ih =>
    rw [List.cons_append, all_cons, ih fun hmem => h (List.mem_cons_of_mem d hmem)]
    · rfl
    · rintro ⟨rest, hrest⟩
      cases old with
      | nil => cases hc
      | cons e old =>
        cases hc
        exact h (List.mem_cons.mpr (.inl (List.cons.inj hrest).1))

/-- To replace an item is to replace each item that is equal to it. -/
theorem all_singleton (c : α) (text : List α) :
    all [c] new text = text.flatMap fun d => if d = c then new else [d] := by
  induction text with
  | nil => rfl
  | cons d text ih =>
    rw [List.flatMap_cons, ← ih]
    by_cases h : d = c
    · subst h
      rw [if_pos rfl]
      exact all_append_of_match (List.cons_ne_nil d []) text
    · rw [if_neg h, all_cons]
      · rfl
      · rintro ⟨rest, hrest⟩
        exact h (List.cons.inj hrest).1.symm

/-- To replace an item by nothing is to delete it. -/
theorem all_singleton_nil (c : α) (text : List α) : all [c] [] text = text.filter (· ≠ c) := by
  induction text with
  | nil => rfl
  | cons d text ih =>
    by_cases h : d = c
    · subst h
      rw [List.filter_cons_of_neg (by simp), ← ih]
      exact all_append_of_match (List.cons_ne_nil d []) text
    · rw [List.filter_cons_of_pos (by simpa using h), ← ih, all_cons]
      rintro ⟨rest, hrest⟩
      exact h (List.cons.inj hrest).1.symm

omit [DecidableEq α] in
/-- What has no occurrence of the new word has not been changed. -/
theorem Replaced.eq_of_not_mem (h : Replaced old new text out) {c : α} (hc : c ∈ new)
    (hout : c ∉ out) : text = out := by
  induction h with
  | nil => rfl
  | keep d _ ih => rw [ih fun hmem => hout (List.mem_cons_of_mem d hmem)]
  | replace _ _ => exact absurd (List.mem_append_left _ hc) hout

omit [DecidableEq α] in
/-- A result either starts with what the text starts with, or with the new word for the old one. -/
theorem Replaced.inv (h : Replaced old new text out) :
    (text = [] ∧ out = []) ∨
      (∃ c text' out', text = c :: text' ∧ out = c :: out' ∧ Replaced old new text' out') ∨
        ∃ text' out', text = old ++ text' ∧ out = new ++ out' ∧ Replaced old new text' out' := by
  cases h with
  | nil => exact .inl ⟨rfl, rfl⟩
  | keep c h => exact .inr (.inl ⟨c, _, _, rfl, rfl, h⟩)
  | replace h => exact .inr (.inr ⟨_, _, rfl, rfl, h⟩)

omit [DecidableEq α] in
/-- The first item of a result that no new word starts with stands at the start of the text. -/
theorem Replaced.cons {c d : α} {rest : List α} (h : Replaced old (d :: rest) text (c :: out))
    (hne : c ≠ d) : ∃ text', text = c :: text' ∧ Replaced old (d :: rest) text' out := by
  cases h with
  | keep _ h => exact ⟨_, rfl, h⟩
  | replace _ => exact absurd rfl hne

end

end Replace
