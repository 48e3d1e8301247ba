import Mathlib

/-!
# Dictionaries built by a loop

A dictionary is an association list without repeated keys. Two loops fill one: the comprehension
`ofItems`, where the last item of a key wins, and `accumulate`, which updates the entry of each
row's key. Their lookups read off the rows of one key.

`lookup_ofItems` and `lookup_accumulate` are these two facts.
-/

/-- A dictionary; the order of its entries is not the insertion order. -/
abbrev Dict (κ : Type u) (α : Type v) := AList fun _ : κ => α

namespace Dict

variable {κ : Type u} {α : Type v} [DecidableEq κ]

/-- `{key: value for key, value in items}` -/
def ofItems (items : List (κ × α)) : Dict κ α :=
  items.foldl (fun dict item => dict.insert item.1 item.2) ∅

/-- The last item of a key is its value. -/
theorem lookup_ofItems (items : List (κ × α)) (key : κ) :
    (ofItems items).lookup key = (items.filter (·.1 = key)).getLast?.map (·.2) := by
  induction items using List.reverseRecOn with
  | nil => rfl
  | append_singleton items item ih =>
    rw [ofItems, List.foldl_append, ← ofItems, List.filter_append]
    by_cases h : item.1 = key
    · subst h
      simp only [List.foldl_cons, List.foldl_nil, AList.lookup_insert, List.filter_cons,
        decide_true, if_true, List.filter_nil, List.getLast?_concat, Option.map_some]
    · simp only [List.foldl_cons, List.foldl_nil, AList.lookup_insert_ne (Ne.symm h), h,
        List.filter_cons, decide_false, Bool.false_eq_true, if_false, List.filter_nil,
        List.append_nil, ih]

/-- Later items of other keys leave an entry alone. -/
theorem lookup_ofItems_append {items later : List (κ × α)} {key : κ}
    (h : ∀ item ∈ later, item.1 ≠ key) :
    (ofItems (items ++ later)).lookup key = (ofItems items).lookup key := by
  have hnone : later.filter (·.1 = key) = [] :=
    List.filter_eq_nil_iff.mpr fun item hitem => by simpa using h item hitem
  rw [lookup_ofItems, lookup_ofItems, List.filter_append, hnone, List.append_nil]

/-- Distinct keys do not overwrite each other. -/
theorem lookup_ofItems_of_mem {items : List (κ × α)} (hkeys : (items.map (·.1)).Nodup)
    {key : κ} {value : α} (hmem : (key, value) ∈ items) : (ofItems items).lookup key = some value := by
  have hfilter : (key, value) ∈ items.filter (·.1 = key) :=
    List.mem_filter.mpr ⟨hmem, decide_eq_true rfl⟩
  rw [lookup_ofItems]
  cases hlast : (items.filter (·.1 = key)).getLast? with
  | none =>
    rw [List.getLast?_eq_none_iff.mp hlast] at hfilter
    cases hfilter
  | some item =>
    obtain ⟨hitem, hkey⟩ := List.mem_filter.mp (List.mem_of_getLast? hlast)
    have hsame : item = (key, value) :=
      List.inj_on_of_nodup_map hkeys hitem hmem (of_decide_eq_true hkey)
    rw [hsame, Option.map_some]

/-- The loop `entry[key(row)] = step(row, entry[key(row)])` over a dictionary whose missing
entries are `init`; a row without a key is skipped. -/
def accumulate (key : ρ → Option κ) (step : α → ρ → α) (init : α) (rows : List ρ) : Dict κ α :=
  rows.foldl (fun dict row =>
    match key row with
    | some k => dict.insert k (step ((dict.lookup k).getD init) row)
    | none => dict) ∅

theorem lookup_accumulate (key : ρ → Option κ) (step : α → ρ → α) (init : α) (rows : List ρ)
    (k : κ) :
    (accumulate key step init rows).lookup k =
      if rows.filter (key · = some k) = [] then none
      else some ((rows.filter (key · = some k)).foldl step init) := by
  induction rows using List.reverseRecOn with
  | nil => rfl
  | append_singleton rows row ih =>
    rw [accumulate, List.foldl_append, ← accumulate, List.filter_append]
    simp only [List.foldl_cons, List.foldl_nil]
    cases hkey : key row with
    | none => simp [ih, hkey]
    | some k' =>
      by_cases h : k' = k
      · subst h
        simp only [hkey, AList.lookup_insert, ih, List.filter_cons, decide_true, if_true,
          List.filter_nil, List.append_eq_nil_iff, List.cons_ne_nil, and_false, if_false,
          List.foldl_append, List.foldl_cons, List.foldl_nil]
        split
        · rename_i hnil
          rw [hnil]
          rfl
        · rfl
      · have hne : ¬ (some k' = some k) := fun h' => h (Option.some.inj h')
        simp only [hkey, AList.lookup_insert_ne (Ne.symm h), ih, List.filter_cons, hne,
          decide_false, Bool.false_eq_true, if_false, List.filter_nil, List.append_nil]

/-- The loop `entries[key(row)].append(row)` keeps the rows of a key in their order. -/
theorem lookup_accumulate_append (key : ρ → Option κ) (rows : List ρ) (k : κ) :
    (accumulate key (fun group row => group ++ [row]) [] rows).lookup k =
      if rows.filter (key · = some k) = [] then none else some (rows.filter (key · = some k)) := by
  have hfold : ∀ rows : List ρ, rows.foldl (fun group row => group ++ [row]) [] = rows := by
    intro rows
    induction rows using List.reverseRecOn with
    | nil => rfl
    | append_singleton rows row ih => rw [List.foldl_append, ih]; rfl
  rw [lookup_accumulate, hfold]

/-- A field that some rows of a loop replace comes from the last of them. -/
theorem foldl_replace {step : α → ρ → α} (field : α → Option β) (pick : ρ → Option β)
    (hstep : ∀ value row, field (step value row) = (pick row).or (field value))
    (rows : List ρ) (init : α) :
    field (rows.foldl step init) = ((rows.filterMap pick).getLast?).or (field init) := by
  induction rows using List.reverseRecOn with
  | nil => rfl
  | append_singleton rows row ih =>
    rw [List.foldl_append, List.foldl_cons, List.foldl_nil, hstep, ih, List.filterMap_append]
    cases hrow : pick row with
    | none => rw [List.filterMap_cons_none hrow, List.filterMap_nil, List.append_nil, Option.none_or]
    | some value =>
      rw [List.filterMap_cons_some hrow, List.filterMap_nil, List.getLast?_concat]
      rfl

theorem mem_ofItems {items : List (κ × α)} {key : κ} :
    key ∈ ofItems items ↔ ∃ item ∈ items, item.1 = key := by
  rw [← AList.lookup_isSome, lookup_ofItems, Option.isSome_map, List.getLast?_isSome,
    ne_eq, List.filter_eq_nil_iff]
  simp

/-- `{key: f(key, value) for key, value in dict.items()}`, without the entries where `f` is
`None`. -/
def filterMap (f : κ → α → Option β) (dict : Dict κ α) : Dict κ β where
  entries := dict.entries.filterMap fun entry => (f entry.1 entry.2).map (Sigma.mk entry.1)
  nodupKeys := by
    refine List.Nodup.sublist ?_ dict.nodupKeys
    induction dict.entries with
    | nil => exact .refl _
    | cons entry entries ih =>
      cases h : f entry.1 entry.2 with
      | none => simpa [List.filterMap_cons, h, List.keys] using ih.cons entry.1
      | some value => simpa [List.filterMap_cons, h, List.keys] using ih

theorem lookup_filterMap (f : κ → α → Option β) (dict : Dict κ α) (key : κ) :
    (dict.filterMap f).lookup key = (dict.lookup key).bind (f key) := by
  ext value
  rw [← Option.mem_def, AList.mem_lookup_iff, Option.bind_eq_some_iff]
  simp only [filterMap, List.mem_filterMap, Option.map_eq_some_iff, Sigma.mk.injEq]
  constructor
  · rintro ⟨entry, hmem, value', hf, rfl, hvalue⟩
    cases hvalue
    exact ⟨entry.2, AList.mem_lookup_iff.mpr hmem, hf⟩
  · rintro ⟨previous, hlookup, hf⟩
    exact ⟨⟨key, previous⟩, AList.mem_lookup_iff.mp hlookup, value, hf, rfl, .rfl⟩

/-- The entries of a dictionary that a loop over its items turns into something. -/
theorem mem_filterMap_entries {dict : Dict κ α} {f : κ → α → Option β} {b : β} :
    b ∈ dict.entries.filterMap (fun entry => f entry.1 entry.2) ↔
      ∃ key value, dict.lookup key = some value ∧ f key value = some b := by
  simp only [List.mem_filterMap, Sigma.exists]
  constructor
  · rintro ⟨key, value, hmem, hf⟩
    exact ⟨key, value, AList.mem_lookup_iff.mpr hmem, hf⟩
  · rintro ⟨key, value, hlookup, hf⟩
    exact ⟨key, value, AList.mem_lookup_iff.mp hlookup, hf⟩

end Dict
