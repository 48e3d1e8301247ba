import Mathlib

/-!
# Queries over a time series store

The stages of a Flux pipeline over rows that carry a time: `range`, `group`, `sort`, `first`,
`last`, and the upsert by which the store keeps one point a series and time. The rows that a
grouped query returns for one key depend on the rows of that key alone.

`filter_flatMap_group` is this last fact. `sort_eq_of_perm` makes a sorted series independent of the
order in which its rows are stored, and `range_changesFrom` says that the changes of a series within a
window are the changes of the window.
-/

namespace Flux

variable {ρ κ β : Type}

/-- `range(start, stop)`, half open. -/
def range (time : ρ → Nat) (start stop : Nat) (rows : List ρ) : List ρ :=
  rows.filter fun row => start ≤ time row ∧ time row < stop

/-- `sort(columns: ["_time"])` -/
def sort (time : ρ → Nat) (rows : List ρ) : List ρ :=
  rows.insertionSort fun a b => time a ≤ time b

/-- The tables of `group(columns)`. -/
def group [DecidableEq κ] (key : ρ → κ) (rows : List ρ) : List (List ρ) :=
  (rows.map key).dedup.map fun k => rows.filter (key · = k)

def first (time : ρ → Nat) (table : List ρ) : Option ρ := (sort time table).head?

def last (time : ρ → Nat) (table : List ρ) : Option ρ := (sort time table).getLast?

/-! ## One key of a grouped query -/

theorem flatMap_eq_of_mem_iff [DecidableEq κ] {keys : List κ} (hkeys : keys.Nodup) (k : κ)
    (table : List β) :
    keys.flatMap (fun k' => if k' = k then table else []) = if k ∈ keys then table else [] := by
  induction keys with
  | nil => rfl
  | cons k' keys ih =>
    obtain ⟨hk', hkeys⟩ := List.nodup_cons.mp hkeys
    rw [List.flatMap_cons, ih hkeys]
    by_cases h : k' = k
    · subst h
      simp [hk']
    · simp [h, Ne.symm h]

/-- The output of a grouped query for one key is that of the table of the key. -/
theorem filter_flatMap_group [DecidableEq κ] {key : ρ → κ} {out : List ρ → List β} {p : β → Prop}
    [DecidablePred p] {k : κ}
    (hkey : ∀ k' table, (∀ row ∈ table, key row = k') → ∀ b ∈ out table, p b ↔ k' = k)
    (hnil : out [] = []) (rows : List ρ) :
    ((group key rows).flatMap out).filter p = out (rows.filter (key · = k)) := by
  have htable : ∀ k', (out (rows.filter (key · = k'))).filter p =
      if k' = k then out (rows.filter (key · = k)) else [] := by
    intro k'
    have hout : ∀ b ∈ out (rows.filter (key · = k')), p b ↔ k' = k := by
      refine hkey k' _ fun row hrow => ?_
      simpa using (List.mem_filter.mp hrow).2
    by_cases h : k' = k
    · subst h
      rw [if_pos rfl, List.filter_eq_self]
      simpa using hout
    · rw [if_neg h, List.filter_eq_nil_iff]
      intro b hb
      simpa [h] using hout b hb
  rw [group, List.flatMap_map, List.filter_flatMap]
  simp only [htable]
  rw [flatMap_eq_of_mem_iff (List.nodup_dedup _)]
  split
  · rfl
  · rename_i hmem
    rw [List.mem_dedup, List.mem_map] at hmem
    have hempty : rows.filter (key · = k) = [] := by
      rw [List.filter_eq_nil_iff]
      intro row hrow hrowKey
      exact hmem ⟨row, hrow, by simpa using hrowKey⟩
    rw [hempty, hnil]

theorem mem_group_iff [DecidableEq κ] {key : ρ → κ} {rows table : List ρ} :
    table ∈ group key rows ↔ ∃ row ∈ rows, table = rows.filter (key · = key row) := by
  simp only [group, List.mem_map, List.mem_dedup]
  constructor
  · rintro ⟨k, ⟨row, hrow, rfl⟩, rfl⟩
    exact ⟨row, hrow, rfl⟩
  · rintro ⟨row, hrow, rfl⟩
    exact ⟨key row, ⟨row, hrow, rfl⟩, rfl⟩

/-- The tables of a grouping hold every row once. -/
theorem flatMap_group_perm [DecidableEq κ] (key : ρ → κ) (rows : List ρ) :
    ((group key rows).flatMap id).Perm rows := by
  classical
  rw [List.perm_iff_count]
  intro row
  have hfilter : ((group key rows).flatMap id).filter (key · = key row) =
      rows.filter (key · = key row) := by
    refine filter_flatMap_group (fun k' table htable b hb => ?_) rfl rows
    rw [htable b hb]
  have hcount : ∀ l : List ρ, (l.filter (key · = key row)).count row = l.count row := by
    intro l
    exact List.count_filter (by simp)
  rw [← hcount, hfilter, hcount]

/-! ## Sorted rows -/

theorem sort_perm (time : ρ → Nat) (rows : List ρ) : (sort time rows).Perm rows :=
  List.perm_insertionSort _ _

@[simp] theorem mem_sort {time : ρ → Nat} {rows : List ρ} {row : ρ} :
    row ∈ sort time rows ↔ row ∈ rows := (sort_perm time rows).mem_iff

theorem mem_of_first {time : ρ → Nat} {table : List ρ} {row : ρ}
    (h : row ∈ (first time table).toList) : row ∈ table :=
  mem_sort.mp (List.mem_of_head? (Option.mem_toList.mp h))

theorem mem_of_last {time : ρ → Nat} {table : List ρ} {row : ρ}
    (h : row ∈ (last time table).toList) : row ∈ table :=
  mem_sort.mp (List.mem_of_getLast? (Option.mem_toList.mp h))

@[simp] theorem sort_nil (time : ρ → Nat) : sort time ([] : List ρ) = [] := rfl

theorem sort_eq_self {time : ρ → Nat} {rows : List ρ}
    (h : rows.Pairwise fun a b => time a ≤ time b) : sort time rows = rows :=
  List.Pairwise.insertionSort_eq h

theorem nodup_of_pairwise_time {time : ρ → Nat} {rows : List ρ}
    (h : rows.Pairwise fun a b => time a < time b) : rows.Nodup := by
  refine h.imp fun hlt heq => ?_
  rw [heq] at hlt
  exact Nat.lt_irrefl _ hlt

theorem eq_of_time_eq {time : ρ → Nat} {rows : List ρ}
    (h : rows.Pairwise fun a b => time a < time b) {a b : ρ} (ha : a ∈ rows) (hb : b ∈ rows)
    (htime : time a = time b) : a = b := by
  refine List.inj_on_of_nodup_map (f := time) ?_ ha hb htime
  exact List.pairwise_map.mpr (h.imp Nat.ne_of_lt)

/-- Rows with distinct times have one order. -/
theorem sort_eq {time : ρ → Nat} {rows expected : List ρ} (hrows : rows.Nodup)
    (hexpected : expected.Pairwise fun a b => time a < time b)
    (hmem : ∀ row, row ∈ rows ↔ row ∈ expected) : sort time rows = expected := by
  have hnodup := nodup_of_pairwise_time hexpected
  have hperm : (sort time rows).Perm expected :=
    (sort_perm time rows).trans ((List.perm_ext_iff_of_nodup hrows hnodup).mpr hmem)
  have hsorted : (sort time rows).Pairwise fun a b => time a ≤ time b := by
    have htotal : Std.Total fun a b : ρ => time a ≤ time b := ⟨fun _ _ => Nat.le_total _ _⟩
    have htrans : IsTrans ρ fun a b => time a ≤ time b := ⟨fun _ _ _ => Nat.le_trans⟩
    exact List.pairwise_insertionSort _ _
  refine hperm.eq_of_pairwise (fun a b ha hb hab hba => ?_) hsorted (hexpected.imp Nat.le_of_lt)
  exact eq_of_time_eq hexpected (hperm.mem_iff.mp ha) hb (Nat.le_antisymm hab hba)

/-- Sorting commutes with filtering. -/
theorem sort_filter {time : ρ → Nat} {rows : List ρ}
    (h : (sort time rows).Pairwise fun a b => time a < time b) (p : ρ → Bool) :
    sort time (rows.filter p) = (sort time rows).filter p := by
  have hnodup : rows.Nodup := (sort_perm time rows).nodup_iff.mp (nodup_of_pairwise_time h)
  refine sort_eq (hnodup.filter p) (h.filter p) fun row => ?_
  rw [List.mem_filter, List.mem_filter, mem_sort]

/-- A sorted series does not depend on the order in which it is stored. -/
theorem sort_eq_of_perm {time : ρ → Nat} {rows rows' : List ρ}
    (h : (sort time rows).Pairwise fun a b => time a < time b) (hperm : rows'.Perm rows) :
    sort time rows' = sort time rows := by
  have hnodup : rows.Nodup := (sort_perm time rows).nodup_iff.mp (nodup_of_pairwise_time h)
  refine sort_eq (hperm.nodup_iff.mpr hnodup) h fun row => ?_
  rw [mem_sort, hperm.mem_iff]

theorem range_map {f : ρ → β} (time : β → Nat) (start stop : Nat) (rows : List ρ) :
    range time start stop (rows.map f) = (range (fun row => time (f row)) start stop rows).map f := by
  simp only [range, List.filter_map, Function.comp_def]

/-- The rows of one key in a range, among the rows of the selected keys. -/
theorem sort_select [DecidableEq κ] {time : ρ → Nat} {key : ρ → κ} {rows : List ρ} {k : κ}
    {select : κ → Bool}
    (h : (sort time (rows.filter (key · = k))).Pairwise fun a b => time a < time b)
    (hselect : select k) (start stop : Nat) :
    sort time (((range time start stop rows).filter fun row => select (key row)).filter (key · = k)) =
      range time start stop (sort time (rows.filter (key · = k))) := by
  have hfilter : ((range time start stop rows).filter fun row => select (key row)).filter (key · = k) =
      range time start stop (rows.filter (key · = k)) := by
    simp only [range, List.filter_filter]
    refine List.filter_congr fun row _ => ?_
    by_cases hrow : key row = k
    · simp [hrow, hselect]
    · simp [hrow]
  rw [hfilter, range, sort_filter h]
  rfl

theorem filter_select_eq_nil [DecidableEq κ] {key : ρ → κ} {k : κ} {select : κ → Bool}
    (hselect : select k = false) (rows : List ρ) :
    (rows.filter fun row => select (key row)).filter (key · = k) = [] := by
  rw [List.filter_eq_nil_iff]
  intro row hrow hkey
  have hselected := (List.mem_filter.mp hrow).2
  rw [of_decide_eq_true hkey, hselect] at hselected
  cases hselected

/-- A grouped and sorted query returns the rows. -/
theorem flatMap_group_sort_perm [DecidableEq κ] (key : ρ → κ) (time : ρ → Nat) (rows : List ρ) :
    ((group key rows).flatMap (sort time)).Perm rows :=
  (List.Perm.flatMap_left _ fun table _ => sort_perm time table).trans (flatMap_group_perm key rows)

/-! ## Upserts -/

/-- The point that the writes of one series and time come to. -/
def merged (merge : ρ → ρ → ρ) : List ρ → Option ρ
  | [] => none
  | point :: points => some (points.foldl merge point)

/-- The points of the store after a sequence of writes. -/
def upsert [DecidableEq κ] (key : ρ → κ) (merge : ρ → ρ → ρ) (points : List ρ) : List ρ :=
  (group key points).filterMap (merged merge)

/-- The point of a key merges all writes of the key. -/
theorem mem_upsert_iff [DecidableEq κ] {key : ρ → κ} {merge : ρ → ρ → ρ} {points : List ρ}
    {point : ρ} :
    point ∈ upsert key merge points ↔
      ∃ first ∈ points, merged merge (points.filter (key · = key first)) = some point := by
  simp only [upsert, List.mem_filterMap, mem_group_iff]
  constructor
  · rintro ⟨table, ⟨first, hfirst, rfl⟩, hmerged⟩
    exact ⟨first, hfirst, hmerged⟩
  · rintro ⟨first, hfirst, hmerged⟩
    exact ⟨_, ⟨first, hfirst, rfl⟩, hmerged⟩

/-- What every write replaces is that of the last one. -/
theorem map_merged {merge : ρ → ρ → ρ} {f : ρ → β} (hmerge : ∀ a b, f (merge a b) = f b)
    (points : List ρ) : (merged merge points).map f = points.getLast?.map f := by
  cases points with
  | nil => rfl
  | cons first rest =>
    induction rest using List.reverseRecOn with
    | nil => rfl
    | append_singleton rest point _ =>
      rw [merged, List.foldl_append, ← List.cons_append, List.getLast?_concat]
      exact congrArg some (hmerge _ _)

/-- The store has one point a key. -/
theorem nodup_upsert [DecidableEq κ] {key : ρ → κ} {merge : ρ → ρ → ρ}
    (hmerge : ∀ a b, key (merge a b) = key b) (points : List ρ) :
    (upsert key merge points).Nodup := by
  rw [upsert, group, List.filterMap_map]
  refine List.Nodup.filterMap ?_ (List.nodup_dedup _)
  intro k k' point hk hk'
  have hkey : ∀ k, point ∈ merged merge (points.filter (key · = k)) → key point = k := by
    intro k h
    have hlast := map_merged hmerge (points.filter (key · = k))
    rw [Option.mem_def.mp h, Option.map_some, eq_comm, Option.map_eq_some_iff] at hlast
    obtain ⟨row, hrow, hrowKey⟩ := hlast
    rw [← hrowKey]
    simpa using (List.mem_filter.mp (List.mem_of_getLast? hrow)).2
  exact (hkey k hk).symm.trans (hkey k' hk')

theorem foldl_replicate_self {merge : ρ → ρ → ρ} (hmerge : ∀ point, merge point point = point)
    (point : ρ) (n : Nat) : (List.replicate n point).foldl merge point = point := by
  induction n with
  | zero => rfl
  | succ n ih => rw [List.replicate_succ, List.foldl_cons, hmerge, ih]

/-- Writes that repeat no key with another point are the points. -/
theorem mem_upsert_of_injOn [DecidableEq κ] {key : ρ → κ} {merge : ρ → ρ → ρ} {points : List ρ}
    (hmerge : ∀ point, merge point point = point)
    (hinj : ∀ a ∈ points, ∀ b ∈ points, key a = key b → a = b) {point : ρ} :
    point ∈ upsert key merge points ↔ point ∈ points := by
  have hmerged : ∀ first ∈ points, merged merge (points.filter (key · = key first)) = some first := by
    intro first hfirst
    have hall : ∀ row ∈ points.filter (key · = key first), row = first := by
      intro row hrow
      obtain ⟨hrow, hkey⟩ := List.mem_filter.mp hrow
      exact hinj row hrow first hfirst (by simpa using hkey)
    have hmem : first ∈ points.filter (key · = key first) :=
      List.mem_filter.mpr ⟨hfirst, by simp⟩
    rw [List.eq_replicate_of_mem hall]
    cases hlength : (points.filter (key · = key first)).length with
    | zero =>
      rw [List.length_eq_zero_iff.mp hlength] at hmem
      cases hmem
    | succ n =>
      rw [List.replicate_succ, merged, foldl_replicate_self hmerge]
  rw [mem_upsert_iff]
  constructor
  · rintro ⟨first, hfirst, h⟩
    rw [hmerged first hfirst] at h
    cases h
    exact hfirst
  · intro h
    exact ⟨point, h, hmerged point h⟩

/-! ## Changes of a series -/

variable {σ : Type}

/-- The state of a series after some of its samples. -/
def stateAfter (previous : Option σ) (samples : List (Nat × σ)) : Option σ :=
  samples.foldl (fun _ sample => some sample.2) previous

theorem stateAfter_none (samples : List (Nat × σ)) :
    stateAfter none samples = samples.getLast?.map (·.2) := by
  induction samples using List.reverseRecOn with
  | nil => rfl
  | append_singleton samples sample _ =>
    rw [stateAfter, List.foldl_append, List.getLast?_concat]
    rfl

variable [DecidableEq σ]

/-- The change, if any, that a sample makes to the state before it. -/
def changeTo (previous : Option σ) (time : Nat) (state : σ) : List (Nat × σ × σ) :=
  match previous with
  | some before => if before ≠ state then [(time, before, state)] else []
  | none => []

/-- A change leads from a known state to another one. -/
theorem mem_changeTo {previous : Option σ} {time : Nat} {state : σ} {change : Nat × σ × σ} :
    change ∈ changeTo previous time state ↔
      ∃ before, previous = some before ∧ before ≠ state ∧ change = (time, before, state) := by
  cases previous with
  | none => simp [changeTo]
  | some before =>
    simp only [changeTo]
    split
    · simp_all
    · simp_all

/-- The times at which a series of states takes another one, with both states. -/
def changesFrom (previous : Option σ) : List (Nat × σ) → List (Nat × σ × σ)
  | [] => []
  | sample :: rest =>
    changeTo previous sample.1 sample.2 ++ changesFrom (some sample.2) rest

/-- A change happens at a sample, whose state it leads to. -/
theorem exists_sample_of_mem_changesFrom {previous : Option σ} {samples : List (Nat × σ)}
    {change : Nat × σ × σ} (h : change ∈ changesFrom previous samples) :
    (change.1, change.2.2) ∈ samples := by
  induction samples generalizing previous with
  | nil => cases h
  | cons sample rest ih =>
    rcases List.mem_append.mp h with h | h
    · obtain ⟨before, -, -, rfl⟩ := mem_changeTo.mp h
      exact List.mem_cons_self
    · exact List.mem_cons_of_mem _ (ih h)

theorem changesFrom_pairwise (previous : Option σ) {samples : List (Nat × σ)}
    (h : samples.Pairwise fun a b => a.1 < b.1) :
    (changesFrom previous samples).Pairwise fun a b => a.1 < b.1 := by
  induction samples generalizing previous with
  | nil => exact .nil
  | cons sample rest ih =>
    obtain ⟨hsample, hrest⟩ := List.pairwise_cons.mp h
    refine List.pairwise_append.mpr ⟨?_, ih _ hrest, ?_⟩
    · cases previous with
      | none => exact .nil
      | some before =>
        show (if before ≠ sample.2 then [_] else []).Pairwise _
        split
        · exact List.pairwise_singleton _ _
        · exact .nil
    · intro change hchange later hlater
      obtain ⟨before, -, -, rfl⟩ := mem_changeTo.mp hchange
      exact hsample _ (exists_sample_of_mem_changesFrom hlater)

/-- The changes of a series are the differing pairs of its consecutive states. -/
theorem exists_mem_changesFrom_iff {P : σ → σ → Prop} (hP : ∀ a, ¬ P a a) (before : σ)
    (samples : List (Nat × σ)) :
    (∃ change ∈ changesFrom (some before) samples, P change.2.1 change.2.2) ↔
      ∃ pair ∈ (before :: samples.map (·.2)).zip (samples.map (·.2)), P pair.1 pair.2 := by
  induction samples generalizing before with
  | nil => simp [changesFrom]
  | cons sample rest ih =>
    simp only [changesFrom, List.mem_append, mem_changeTo, or_and_right, exists_or, ih,
      List.map_cons, List.zip_cons_cons, List.mem_cons, exists_eq_left]
    refine or_congr ?_ Iff.rfl
    constructor
    · rintro ⟨_, ⟨before, h, -, rfl⟩, hP⟩
      cases h
      exact hP
    · intro h
      refine ⟨(sample.1, before, sample.2), ⟨before, rfl, ?_, rfl⟩, h⟩
      intro heq
      rw [heq] at h
      exact hP _ h

/-- The changes within a window are those of its samples after the state before it. -/
theorem range_changesFrom {start stop : Nat} (previous : Option σ) {samples : List (Nat × σ)}
    (h : samples.Pairwise fun a b => a.1 < b.1) :
    range (·.1) start stop (changesFrom previous samples) =
      changesFrom (stateAfter previous (samples.filter (·.1 < start)))
        (range (·.1) start stop samples) := by
  induction samples generalizing previous with
  | nil => rfl
  | cons sample rest ih =>
    obtain ⟨hsample, hrest⟩ := List.pairwise_cons.mp h
    have hchange : range (·.1) start stop (changeTo previous sample.1 sample.2) =
        if start ≤ sample.1 ∧ sample.1 < stop then changeTo previous sample.1 sample.2 else [] := by
      split
      · rename_i hin
        refine List.filter_eq_self.mpr fun change hmem => ?_
        obtain ⟨before, -, -, rfl⟩ := mem_changeTo.mp hmem
        simpa using hin
      · rename_i hout
        refine List.filter_eq_nil_iff.mpr fun change hmem => ?_
        obtain ⟨before, -, -, rfl⟩ := mem_changeTo.mp hmem
        simpa using hout
    rw [changesFrom, range, List.filter_append, ← range, ← range, hchange, ih (some sample.2) hrest]
    by_cases hbefore : sample.1 < start
    · -- the sample only sets the state before the window
      have hout : ¬ (start ≤ sample.1 ∧ sample.1 < stop) := by omega
      simp only [range, List.filter_cons, hout, hbefore, decide_false, decide_true, if_true,
        Bool.false_eq_true, if_false, List.nil_append]
      rfl
    · have hempty : rest.filter (·.1 < start) = [] := by
        refine List.filter_eq_nil_iff.mpr fun later hlater => ?_
        have := hsample later hlater
        simp only [decide_eq_true_eq]
        omega
      by_cases hstop : sample.1 < stop
      · have hin : start ≤ sample.1 ∧ sample.1 < stop := by omega
        simp only [range, List.filter_cons, hin, hbefore, hempty, decide_false, decide_true,
          if_true, Bool.false_eq_true, if_false, and_self]
        rfl
      · -- nothing is left of the window
        have hnone : range (·.1) start stop rest = [] := by
          refine List.filter_eq_nil_iff.mpr fun later hlater => ?_
          have := hsample later hlater
          simp only [decide_eq_true_eq]
          omega
        have hout : ¬ (start ≤ sample.1 ∧ sample.1 < stop) := by omega
        have hnone' : range (·.1) start stop (sample :: rest) = [] := by
          rw [range, List.filter_cons, if_neg (by simpa using hout)]
          exact hnone
        rw [if_neg hout, hnone, hnone']
        rfl

end Flux
