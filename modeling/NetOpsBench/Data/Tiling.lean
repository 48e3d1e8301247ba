import Mathlib

/-!
# Tilings of lists, ranges and grids

A strided traversal of a list with every start offset below the stride visits every element once
(`flatMap_stepFrom_perm`), consecutive chunks of a range visit every index once
(`flatMap_chunk`), and a counter running through a full period visits every cell of a grid once,
whatever the start of the period and whatever the rotation of the rows (`gridCell_window_perm`).
-/

namespace Tiling
open scoped List

/-! ## Ceiling division -/

/-- The number of batches of size `k` that cover `n` items. -/
def divCeil (n k : Nat) : Nat := if n % k > 0 then n / k + 1 else n / k

theorem mul_divCeil_ge {n k : Nat} (hk : 0 < k) : n ≤ divCeil n k * k := by
  have h := Nat.div_add_mod n k
  have hlt := Nat.mod_lt n hk
  unfold divCeil
  split <;> nlinarith

theorem mul_lt_of_lt_divCeil {n k b : Nat} (hb : b < divCeil n k) : b * k < n := by
  have h := Nat.div_add_mod n k
  unfold divCeil at hb
  split at hb
  · have : b * k ≤ n / k * k := Nat.mul_le_mul_right k (by omega)
    rw [Nat.mul_comm (n / k)] at this
    omega
  · rcases Nat.eq_zero_or_pos k with rfl | hk
    · simp at hb
    · have : b * k + k ≤ n / k * k := by
        rw [← Nat.succ_mul]; exact Nat.mul_le_mul_right k (by omega)
      rw [Nat.mul_comm (n / k)] at this
      omega

theorem divCeil_pos {n k : Nat} (hn : 0 < n) (hk : 0 < k) : 0 < divCeil n k := by
  have := mul_divCeil_ge (n := n) hk
  by_contra h
  simp [Nat.eq_zero_of_not_pos h] at this
  omega

theorem divCeil_le_self {n k : Nat} (hk : 0 < k) : divCeil n k ≤ n := by
  by_contra h
  have := mul_lt_of_lt_divCeil (n := n) (k := k) (b := n) (by omega)
  nlinarith

theorem divCeil_self {n : Nat} (hn : 0 < n) : divCeil n n = 1 := by
  simp [divCeil, Nat.div_self hn]

/-- A batch at least as large as the list leaves one batch. -/
theorem divCeil_of_le {n k : Nat} (hn : 0 < n) (h : n ≤ k) : divCeil n k = 1 := by
  rcases Nat.lt_or_eq_of_le h with h | rfl
  · have hm : n % k > 0 := by rwa [Nat.mod_eq_of_lt h]
    simp [divCeil, hm, Nat.div_eq_of_lt h]
  · exact divCeil_self hn

/-! ## Strided traversal -/

/-- Every `k`-th element of a list, the first one after skipping `skip` elements. -/
def stepFrom (k : Nat) : Nat → List α → List α
  | _, [] => []
  | 0, x :: xs => x :: stepFrom k (k - 1) xs
  | skip + 1, _ :: xs => stepFrom k skip xs

@[simp] theorem stepFrom_nil (k skip : Nat) : stepFrom k skip ([] : List α) = [] := by
  cases skip <;> rfl

/-- Skipping inside the traversal is dropping a prefix first. -/
theorem stepFrom_drop (k skip : Nat) (l : List α) :
    stepFrom k 0 (l.drop skip) = stepFrom k skip l := by
  induction skip generalizing l with
  | zero => rfl
  | succ skip ih =>
    cases l with
    | nil => simp
    | cons x xs => exact ih xs

/-- The traversals with stride `k + 1` from all offsets up to `k` partition the list. -/
theorem flatMap_stepFrom_succ_perm (k : Nat) (l : List α) :
    (List.range (k + 1)).flatMap (fun skip => stepFrom (k + 1) skip l) ~ l := by
  induction l with
  | nil => simp
  | cons x xs ih =>
    -- offset 0 takes `x` and becomes the traversal from the last offset; the others shift down
    have hsplit : (List.range (k + 1)).flatMap (fun skip => stepFrom (k + 1) skip (x :: xs)) =
        x :: (stepFrom (k + 1) k xs ++
          (List.range k).flatMap (fun skip => stepFrom (k + 1) skip xs)) := by
      rw [List.range_succ_eq_map, List.flatMap_cons, List.flatMap_map]
      rfl
    have hrange : (List.range (k + 1)).flatMap (fun skip => stepFrom (k + 1) skip xs) =
        (List.range k).flatMap (fun skip => stepFrom (k + 1) skip xs) ++
          stepFrom (k + 1) k xs := by
      rw [List.range_succ, List.flatMap_append]; simp
    rw [hsplit]
    refine .cons x (List.perm_append_comm.trans ?_)
    rwa [← hrange]

/-- The strided traversals from every offset below the stride visit each element once. -/
theorem flatMap_stepFrom_perm {k : Nat} (hk : 0 < k) (l : List α) :
    (List.range k).flatMap (fun skip => stepFrom k skip l) ~ l := by
  obtain ⟨k, rfl⟩ := Nat.exists_eq_succ_of_ne_zero hk.ne'
  exact flatMap_stepFrom_succ_perm k l

/-- A traversal is not empty when it starts inside the list. -/
theorem stepFrom_ne_nil {k skip : Nat} {l : List α} (h : skip < l.length) :
    stepFrom k skip l ≠ [] := by
  induction l generalizing skip with
  | nil => simp at h
  | cons x xs ih =>
    cases skip with
    | zero => simp [stepFrom]
    | succ skip => exact ih (by simpa using h)

theorem mem_of_mem_stepFrom {k skip : Nat} {l : List α} {x : α} (h : x ∈ stepFrom k skip l) :
    x ∈ l := by
  induction l generalizing skip with
  | nil => simp at h
  | cons y ys ih =>
    cases skip with
    | zero =>
      rcases List.mem_cons.mp h with rfl | h
      · exact List.mem_cons_self
      · exact List.mem_cons_of_mem _ (ih h)
    | succ skip => exact List.mem_cons_of_mem _ (ih h)

/-! ## Traversal by index -/

theorem filterMap_range_getElem? (l : List α) (f : α → β) :
    (List.range l.length).filterMap (fun i => l[i]?.map f) = l.map f := by
  induction l with
  | nil => rfl
  | cons x xs ih =>
    rw [List.length_cons, List.range_succ_eq_map, List.filterMap_cons, List.filterMap_map]
    simpa using ih

theorem flatMap_range_getElem? (l : List α) (f : α → List β) :
    (List.range l.length).flatMap (fun i => l[i]?.elim [] f) = l.flatMap f := by
  induction l with
  | nil => rfl
  | cons x xs ih =>
    rw [List.length_cons, List.range_succ_eq_map, List.flatMap_cons, List.flatMap_map]
    simpa using ih

theorem mapM_some {f : α → Option β} {g : α → β} {l : List α} (h : ∀ x ∈ l, f x = some (g x)) :
    l.mapM f = some (l.map g) := by
  induction l with
  | nil => rfl
  | cons x xs ih =>
    rw [List.mapM_cons, h x List.mem_cons_self, ih fun y hy => h y (List.mem_cons_of_mem _ hy)]
    rfl

/-- Reading a list cyclically from index `i`. -/
theorem cyclic_perm {l : List α} {i : Nat} (hi : i < l.length) (default : α) :
    l[i] :: (List.range' 1 (l.length - 1)).map (fun offset =>
      l.getD ((i + offset) % l.length) default) ~ l := by
  refine List.Perm.trans (.of_eq ?_) (List.rotate_perm l i)
  refine List.ext_getElem (by simp; omega) fun n h1 h2 => ?_
  rw [List.getElem_rotate]
  cases n with
  | zero => simp [Nat.mod_eq_of_lt hi]
  | succ n =>
    have hlt : (i + (1 + n)) % l.length < l.length := Nat.mod_lt _ (by omega)
    rw [List.getElem_cons_succ, List.getElem_map, List.getElem_range', Nat.one_mul,
      List.getD_eq_getElem _ _ hlt]
    simp only [Nat.add_comm]

/-! ## Chunks of a range -/


/-- The `b`-th chunk of at most `k` consecutive indices below `n`. -/
def chunk (n k b : Nat) : List Nat := List.range' (b * k) (min (b * k + k) n - b * k)

theorem length_chunk {n k b : Nat} (h : b * k ≤ n) : (chunk n k b).length = min k (n - b * k) := by
  simp only [chunk, List.length_range']
  omega

/-- The first `m` chunks are the first `m * k` indices. -/
theorem flatMap_range_chunk (n k m : Nat) :
    (List.range m).flatMap (chunk n k) = List.range (min (m * k) n) := by
  induction m with
  | zero => simp
  | succ m ih =>
    rw [List.range_succ, List.flatMap_append, ih, List.flatMap_singleton, chunk,
      List.range_eq_range', List.range_eq_range', Nat.succ_mul]
    rcases Nat.le_total (m * k) n with h | h
    · rw [Nat.min_eq_left h]
      have := List.range'_append_1 (s := 0) (m := m * k) (n := min (m * k + k) n - m * k)
      rw [Nat.zero_add] at this
      rw [this]
      congr 1
      omega
    · rw [Nat.min_eq_right h, Nat.min_eq_right (by omega), Nat.sub_eq_zero_of_le h]
      simp

theorem flatMap_chunk {n k : Nat} (hk : 0 < k) :
    (List.range (divCeil n k)).flatMap (chunk n k) = List.range n := by
  rw [flatMap_range_chunk, Nat.min_eq_right (mul_divCeil_ge hk)]

/-! ## Grids -/

/-- The cell a counter visits: the column first, the row of the period shifted by `phase`. -/
def gridCell (columns rows phase counter : Nat) : Nat × Nat :=
  (counter % (columns * rows) % columns, (counter % (columns * rows) / columns + phase) % rows)

theorem gridCell_mem {columns rows : Nat} (hc : 0 < columns) (hr : 0 < rows)
    (phase counter : Nat) :
    gridCell columns rows phase counter ∈ List.range columns ×ˢ List.range rows := by
  rw [gridCell, List.mem_product, List.mem_range, List.mem_range]
  exact ⟨Nat.mod_lt _ hc, Nat.mod_lt _ hr⟩

/-- Two counters that visit one cell agree modulo the period. -/
theorem mod_eq_of_gridCell_eq {columns rows phase m n : Nat} (hc : 0 < columns) (hr : 0 < rows)
    (h : gridCell columns rows phase m = gridCell columns rows phase n) :
    m % (columns * rows) = n % (columns * rows) := by
  simp only [gridCell, Prod.mk.injEq] at h
  obtain ⟨hcol, hrow⟩ := h
  have hpos : 0 < columns * rows := Nat.mul_pos hc hr
  have hm : m % (columns * rows) / columns < rows :=
    Nat.div_lt_of_lt_mul (Nat.mod_lt m hpos)
  have hn : n % (columns * rows) / columns < rows :=
    Nat.div_lt_of_lt_mul (Nat.mod_lt n hpos)
  have hdiv : m % (columns * rows) / columns = n % (columns * rows) / columns :=
    Nat.ModEq.eq_of_lt_of_lt (Nat.ModEq.add_right_cancel' phase hrow) hm hn
  rw [← Nat.mod_add_div (m % (columns * rows)) columns,
    ← Nat.mod_add_div (n % (columns * rows)) columns, hcol, hdiv]

/-- Numbers of one window of length `period` that agree modulo `period` are equal. -/
theorem eq_of_mod_eq_of_mem_window {start period m n : Nat} (hm : m ∈ List.range' start period)
    (hn : n ∈ List.range' start period) (h : m % period = n % period) : m = n := by
  simp only [List.mem_range'_1] at hm hn
  have hsub : ∀ {a b : Nat}, a ≤ b → b < a + period → a % period = b % period → a = b := by
    intro a b hle hlt heq
    have hdvd : period ∣ b - a := (Nat.modEq_iff_dvd' hle).mp heq
    have := Nat.eq_zero_of_dvd_of_lt hdvd (by omega)
    omega
  rcases Nat.le_total m n with hle | hle
  · exact hsub hle (by omega) h
  · exact (hsub hle (by omega) h.symm).symm

/-- A full period of the counter visits every cell once, from any start. -/
theorem gridCell_window_perm {columns rows : Nat} (hc : 0 < columns) (hr : 0 < rows)
    (phase start : Nat) :
    (List.range' start (columns * rows)).map (gridCell columns rows phase) ~
      List.range columns ×ˢ List.range rows := by
  have hnodup : ((List.range' start (columns * rows)).map (gridCell columns rows phase)).Nodup := by
    refine List.Nodup.map_on (fun m hm n hn h => ?_) List.nodup_range'
    exact eq_of_mod_eq_of_mem_window hm hn (mod_eq_of_gridCell_eq hc hr h)
  refine (List.subperm_of_subset hnodup fun cell hcell => ?_).perm_of_length_le
    (by rw [List.length_product]; simp)
  obtain ⟨counter, -, rfl⟩ := List.mem_map.mp hcell
  exact gridCell_mem hc hr phase counter

/-! ## Products of tilings -/

theorem product_append_perm (as : List α) (bs cs : List β) :
    as ×ˢ (bs ++ cs) ~ as ×ˢ bs ++ as ×ˢ cs := by
  rw [← Multiset.coe_eq_coe, ← Multiset.coe_add, ← Multiset.coe_product, ← Multiset.coe_product,
    ← Multiset.coe_product, ← Multiset.coe_add, Multiset.product_add]

theorem flatMap_product_right_perm (as : List α) (cells : List γ) (rows : γ → List β) :
    cells.flatMap (fun c => as ×ˢ rows c) ~ as ×ˢ cells.flatMap rows := by
  induction cells with
  | nil => simp
  | cons c cells ih =>
    simp only [List.flatMap_cons]
    exact (ih.append_left _).trans (product_append_perm ..).symm

/-- Tiling both factors of a product by the cells of a grid tiles the product. -/
theorem flatMap_product_perm (ds : List γ) (ps : List δ) (columns : γ → List α)
    (rows : δ → List β) :
    (ds ×ˢ ps).flatMap (fun cell => columns cell.1 ×ˢ rows cell.2) ~
      ds.flatMap columns ×ˢ ps.flatMap rows := by
  induction ds with
  | nil => simp
  | cons d ds ih =>
    rw [List.product_cons, List.flatMap_append, List.flatMap_cons, List.flatMap_map]
    rw [← Multiset.coe_eq_coe, ← Multiset.coe_add, ← Multiset.coe_product, ← Multiset.coe_add,
      Multiset.add_product, Multiset.coe_product, Multiset.coe_product]
    exact congrArg₂ (· + ·)
      (Multiset.coe_eq_coe.mpr (flatMap_product_right_perm (columns d) ps rows))
      (Multiset.coe_eq_coe.mpr ih)

end Tiling
