import Mathlib

/-!
# Token buckets

Every tick adds a credit to what the last one left, cuts the sum at a burst bound and spends some of
it. What is sent keeps up with the credits exactly when the bound cuts only finitely many of them
(`keepsUp_iff`): a tick that is cut starts from the full bucket, so a second cut repeats for ever. A
bucket that spends in whole payloads is never cut if and only if the bound has room for the largest
remainder (`finitelyCut_iff`).
-/

/-- `spend` is what a tick leaves of the tokens that it starts with. -/
structure TokenBucket (α : Type) where
  credit : α
  burst : α
  spend : α → α

namespace TokenBucket

variable {α : Type} [Field α] [LinearOrder α] {bucket : TokenBucket α} {start : α}

/-- The tokens of a tick, before it spends any. -/
def level (bucket : TokenBucket α) (tokens : α) : α := min (tokens + bucket.credit) bucket.burst

def next (bucket : TokenBucket α) (tokens : α) : α := bucket.spend (bucket.level tokens)

/-- The tokens that `n` ticks leave. -/
def left (bucket : TokenBucket α) (start : α) (n : ℕ) : α := bucket.next^[n] start

/-- What the first `n` ticks spend. -/
def sent (bucket : TokenBucket α) (start : α) (n : ℕ) : α :=
  ∑ k ∈ Finset.range n, (bucket.level (bucket.left start k) - bucket.left start (k + 1))

/-- What the burst bound takes from the first `n` ticks. -/
def cut (bucket : TokenBucket α) (start : α) (n : ℕ) : α :=
  ∑ k ∈ Finset.range n,
    (bucket.left start k + bucket.credit - bucket.level (bucket.left start k))

/-- The spending never falls behind the credits by more than a constant. -/
def KeepsUp (bucket : TokenBucket α) (start : α) : Prop :=
  ∃ slack : α, ∀ n : ℕ, n * bucket.credit - slack ≤ bucket.sent start n

/-- From some tick on, the bound has room for the whole credit. -/
def FinitelyCut (bucket : TokenBucket α) (start : α) : Prop :=
  ∃ m : ℕ, ∀ n, m ≤ n → bucket.left start n + bucket.credit ≤ bucket.burst

theorem left_zero : bucket.left start 0 = start := rfl

theorem left_succ (n : ℕ) : bucket.left start (n + 1) = bucket.next (bucket.left start n) :=
  Function.iterate_succ_apply' ..

theorem left_add (m n : ℕ) :
    bucket.left start (m + n) = bucket.left (bucket.left start m) n := by
  rw [left, left, left, Nat.add_comm, Function.iterate_add_apply]

variable (bucket start) in
theorem cut_succ (n : ℕ) : bucket.cut start (n + 1) = bucket.cut start n +
    (bucket.left start n + bucket.credit - bucket.level (bucket.left start n)) :=
  Finset.sum_range_succ ..

theorem sent_succ (n : ℕ) : bucket.sent start (n + 1) = bucket.sent start n +
    (bucket.level (bucket.left start n) - bucket.left start (n + 1)) :=
  Finset.sum_range_succ ..

theorem level_of_le {tokens : α} (h : tokens + bucket.credit ≤ bucket.burst) :
    bucket.level tokens = tokens + bucket.credit := min_eq_left h

theorem level_of_lt {tokens : α} (h : bucket.burst < tokens + bucket.credit) :
    bucket.level tokens = bucket.burst := min_eq_right h.le

/-- A tick that is cut leaves what a full bucket leaves. -/
theorem next_of_lt {tokens : α} (h : bucket.burst < tokens + bucket.credit) :
    bucket.next tokens = bucket.spend bucket.burst := congrArg bucket.spend (level_of_lt h)

/-! ## Keeping up with the credits -/

/-- Spending takes some of the tokens, and never more than there are. -/
structure Lawful (bucket : TokenBucket α) : Prop where
  credit_nonneg : 0 ≤ bucket.credit
  burst_nonneg : 0 ≤ bucket.burst
  spend_nonneg : ∀ tokens, 0 ≤ tokens → 0 ≤ bucket.spend tokens
  spend_le : ∀ tokens, 0 ≤ tokens → bucket.spend tokens ≤ tokens

variable [IsStrictOrderedRing α]

variable (bucket start) in
/-- Every credit is spent, left over or cut. -/
theorem sent_add (n : ℕ) :
    bucket.sent start n + bucket.left start n + bucket.cut start n = start + n * bucket.credit := by
  induction n with
  | zero => simp [sent, cut, left_zero]
  | succ n ih =>
    rw [sent_succ, cut_succ]
    push_cast
    linear_combination ih

theorem Lawful.level_nonneg (h : bucket.Lawful) {tokens : α} (ht : 0 ≤ tokens) :
    0 ≤ bucket.level tokens := le_min (add_nonneg ht h.credit_nonneg) h.burst_nonneg

theorem Lawful.left_nonneg (h : bucket.Lawful) (hstart : 0 ≤ start) (n : ℕ) :
    0 ≤ bucket.left start n := by
  induction n with
  | zero => exact hstart
  | succ n ih =>
    rw [left_succ]
    exact h.spend_nonneg _ (h.level_nonneg ih)

theorem Lawful.left_le (h : bucket.Lawful) (hstart : 0 ≤ start) (n : ℕ) :
    bucket.left start n ≤ start + bucket.burst := by
  cases n with
  | zero => exact le_add_of_nonneg_right h.burst_nonneg
  | succ n =>
    rw [left_succ]
    have hlevel := h.level_nonneg (h.left_nonneg hstart n)
    calc bucket.next (bucket.left start n) ≤ bucket.level (bucket.left start n) :=
          h.spend_le _ hlevel
      _ ≤ bucket.burst := min_le_right ..
      _ ≤ start + bucket.burst := le_add_of_nonneg_left hstart

variable (bucket start) in
theorem cut_mono : Monotone (bucket.cut start) := by
  refine monotone_nat_of_le_succ fun n => ?_
  rw [cut_succ]
  exact le_add_of_nonneg_right (sub_nonneg.mpr (min_le_left ..))

/-- What is sent keeps up with the credits just when what is cut stays bounded. -/
theorem Lawful.keepsUp_iff_cut (h : bucket.Lawful) (hstart : 0 ≤ start) :
    bucket.KeepsUp start ↔ ∃ bound, ∀ n, bucket.cut start n ≤ bound := by
  constructor
  · rintro ⟨slack, hslack⟩
    refine ⟨start + slack, fun n => ?_⟩
    have hsum := sent_add bucket start n
    have hleft := h.left_nonneg hstart n
    linarith [hslack n]
  · rintro ⟨bound, hbound⟩
    refine ⟨bound + bucket.burst, fun n => ?_⟩
    have hsum := sent_add bucket start n
    have hleft := h.left_le hstart n
    linarith [hbound n]

omit [IsStrictOrderedRing α] in
/-- From the full bucket, a cut comes again with the period in which it came. -/
theorem left_periodic {n : ℕ} (h : bucket.burst <
    bucket.left (bucket.spend bucket.burst) n + bucket.credit) (j : ℕ) :
    bucket.left (bucket.spend bucket.burst) ((n + 1) * j) = bucket.spend bucket.burst := by
  induction j with
  | zero => rfl
  | succ j ih => rw [Nat.mul_succ, left_add, ih, left_succ, next_of_lt h]

theorem cut_recurs {m n : ℕ} (hm : bucket.left start m = bucket.spend bucket.burst)
    (hn : bucket.burst < bucket.left start (m + n) + bucket.credit) (j : ℕ) :
    j * (bucket.left start (m + n) + bucket.credit - bucket.burst) ≤
      bucket.cut start (m + (n + 1) * j) := by
  induction j with
  | zero =>
    have hmono := cut_mono bucket start (Nat.zero_le m)
    simpa [cut] using hmono
  | succ j ih =>
    have hfull : bucket.burst < bucket.left (bucket.spend bucket.burst) n + bucket.credit := by
      rwa [left_add, hm] at hn
    have hleft : bucket.left start (m + (n + 1) * j + n) = bucket.left start (m + n) := by
      rw [left_add, left_add, hm, left_periodic hfull, left_add, hm]
    have hcut := cut_succ bucket start (m + (n + 1) * j + n)
    rw [hleft, level_of_lt hn] at hcut
    have hmono := cut_mono bucket start
      (Nat.le_add_right (m + (n + 1) * j) n)
    have htime : m + (n + 1) * (j + 1) = m + (n + 1) * j + n + 1 := by ring
    rw [htime, hcut]
    push_cast
    linarith

omit [IsStrictOrderedRing α] in
theorem not_finitelyCut (h : ¬ bucket.FinitelyCut start) (m : ℕ) :
    ∃ n, bucket.burst < bucket.left start (m + n) + bucket.credit := by
  by_contra hnone
  push Not at hnone
  refine h ⟨m, fun n hn => ?_⟩
  rw [← Nat.add_sub_cancel' hn]
  exact hnone (n - m)

/-- A bucket keeps up with its credits just when only finitely many of them are cut. -/
theorem keepsUp_iff [Archimedean α] (h : bucket.Lawful) (hstart : 0 ≤ start) :
    bucket.KeepsUp start ↔ bucket.FinitelyCut start := by
  rw [h.keepsUp_iff_cut hstart]
  constructor
  · rintro ⟨bound, hbound⟩
    by_contra hnot
    obtain ⟨first, hfirst⟩ := not_finitelyCut hnot 0
    have hfull : bucket.left start (0 + first + 1) = bucket.spend bucket.burst := by
      rw [left_succ, next_of_lt hfirst]
    obtain ⟨n, hn⟩ := not_finitelyCut hnot (0 + first + 1)
    obtain ⟨j, hj⟩ := Archimedean.arch (bound + 1) (sub_pos.mpr hn)
    have hrecurs := (cut_recurs hfull hn j).trans (hbound _)
    rw [nsmul_eq_mul] at hj
    linarith
  · rintro ⟨m, hm⟩
    refine ⟨bucket.cut start m, fun n => ?_⟩
    rcases Nat.le_total n m with hle | hle
    · exact cut_mono bucket start hle
    · induction n, hle using Nat.le_induction with
      | base => exact le_rfl
      | succ n hmn ih =>
        rw [cut_succ, level_of_le (hm n hmn), sub_self, add_zero]
        exact ih

/-! ## Whole payloads -/

/-- Adding `c` again and again, modulo `p`, comes to the largest remainder of its class. -/
theorem exists_mod_add_gcd_ge {p : ℕ} (hp : 0 < p) (c r : ℕ) :
    ∃ k, p ≤ (r + k * c) % p + Nat.gcd c p := by
  rcases (Nat.gcd_le_right c hp).lt_or_eq with hlt | heq
  · obtain ⟨m, -, hm⟩ := Nat.exists_mul_mod_eq_gcd hlt
    obtain ⟨q, hq⟩ := Nat.gcd_dvd_right c p
    generalize Nat.gcd c p = g at hm hq
    -- `j` steps of the divisor `g` take the remainder of `r` into the last `g` remainders.
    let j := q - 1 - r % p / g
    have hrest := Nat.div_add_mod (r % p) g
    have hlast : r % p / g ≤ q - 1 := by
      have := Nat.div_lt_of_lt_mul (hq ▸ Nat.mod_lt r hp : r % p < g * q)
      omega
    have hgpos : 0 < g := Nat.pos_of_mul_pos_right (hq ▸ hp)
    have hqpos : 0 < q := Nat.pos_of_mul_pos_left (hq ▸ hp)
    have hsum : r % p + j * g = p - g + r % p % g := by
      have hj : g * (r % p / g) + j * g = g * (q - 1) := by
        rw [Nat.mul_comm j, ← Nat.mul_add, Nat.add_sub_cancel' hlast]
      rw [Nat.mul_sub_one, ← hq] at hj
      omega
    have hmod : r + m * j * c ≡ r % p + j * g [MOD p] := by
      have hgcd : c * m ≡ g [MOD p] := by
        rw [Nat.ModEq, hm, Nat.mod_eq_of_lt (hm ▸ Nat.mod_lt _ hp)]
      have := hgcd.mul_left j
      exact (Nat.mod_modEq r p).symm.add (by convert this using 1; ring)
    refine ⟨m * j, ?_⟩
    have hsmall : p - g + r % p % g < p := by
      have := Nat.mod_lt (r % p) hgpos
      have : g ≤ p := Nat.le_of_dvd hp ⟨q, hq⟩
      omega
    rw [hmod, hsum, Nat.mod_eq_of_lt hsmall]
    omega
  · exact ⟨0, by omega⟩

/-- In multiples of `unit`, what a tick leaves of at most `b` tokens is a remainder by `p`. -/
structure WholePayloads (bucket : TokenBucket α) (unit : α) (c b p : ℕ) : Prop where
  unit_pos : 0 < unit
  credit_eq : bucket.credit = unit * c
  burst_eq : bucket.burst = unit * b
  payload_pos : 0 < p
  payload_le : p ≤ b
  spend_eq : ∀ k ≤ b, bucket.spend (unit * k) = unit * (k % p : ℕ)

namespace WholePayloads

variable {unit : α} {c b p : ℕ}

theorem add_credit_le_iff (h : bucket.WholePayloads unit c b p) (k : ℕ) :
    unit * k + bucket.credit ≤ bucket.burst ↔ k + c ≤ b := by
  rw [h.credit_eq, h.burst_eq, ← mul_add, mul_le_mul_iff_right₀ h.unit_pos]
  exact_mod_cast Iff.rfl

theorem next_eq (h : bucket.WholePayloads unit c b p) (k : ℕ) :
    bucket.next (unit * k) = unit * (min (k + c) b % p : ℕ) := by
  have hlevel : bucket.level (unit * k) = unit * (min (k + c) b : ℕ) := by
    rw [level, h.credit_eq, h.burst_eq, ← mul_add, ← mul_min_of_nonneg _ _ h.unit_pos.le]
    push_cast
    rfl
  rw [next, hlevel, h.spend_eq _ (min_le_right ..)]

/-- What is left of whole payloads is less than a payload. -/
theorem exists_left_eq (h : bucket.WholePayloads unit c b p) (n : ℕ) :
    ∃ r < p, bucket.left 0 n = unit * r := by
  induction n with
  | zero => exact ⟨0, h.payload_pos, by simp [left_zero]⟩
  | succ n ih =>
    obtain ⟨r, -, hr⟩ := ih
    exact ⟨_, Nat.mod_lt _ h.payload_pos, by rw [left_succ, hr, h.next_eq]⟩

/-- Ticks that are not cut add their credits up, modulo the payload. -/
theorem left_uncut (h : bucket.WholePayloads unit c b p) {k : ℕ} (hk : k < p)
    (huncut : ∀ n, bucket.left (unit * k) n + bucket.credit ≤ bucket.burst) (n : ℕ) :
    bucket.left (unit * k) n = unit * ((k + n * c) % p : ℕ) := by
  induction n with
  | zero => simp [left_zero, Nat.mod_eq_of_lt hk]
  | succ n ih =>
    have hroom := huncut n
    rw [ih, h.add_credit_le_iff] at hroom
    rw [left_succ, ih, h.next_eq, min_eq_left hroom, Nat.mod_add_mod]
    congr 3
    ring

/-- With room for the largest remainder, no tick is cut. -/
theorem left_fits (h : bucket.WholePayloads unit c b p) (hroom : p + c ≤ b + Nat.gcd c p) (n : ℕ) :
    ∃ r, r + c ≤ b ∧ Nat.gcd c p ∣ r ∧ bucket.left 0 n = unit * r := by
  have hfits : ∀ r < p, Nat.gcd c p ∣ r → r + c ≤ b := by
    intro r hr hdvd
    have hle := Nat.le_of_dvd (Nat.sub_pos_of_lt hr) (Nat.dvd_sub (Nat.gcd_dvd_right c p) hdvd)
    omega
  induction n with
  | zero =>
    have hdvd : Nat.gcd c p ∣ 0 := dvd_zero _
    exact ⟨0, hfits 0 h.payload_pos hdvd, hdvd, by simp [left_zero]⟩
  | succ n ih =>
    obtain ⟨r, hrb, hdvd, hr⟩ := ih
    have hnext : Nat.gcd c p ∣ (r + c) % p :=
      (Nat.dvd_mod_iff (Nat.gcd_dvd_right c p)).mpr (dvd_add hdvd (Nat.gcd_dvd_left c p))
    refine ⟨(r + c) % p, hfits _ (Nat.mod_lt _ h.payload_pos) hnext, hnext, ?_⟩
    rw [left_succ, hr, h.next_eq, min_eq_left hrb]

/-- A bucket of whole payloads is never cut for long if and only if the bound has room for the
largest remainder. -/
theorem finitelyCut_iff (h : bucket.WholePayloads unit c b p) :
    bucket.FinitelyCut 0 ↔ p + c ≤ b + Nat.gcd c p := by
  constructor
  · rintro ⟨m, hm⟩
    obtain ⟨r, hrp, hr⟩ := h.exists_left_eq m
    have huncut : ∀ n, bucket.left (unit * r) n + bucket.credit ≤ bucket.burst := fun n => by
      rw [← hr, ← left_add]
      exact hm _ (Nat.le_add_right m n)
    obtain ⟨n, hn⟩ := exists_mod_add_gcd_ge h.payload_pos c r
    have hroom := huncut n
    rw [h.left_uncut hrp huncut, h.add_credit_le_iff] at hroom
    omega
  · refine fun hroom => ⟨0, fun n _ => ?_⟩
    obtain ⟨r, hrb, -, hr⟩ := h.left_fits hroom n
    rwa [hr, h.add_credit_le_iff]

end WholePayloads

end TokenBucket
