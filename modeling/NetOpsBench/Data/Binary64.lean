import Mathlib

/-!
# Rounding to binary64

A finite double is the rational number it denotes; an operation on doubles is the exact operation
followed by `round`, to nearest with ties to even at 53 bits of precision and the least exponent
of the format. Overflow is left out.

Integers below `2 ^ 53` are exact (`round_natCast`), rounding is monotone on what is not negative
(`round_mono`), it is off by half a unit in the last place at most (`abs_round_sub_le`), and doubling a
double is exact (`round_two_mul`). Where two numbers have one nearest integer is said by `Past`, in
`roundHalfEven_eq_iff`.
-/

namespace Binary64

/-- The integer nearest to `q`, the even one of two equally near. -/
def roundHalfEven (q : ℚ) : ℤ :=
  if q - ⌊q⌋ < 1 / 2 then ⌊q⌋
  else if 1 / 2 < q - ⌊q⌋ then ⌊q⌋ + 1
  else if ⌊q⌋ % 2 = 0 then ⌊q⌋ else ⌊q⌋ + 1

/-- The exponent of the unit in the last place of the doubles around `q`. -/
def ulpExponent (q : ℚ) : ℤ := max (Int.log 2 |q| - 52) (-1074)

/-- The double nearest to `q`. -/
def round (q : ℚ) : ℚ := roundHalfEven (q / 2 ^ ulpExponent q) * 2 ^ ulpExponent q

/-- The cast of a double to a 64-bit unsigned integer, which truncates and saturates. -/
def toU64 (q : ℚ) : Nat := min ⌊q⌋₊ (2 ^ 64 - 1)

theorem roundHalfEven_intCast (n : ℤ) : roundHalfEven n = n := by simp [roundHalfEven]

/-- A number is past the midpoint of an integer and its successor when it is rounded up there. -/
def Past (m : ℤ) (q : ℚ) : Prop := m + 1 / 2 < q ∨ q = m + 1 / 2 ∧ m % 2 ≠ 0

/-- A number is rounded to at most an integer unless it is past the midpoint above. -/
theorem roundHalfEven_le_iff {q : ℚ} {m : ℤ} : roundHalfEven q ≤ m ↔ ¬ Past m q := by
  have hle := Int.floor_le q
  have hlt := Int.lt_floor_add_one q
  unfold roundHalfEven Past
  generalize ⌊q⌋ = floor at hle hlt ⊢
  rcases lt_trichotomy floor m with h | rfl | h
  · -- below `m`: the midpoint after `m` is out of reach
    have hm : (floor : ℚ) + 1 ≤ m := by exact_mod_cast h
    refine iff_of_true ?_ (not_or.mpr ⟨by linarith, fun hmid => by linarith [hmid.1]⟩)
    split_ifs <;> omega
  · split_ifs with hlow hhigh heven
    · exact iff_of_true le_rfl (not_or.mpr ⟨by linarith, fun hmid => by linarith [hmid.1]⟩)
    · exact iff_of_false (by omega) (not_not.mpr (.inl (by linarith)))
    · exact iff_of_true le_rfl (not_or.mpr ⟨by linarith, fun hmid => hmid.2 heven⟩)
    · exact iff_of_false (by omega) (not_not.mpr (.inr ⟨by linarith, heven⟩))
  · have hm : (m : ℚ) + 1 ≤ floor := by exact_mod_cast h
    refine iff_of_false ?_ (not_not.mpr (.inl (by linarith)))
    split_ifs <;> omega

theorem Past.mono {m : ℤ} {p q : ℚ} (h : Past m p) (hle : p ≤ q) : Past m q := by
  rcases h with h | ⟨rfl, hodd⟩
  · exact .inl (h.trans_le hle)
  · rcases hle.eq_or_lt with heq | hlt
    · exact .inr ⟨heq.symm, hodd⟩
    · exact .inl hlt

theorem roundHalfEven_mono {p q : ℚ} (h : p ≤ q) : roundHalfEven p ≤ roundHalfEven q :=
  roundHalfEven_le_iff.mpr fun hpast => roundHalfEven_le_iff.mp le_rfl (hpast.mono h)

theorem le_roundHalfEven {q : ℚ} {n : ℤ} (h : (n : ℚ) ≤ q) : n ≤ roundHalfEven q :=
  roundHalfEven_intCast n ▸ roundHalfEven_mono h

theorem roundHalfEven_le {q : ℚ} {n : ℤ} (h : q ≤ n) : roundHalfEven q ≤ n :=
  (roundHalfEven_mono h).trans_eq (roundHalfEven_intCast n)

theorem abs_roundHalfEven_sub_le (q : ℚ) : |roundHalfEven q - q| ≤ 1 / 2 := by
  have hle := Int.floor_le q
  have hlt := Int.lt_floor_add_one q
  unfold roundHalfEven
  split_ifs with hlow hhigh heven
  · rw [abs_le]; constructor <;> linarith
  · push_cast
    rw [abs_le]; constructor <;> linarith
  · rw [abs_le]; constructor <;> linarith
  · push_cast
    rw [abs_le]; constructor <;> linarith

/-- Two numbers round to one integer when no midpoint separates them. -/
theorem roundHalfEven_eq_iff {p q : ℚ} :
    roundHalfEven p = roundHalfEven q ↔ ∀ m : ℤ, Past m p ↔ Past m q := by
  refine ⟨fun h m => ?_, fun h => le_antisymm ?_ ?_⟩
  · rw [← not_iff_not, ← roundHalfEven_le_iff, ← roundHalfEven_le_iff, h]
  · rw [roundHalfEven_le_iff, h, ← roundHalfEven_le_iff]
  · rw [roundHalfEven_le_iff, ← h, ← roundHalfEven_le_iff]

/-- A number that is a whole multiple of its unit in the last place is a double. -/
theorem round_of_multiple {q : ℚ} {n : ℤ} (h : q / 2 ^ ulpExponent q = n) : round q = q := by
  have hpos : (2 : ℚ) ^ ulpExponent q ≠ 0 := zpow_ne_zero _ two_ne_zero
  rw [round, h, roundHalfEven_intCast, ← h, div_mul_cancel₀ q hpos]

/-- A double is off by half a unit in the last place at most. -/
theorem abs_round_sub_le (q : ℚ) : |round q - q| ≤ 2 ^ ulpExponent q / 2 := by
  have hpos : (0 : ℚ) < 2 ^ ulpExponent q := zpow_pos two_pos _
  have hscaled : round q - q =
      (roundHalfEven (q / 2 ^ ulpExponent q) - q / 2 ^ ulpExponent q) * 2 ^ ulpExponent q := by
    rw [round]
    field_simp
  calc |round q - q|
      = |roundHalfEven (q / 2 ^ ulpExponent q) - q / 2 ^ ulpExponent q| * 2 ^ ulpExponent q := by
        rw [hscaled, abs_mul, abs_of_pos hpos]
    _ ≤ 1 / 2 * 2 ^ ulpExponent q :=
        mul_le_mul_of_nonneg_right (abs_roundHalfEven_sub_le _) hpos.le
    _ = 2 ^ ulpExponent q / 2 := by ring

/-- Numbers that are at most `2` are off by `2 ^ -52` at most. -/
theorem abs_round_sub_le_of_le {q : ℚ} (h : |q| ≤ 2) : |round q - q| ≤ 2 ^ (-52 : ℤ) := by
  refine (abs_round_sub_le q).trans ?_
  have hlog : Int.log 2 |q| ≤ 1 := by
    rcases (abs_nonneg q).eq_or_lt with hzero | hpos
    · rw [← hzero, Int.log_zero_right]
      exact zero_le_one
    · exact (Int.log_mono_right hpos h).trans_eq (by norm_num [Int.log])
  have hexponent : ulpExponent q ≤ -51 := by
    unfold ulpExponent
    omega
  calc (2 : ℚ) ^ ulpExponent q / 2 ≤ 2 ^ (-51 : ℤ) / 2 := by
        gcongr
        norm_num
    _ = 2 ^ (-52 : ℤ) := by norm_num

/-! ## Order -/

theorem round_nonneg {q : ℚ} (h : 0 ≤ q) : 0 ≤ round q := by
  have hpos : (0 : ℚ) < 2 ^ ulpExponent q := zpow_pos two_pos _
  have hround : (0 : ℤ) ≤ roundHalfEven (q / 2 ^ ulpExponent q) :=
    le_roundHalfEven (by rw [Int.cast_zero]; exact div_nonneg h hpos.le)
  exact mul_nonneg (by exact_mod_cast hround) hpos.le

theorem round_zero : round 0 = 0 := by
  rw [round, zero_div, ← Int.cast_zero, roundHalfEven_intCast, Int.cast_zero, zero_mul]

/-- A number below a multiple of its unit in the last place is not rounded above it. -/
theorem round_le {q bound : ℚ} {n : ℤ} (hbound : bound = n * 2 ^ ulpExponent q) (h : q ≤ bound) :
    round q ≤ bound := by
  have hpos : (0 : ℚ) < 2 ^ ulpExponent q := zpow_pos two_pos _
  rw [hbound, round]
  refine mul_le_mul_of_nonneg_right ?_ hpos.le
  exact_mod_cast roundHalfEven_le ((div_le_iff₀ hpos).mpr (hbound ▸ h))

theorem le_round {q bound : ℚ} {n : ℤ} (hbound : bound = n * 2 ^ ulpExponent q) (h : bound ≤ q) :
    bound ≤ round q := by
  have hpos : (0 : ℚ) < 2 ^ ulpExponent q := zpow_pos two_pos _
  rw [hbound, round]
  refine mul_le_mul_of_nonneg_right ?_ hpos.le
  exact_mod_cast le_roundHalfEven ((le_div_iff₀ hpos).mpr (hbound ▸ h))

theorem exists_int_zpow {e e' : ℤ} (h : e ≤ e') : ∃ n : ℤ, (2 : ℚ) ^ e' = n * 2 ^ e := by
  obtain ⟨k, hk⟩ := Int.eq_ofNat_of_zero_le (Int.sub_nonneg_of_le h)
  refine ⟨2 ^ k, ?_⟩
  rw [show e' = k + e by omega, zpow_add₀ two_ne_zero, zpow_natCast]
  push_cast
  rfl

/-- Rounding keeps the order of what is not negative. -/
theorem round_mono {p q : ℚ} (hp : 0 ≤ p) (h : p ≤ q) : round p ≤ round q := by
  rcases hp.eq_or_lt with rfl | hp
  · rw [round_zero]
    exact round_nonneg h
  have hlog : Int.log 2 |p| ≤ Int.log 2 |q| := by
    rw [abs_of_pos hp, abs_of_pos (hp.trans_le h)]
    exact Int.log_mono_right hp h
  have hpos : (0 : ℚ) < 2 ^ ulpExponent p := zpow_pos two_pos _
  by_cases hexponent : ulpExponent p = ulpExponent q
  · rw [round, round, ← hexponent]
    refine mul_le_mul_of_nonneg_right ?_ hpos.le
    exact_mod_cast roundHalfEven_mono (by gcongr)
  · -- a power of two lies between them, and is a multiple of both units
    have hlt : Int.log 2 |p| < Int.log 2 |q| ∧ ulpExponent p ≤ Int.log 2 |q| ∧
        ulpExponent q ≤ Int.log 2 |q| := by
      unfold ulpExponent at hexponent ⊢
      omega
    obtain ⟨m, hm⟩ := exists_int_zpow hlt.2.1
    obtain ⟨n, hn⟩ := exists_int_zpow hlt.2.2
    have hq := hp.trans_le h
    have hbelow : p ≤ 2 ^ Int.log 2 |q| := by
      have hlog := (Int.lt_zpow_iff_log_lt (b := 2) (by norm_num) hp).mpr (abs_of_pos hp ▸ hlt.1)
      exact_mod_cast hlog.le
    have habove : (2 : ℚ) ^ Int.log 2 |q| ≤ q := by
      have hlog := Int.zpow_log_le_self (b := 2) (by norm_num) hq
      rw [abs_of_pos hq]
      exact_mod_cast hlog
    exact (round_le hm hbelow).trans (le_round hn habove)

/-! ## Exact values -/

theorem abs_lt_zpow_ulpExponent (q : ℚ) : |q| < 2 ^ (ulpExponent q + 53) := by
  have hlog : |q| < 2 ^ (Int.log 2 |q| + 1) := by
    exact_mod_cast Int.lt_zpow_succ_log_self (b := 2) (by norm_num) |q|
  refine hlog.trans_le (zpow_le_zpow_right₀ (by norm_num) ?_)
  unfold ulpExponent
  omega

/-- A significand of 53 bits, with an exponent that is not too small, is a double. -/
theorem round_mul_zpow {n e : ℤ} (hn : |n| < 2 ^ 53) (he : -1074 ≤ e) :
    round (n * 2 ^ e) = n * 2 ^ e := by
  rcases eq_or_ne n 0 with rfl | hne
  · rw [Int.cast_zero, zero_mul, round_zero]
  have hpos : (0 : ℚ) < 2 ^ e := zpow_pos two_pos _
  have hlt : |(n * 2 ^ e : ℚ)| < 2 ^ (53 + e) := by
    rw [abs_mul, abs_of_pos hpos, zpow_add₀ two_ne_zero]
    exact mul_lt_mul_of_pos_right (by exact_mod_cast hn) hpos
  have hlog : Int.log 2 |(n * 2 ^ e : ℚ)| < 53 + e := by
    refine (Int.lt_zpow_iff_log_lt (b := 2) (by norm_num) ?_).mp (by exact_mod_cast hlt)
    exact abs_pos.mpr (mul_ne_zero (by exact_mod_cast hne) hpos.ne')
  obtain ⟨k, hk⟩ : ∃ k : ℤ, (2 : ℚ) ^ e = k * 2 ^ ulpExponent (n * 2 ^ e : ℚ) :=
    exists_int_zpow (by unfold ulpExponent; omega)
  refine round_of_multiple (n := n * k) ?_
  rw [div_eq_iff (zpow_ne_zero _ two_ne_zero), Int.cast_mul, mul_assoc, ← hk]

/-- A double is an integer of 53 bits times a power of two. -/
theorem exists_round_eq_mul_zpow (q : ℚ) :
    ∃ n e : ℤ, |n| < 2 ^ 53 ∧ -1074 ≤ e ∧ round q = n * 2 ^ e := by
  have hpos : (0 : ℚ) < 2 ^ ulpExponent q := zpow_pos two_pos _
  have he : -1074 ≤ ulpExponent q := le_max_right _ _
  have hscaled : |q / 2 ^ ulpExponent q| ≤ 2 ^ 53 := by
    rw [abs_div, abs_of_pos hpos, div_le_iff₀ hpos]
    refine (abs_lt_zpow_ulpExponent q).le.trans_eq ?_
    rw [zpow_add₀ two_ne_zero, mul_comm]
    norm_num
  have hle : |roundHalfEven (q / 2 ^ ulpExponent q)| ≤ 2 ^ 53 := by
    obtain ⟨hlow, hhigh⟩ := abs_le.mp hscaled
    exact abs_le.mpr ⟨le_roundHalfEven (by exact_mod_cast hlow),
      roundHalfEven_le (by exact_mod_cast hhigh)⟩
  rw [round]
  generalize roundHalfEven (q / 2 ^ ulpExponent q) = n at hle
  rcases hle.lt_or_eq with hlt | heq
  · exact ⟨n, ulpExponent q, hlt, he, rfl⟩
  · -- the significand that is one bit longer is a power of two
    obtain ⟨half, rfl⟩ : ∃ half : ℤ, n = half * 2 := by
      rcases abs_choice n with h | h
      · exact ⟨2 ^ 52, by omega⟩
      · exact ⟨-2 ^ 52, by omega⟩
    refine ⟨half, ulpExponent q + 1, ?_, by omega, ?_⟩
    · rw [abs_mul, abs_two] at heq
      omega
    · rw [zpow_add_one₀ two_ne_zero, Int.cast_mul, Int.cast_ofNat]
      ring

/-- Twice a double is a double. -/
theorem round_two_mul (q : ℚ) : round (2 * round q) = 2 * round q := by
  obtain ⟨n, e, hn, he, hq⟩ := exists_round_eq_mul_zpow q
  have hdouble : 2 * round q = n * 2 ^ (e + 1) := by
    rw [hq, zpow_add_one₀ two_ne_zero]
    ring
  rw [hdouble, round_mul_zpow hn (by omega)]

/-- The integers that fit into the significand are doubles. -/
theorem round_natCast {n : Nat} (h : n < 2 ^ 53) : round n = n := by
  have hn : |(n : ℤ)| < 2 ^ 53 := by
    rw [Nat.abs_cast]
    exact_mod_cast h
  simpa using round_mul_zpow (e := 0) hn (by norm_num)

/-! ## The unit interval -/

theorem round_mem_Icc {q : ℚ} (h : q ∈ Set.Icc (0 : ℚ) 1) : round q ∈ Set.Icc (0 : ℚ) 1 := by
  have hone : round 1 = 1 := by exact_mod_cast round_natCast (n := 1) (by norm_num)
  exact ⟨round_nonneg h.1, (round_mono h.1 h.2).trans_eq hone⟩

theorem abs_round_sub_le_of_mem_Icc {q : ℚ} (h : q ∈ Set.Icc (0 : ℚ) 1) :
    |round q - q| ≤ 2 ^ (-52 : ℤ) :=
  abs_round_sub_le_of_le (by rw [abs_of_nonneg h.1]; linarith [h.2])

end Binary64
