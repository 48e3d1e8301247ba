import NetOpsBench.Data.Binary64
import NetOpsBench.Evaluator.Scorer

/-!
# The detection metrics of a report

A report counts how often a fault was detected, and has precision, recall and F1 to three decimals.
Its F1 is computed from the precision and the recall that it shows, which are rounded already. The
report is computed in doubles, and the F1 that it is compared with in rational numbers.

The main result is `reportedBy_iff_robust`: the F1 of the report is that of the counts just when no
midpoint of two thousandths lies between the coarse F1 and the exact one. Which midpoints these are
can be told without doubles when no rate, coarse F1 or mean is within a hundred-thousandth of one
(`robust_iff_robustInRationals`), because the doubles are close enough (`abs_harmonicMean_sub_le`).
-/

namespace NetOpsBench.Scorer
open Binary64 (roundHalfEven Past)

/-- A result with the details that the detection metrics read. -/
structure ReportedResult extends EvaluationResult where
  negativeSample : Bool
  falsePositive : Bool
deriving DecidableEq

/-- The nearest thousandth, the even one of two equally near. -/
def thousandth (value : ℚ) : ℚ := roundHalfEven (1000 * value) / 1000

/-- `round(value, 3)`: the double nearest to the nearest thousandth. -/
def roundThousandths (value : ℚ) : ℚ := Binary64.round (thousandth value)

structure ConfusionCounts where
  truePositives : ℕ
  falsePositives : ℕ
  falseNegatives : ℕ
  trueNegatives : ℕ
deriving DecidableEq, Repr

def confusionCounts (results : List ReportedResult) : ConfusionCounts :=
  let negativeCases := results.filter (·.negativeSample)
  let positiveCases := results.filter (!·.negativeSample)
  let truePositives := positiveCases.countP (·.correctVerdict)
  let falsePositives := negativeCases.countP (·.falsePositive)
  { truePositives, falsePositives
    falseNegatives := positiveCases.length - truePositives
    trueNegatives := negativeCases.length - falsePositives }

/-- `part / total if total > 0 else 0.0` -/
def rate (part total : ℕ) : ℚ := if total > 0 then Binary64.round (part / total) else 0

/-- `2 * p * r / (p + r) if p + r > 0 else 0.0` -/
def harmonicMean (p r : ℚ) : ℚ :=
  let sum := Binary64.round (p + r)
  if sum > 0 then Binary64.round (Binary64.round (Binary64.round (2 * p) * r) / sum) else 0

structure DetectionSummary where
  detectionPrecision : ℚ
  detectionRecall : ℚ
  detectionF1 : ℚ
  detectionMacroF1 : Option ℚ
deriving DecidableEq, Repr

/-- The detection metrics of `generate_report`; there is no report of no results. -/
def generateReport (results : List ReportedResult) : Option DetectionSummary :=
  if results.isEmpty then none
  else
    let counts := confusionCounts results
    let detectionPrecision := roundThousandths
      (rate counts.truePositives (counts.truePositives + counts.falsePositives))
    let detectionRecall := roundThousandths
      (rate counts.truePositives (counts.truePositives + counts.falseNegatives))
    let f1Pos := harmonicMean detectionPrecision detectionRecall
    let detectionMacroF1 :=
      if results.any (·.negativeSample) then
        let precNeg := rate counts.trueNegatives (counts.trueNegatives + counts.falseNegatives)
        let recNeg := rate counts.trueNegatives (counts.trueNegatives + counts.falsePositives)
        let f1Neg := harmonicMean precNeg recNeg
        some (roundThousandths (Binary64.round (Binary64.round (f1Pos + f1Neg) / 2)))
      else none
    some
      { detectionPrecision, detectionRecall
        detectionF1 := roundThousandths f1Pos
        detectionMacroF1 }

/-! ## F1 of counts -/

/-- The F1 of true positives, false positives and false negatives. -/
def f1OfCounts (tp fp fn : ℕ) : ℚ := 2 * tp / (2 * tp + fp + fn)

theorem f1OfCounts_mem_Icc (tp fp fn : ℕ) : f1OfCounts tp fp fn ∈ Set.Icc (0 : ℚ) 1 := by
  unfold f1OfCounts
  refine ⟨by positivity, div_le_one_of_le₀ ?_ (by positivity)⟩
  have hfp : (0 : ℚ) ≤ fp := Nat.cast_nonneg fp
  have hfn : (0 : ℚ) ≤ fn := Nat.cast_nonneg fn
  linarith

/-! ## Thousandths -/

/-- No midpoint of two neighbouring thousandths separates two numbers. -/
def SameThousandth (p q : ℚ) : Prop := ∀ m : ℤ, Past m (1000 * p) ↔ Past m (1000 * q)

theorem SameThousandth.congr_left {p p' q : ℚ} (h : SameThousandth p p') :
    SameThousandth p q ↔ SameThousandth p' q :=
  forall_congr' fun m => iff_congr (h m) Iff.rfl

/-- Two numbers have one nearest thousandth when no midpoint separates them. -/
theorem thousandth_eq_iff {p q : ℚ} : thousandth p = thousandth q ↔ SameThousandth p q := by
  unfold thousandth SameThousandth
  rw [div_left_inj' (by norm_num), Int.cast_inj, Binary64.roundHalfEven_eq_iff]

theorem thousandth_mem_Icc {p : ℚ} (h : p ∈ Set.Icc (0 : ℚ) 1) :
    thousandth p ∈ Set.Icc (0 : ℚ) 1 := by
  have hnonneg : (0 : ℤ) ≤ roundHalfEven (1000 * p) :=
    Binary64.le_roundHalfEven (by push_cast; linarith [h.1])
  have hle : roundHalfEven (1000 * p) ≤ 1000 :=
    Binary64.roundHalfEven_le (by push_cast; linarith [h.2])
  have hnonneg : (0 : ℚ) ≤ roundHalfEven (1000 * p) := by exact_mod_cast hnonneg
  have hle : (roundHalfEven (1000 * p) : ℚ) ≤ 1000 := by exact_mod_cast hle
  exact ⟨by unfold thousandth; positivity, by unfold thousandth; linarith⟩

/-- Different thousandths of the unit interval have different nearest doubles. -/
theorem roundThousandths_eq_iff {p q : ℚ} (hp : p ∈ Set.Icc (0 : ℚ) 1)
    (hq : q ∈ Set.Icc (0 : ℚ) 1) : roundThousandths p = roundThousandths q ↔ SameThousandth p q := by
  rw [← thousandth_eq_iff]
  refine ⟨fun h => ?_, congrArg Binary64.round⟩
  have hnear (v : ℚ) (hv : v ∈ Set.Icc (0 : ℚ) 1) :
      |roundThousandths v - thousandth v| ≤ 2 ^ (-52 : ℤ) :=
    Binary64.abs_round_sub_le_of_mem_Icc (thousandth_mem_Icc hv)
  have hclose : |thousandth p - thousandth q| ≤ 2 * 2 ^ (-52 : ℤ) :=
    calc |thousandth p - thousandth q|
        ≤ |thousandth p - roundThousandths p| + |roundThousandths p - thousandth q| := abs_sub_le _ _ _
      _ ≤ 2 ^ (-52 : ℤ) + 2 ^ (-52 : ℤ) :=
          add_le_add ((abs_sub_comm _ _).trans_le (hnear p hp)) (h ▸ hnear q hq)
      _ = 2 * 2 ^ (-52 : ℤ) := (two_mul _).symm
  unfold thousandth at hclose ⊢
  rw [← sub_div, abs_div, abs_of_pos (by norm_num : (0 : ℚ) < 1000)] at hclose
  have hlt : |(roundHalfEven (1000 * p) - roundHalfEven (1000 * q) : ℚ)| < 1 := by
    have := (div_le_iff₀ (by norm_num)).mp hclose
    exact this.trans_lt (by norm_num)
  have hint : |roundHalfEven (1000 * p) - roundHalfEven (1000 * q)| < 1 := by exact_mod_cast hlt
  rw [sub_eq_zero.mp (Int.abs_lt_one_iff.mp hint)]

/-! ## The unit interval -/

theorem rate_mem_Icc {part total : ℕ} (h : part ≤ total) : rate part total ∈ Set.Icc (0 : ℚ) 1 := by
  unfold rate
  split
  · exact Binary64.round_mem_Icc ⟨by positivity, div_le_one_of_le₀ (by exact_mod_cast h) (by positivity)⟩
  · exact ⟨le_rfl, zero_le_one⟩

theorem roundThousandths_mem_Icc {p : ℚ} (h : p ∈ Set.Icc (0 : ℚ) 1) :
    roundThousandths p ∈ Set.Icc (0 : ℚ) 1 :=
  Binary64.round_mem_Icc (thousandth_mem_Icc h)

/-- The harmonic mean of doubles does not leave the unit interval: doubling is exact. -/
theorem harmonicMean_mem_Icc {p r : ℚ} (hp : p ∈ Set.Icc (0 : ℚ) 1) (hr : r ∈ Set.Icc (0 : ℚ) 1)
    (hdouble : Binary64.round (2 * p) = 2 * p) : harmonicMean p r ∈ Set.Icc (0 : ℚ) 1 := by
  unfold harmonicMean
  dsimp only
  split_ifs with hsum
  · have hproduct : 2 * p * r ≤ p + r := by nlinarith [hp.1, hp.2, hr.1, hr.2]
    have hnonneg : 0 ≤ 2 * p * r := mul_nonneg (mul_nonneg zero_le_two hp.1) hr.1
    rw [hdouble]
    exact Binary64.round_mem_Icc ⟨div_nonneg (Binary64.round_nonneg hnonneg) hsum.le,
      div_le_one_of_le₀ (Binary64.round_mono hnonneg hproduct) hsum.le⟩
  · exact ⟨le_rfl, zero_le_one⟩

theorem round_two_mul_rate (part total : ℕ) :
    Binary64.round (2 * rate part total) = 2 * rate part total := by
  unfold rate
  split
  · exact Binary64.round_two_mul _
  · rw [mul_zero, Binary64.round_zero]

theorem mean_mem_Icc {p r : ℚ} (hp : p ∈ Set.Icc (0 : ℚ) 1) (hr : r ∈ Set.Icc (0 : ℚ) 1) :
    (p + r) / 2 ∈ Set.Icc (0 : ℚ) 1 :=
  ⟨by linarith [hp.1, hr.1], by linarith [hp.2, hr.2]⟩

/-- The mean of two numbers as the report computes it. -/
def roundedMean (p r : ℚ) : ℚ := Binary64.round (Binary64.round (p + r) / 2)

theorem half_round_add_mem_Icc {p r : ℚ} (hp : p ∈ Set.Icc (0 : ℚ) 1)
    (hr : r ∈ Set.Icc (0 : ℚ) 1) : Binary64.round (p + r) / 2 ∈ Set.Icc (0 : ℚ) 1 := by
  have htwo : Binary64.round 2 = 2 := by
    exact_mod_cast Binary64.round_natCast (n := 2) (by norm_num)
  have hnonneg : 0 ≤ p + r := add_nonneg hp.1 hr.1
  have hle : Binary64.round (p + r) ≤ 2 :=
    (Binary64.round_mono hnonneg (by linarith [hp.2, hr.2])).trans_eq htwo
  exact ⟨div_nonneg (Binary64.round_nonneg hnonneg) zero_le_two, by linarith⟩

theorem roundedMean_mem_Icc {p r : ℚ} (hp : p ∈ Set.Icc (0 : ℚ) 1) (hr : r ∈ Set.Icc (0 : ℚ) 1) :
    roundedMean p r ∈ Set.Icc (0 : ℚ) 1 :=
  Binary64.round_mem_Icc (half_round_add_mem_Icc hp hr)

/-! ## When the reported F1 is that of the counts -/

namespace ConfusionCounts

variable (counts : ConfusionCounts)

def f1 : ℚ := f1OfCounts counts.truePositives counts.falsePositives counts.falseNegatives

def f1Neg : ℚ := f1OfCounts counts.trueNegatives counts.falseNegatives counts.falsePositives

/-- The harmonic mean, in doubles, of precision and recall to three decimals. -/
def coarse : ℚ :=
  harmonicMean
    (roundThousandths (rate counts.truePositives (counts.truePositives + counts.falsePositives)))
    (roundThousandths (rate counts.truePositives (counts.truePositives + counts.falseNegatives)))

/-- The harmonic mean of the rates of the negative class, in doubles. -/
def doubleNeg : ℚ :=
  harmonicMean (rate counts.trueNegatives (counts.trueNegatives + counts.falseNegatives))
    (rate counts.trueNegatives (counts.trueNegatives + counts.falsePositives))

/-- The F1 is that of the counts, rounded once, and with negative cases the macro F1 is the mean of
the F1 of both classes, rounded once. -/
structure ReportedBy (negativeCases : Bool) (summary : DetectionSummary) : Prop where
  detectionF1 : summary.detectionF1 = roundThousandths counts.f1
  detectionMacroF1 : negativeCases →
    summary.detectionMacroF1 = some (roundThousandths ((counts.f1 + counts.f1Neg) / 2))

/-- No midpoint of two neighbouring thousandths separates the coarse F1 from the exact one, nor, when
there are negative cases, their means with the F1 of the negative class. -/
structure Robust (negativeCases : Bool) : Prop where
  f1 : SameThousandth counts.coarse counts.f1
  macroF1 : negativeCases →
    SameThousandth (roundedMean counts.coarse counts.doubleNeg) ((counts.f1 + counts.f1Neg) / 2)

theorem coarse_mem_Icc : counts.coarse ∈ Set.Icc (0 : ℚ) 1 :=
  harmonicMean_mem_Icc (roundThousandths_mem_Icc (rate_mem_Icc (Nat.le_add_right _ _)))
    (roundThousandths_mem_Icc (rate_mem_Icc (Nat.le_add_right _ _))) (Binary64.round_two_mul _)

theorem doubleNeg_mem_Icc : counts.doubleNeg ∈ Set.Icc (0 : ℚ) 1 :=
  harmonicMean_mem_Icc (rate_mem_Icc (Nat.le_add_right _ _)) (rate_mem_Icc (Nat.le_add_right _ _))
    (round_two_mul_rate _ _)

end ConfusionCounts

/-- A report has the coarse F1. -/
theorem generateReport_f1 {results : List ReportedResult} (hne : results ≠ []) :
    ∃ summary, generateReport results = some summary ∧
      summary.detectionF1 = roundThousandths (confusionCounts results).coarse ∧
      (results.any (·.negativeSample) → summary.detectionMacroF1 = some (roundThousandths
        (roundedMean (confusionCounts results).coarse (confusionCounts results).doubleNeg))) := by
  unfold generateReport
  rw [if_neg (mt List.isEmpty_iff.mp hne)]
  refine ⟨_, rfl, rfl, fun hnegative => ?_⟩
  dsimp only
  rw [if_pos hnegative]
  rfl

/-! ## Midpoints without doubles -/

/-- The harmonic mean, in rational numbers. -/
def exactMean (p r : ℚ) : ℚ := 2 * p * r / (p + r)

/-- The harmonic mean of precision and recall is the F1 of the counts. -/
theorem exactMean_div (tp fp fn : ℕ) :
    exactMean (tp / (tp + fp : ℕ)) (tp / (tp + fn : ℕ)) = f1OfCounts tp fp fn := by
  unfold exactMean f1OfCounts
  rcases Nat.eq_zero_or_pos tp with rfl | hpos
  · simp
  have htp : (0 : ℚ) < tp := by exact_mod_cast hpos
  have hfp : (0 : ℚ) ≤ fp := Nat.cast_nonneg fp
  have hfn : (0 : ℚ) ≤ fn := Nat.cast_nonneg fn
  push_cast
  field_simp
  ring

/-- A number is a hundred-thousandth of a thousandth away from every midpoint of two thousandths. -/
def Clear (q : ℚ) : Prop := 1 / 10 ^ 5 < |Int.fract (1000 * q) - 1 / 2|

instance (q : ℚ) : Decidable (Clear q) := inferInstanceAs (Decidable (_ < _))

/-- A clear number has some room before every midpoint. -/
theorem Clear.lt_abs_sub_midpoint {q : ℚ} (h : Clear q) (m : ℤ) :
    1 / 10 ^ 5 < |1000 * q - (m + 1 / 2)| := by
  unfold Clear at h
  have hsplit := Int.floor_add_fract (1000 * q)
  have hnonneg := Int.fract_nonneg (1000 * q)
  have hlt := Int.fract_lt_one (1000 * q)
  rcases lt_trichotomy m ⌊1000 * q⌋ with hbelow | rfl | habove
  · have hm : (m : ℚ) + 1 ≤ ⌊1000 * q⌋ := by exact_mod_cast hbelow
    exact lt_abs.mpr (.inl (by linarith))
  · rwa [← sub_sub, Int.self_sub_floor]
  · have hm : (⌊1000 * q⌋ : ℚ) + 1 ≤ m := by exact_mod_cast habove
    exact lt_abs.mpr (.inr (by linarith))

theorem Clear.sameThousandth {p q : ℚ} (h : Clear q) (hclose : |p - q| ≤ 1 / 10 ^ 8) :
    SameThousandth p q := by
  intro m
  obtain ⟨hlow, hhigh⟩ := abs_le.mp hclose
  have hne (v : ℚ) (hv : v ≠ m + 1 / 2) : Past m v ↔ (m : ℚ) + 1 / 2 < v :=
    or_iff_left fun hmid => hv hmid.1
  rcases lt_abs.mp (h.lt_abs_sub_midpoint m) with habove | hbelow
  · exact iff_of_true (.inl (by linarith)) (.inl (by linarith))
  · rw [hne _ (by linarith), hne _ (by linarith)]
    exact iff_of_false (by linarith) (by linarith)

/-- Quotients of close numbers are close, when the quotient is at most one. -/
theorem abs_div_sub_div_le {a b c d : ℚ} (hb : 0 < b) (hc : 0 ≤ c) (hcd : c ≤ d) (hd : 0 < d) :
    |a / b - c / d| ≤ (|a - c| + |b - d|) / b := by
  have hsplit : a / b - c / d = ((a - c) + c / d * (d - b)) / b := by
    field_simp
    ring
  have hquotient : |c / d| ≤ 1 := by
    rw [abs_of_nonneg (by positivity)]
    exact div_le_one_of_le₀ hcd hd.le
  rw [hsplit, abs_div, abs_of_pos hb]
  gcongr
  calc |a - c + c / d * (d - b)| ≤ |a - c| + |c / d| * |d - b| := by
        rw [← abs_mul]
        exact abs_add_le _ _
    _ ≤ |a - c| + 1 * |b - d| := by
        rw [abs_sub_comm d b]
        gcongr
    _ = |a - c| + |b - d| := by rw [one_mul]

/-- The error bound of a double that is at most two. -/
def epsilon : ℚ := 2 ^ (-52 : ℤ)

/-- The denominator of the mean, in doubles, is three roundings off. -/
theorem abs_round_sum_sub_le {p r : ℚ} (hp : p ∈ Set.Icc (0 : ℚ) 1) (hr : r ∈ Set.Icc (0 : ℚ) 1) :
    |Binary64.round (Binary64.round p + Binary64.round r) - (p + r)| ≤ 3 * epsilon := by
  have hpI := Binary64.round_mem_Icc hp
  have hrI := Binary64.round_mem_Icc hr
  have hp' := abs_le.mp (Binary64.abs_round_sub_le_of_mem_Icc hp)
  have hr' := abs_le.mp (Binary64.abs_round_sub_le_of_mem_Icc hr)
  have hs := abs_le.mp (Binary64.abs_round_sub_le_of_le (q := Binary64.round p + Binary64.round r)
    (by rw [abs_of_nonneg (add_nonneg hpI.1 hrI.1)]; linarith [hpI.2, hrI.2]))
  unfold epsilon
  exact abs_le.mpr ⟨by linarith, by linarith⟩

theorem abs_round_product_sub_le {p r : ℚ} (hp : p ∈ Set.Icc (0 : ℚ) 1)
    (hr : r ∈ Set.Icc (0 : ℚ) 1) :
    |Binary64.round (2 * Binary64.round p * Binary64.round r) - 2 * p * r| ≤ 5 * epsilon := by
  have hpI := Binary64.round_mem_Icc hp
  have hrI := Binary64.round_mem_Icc hr
  have hp' := abs_le.mp (Binary64.abs_round_sub_le_of_mem_Icc hp)
  have hr' := abs_le.mp (Binary64.abs_round_sub_le_of_mem_Icc hr)
  have hproduct : Binary64.round p * Binary64.round r ≤ 1 := mul_le_one₀ hpI.2 hrI.1 hrI.2
  have ha := abs_le.mp (Binary64.abs_round_sub_le_of_le
    (q := 2 * Binary64.round p * Binary64.round r)
    (by rw [abs_of_nonneg (mul_nonneg (mul_nonneg zero_le_two hpI.1) hrI.1)]; linarith))
  unfold epsilon
  generalize (2 : ℚ) ^ (-52 : ℤ) = epsilon at *
  exact abs_le.mpr ⟨by nlinarith [hr.1, hr.2, hpI.1, hpI.2], by nlinarith [hr.1, hr.2, hpI.1, hpI.2]⟩

/-- The harmonic mean of the doubles nearest to two rates, when these do not sum to very little. -/
theorem abs_harmonicMean_sub_le {p r : ℚ} (hp : p ∈ Set.Icc (0 : ℚ) 1) (hr : r ∈ Set.Icc (0 : ℚ) 1)
    (hsum : p = 0 ∧ r = 0 ∨ 1 / 10 ^ 6 ≤ p + r) :
    |harmonicMean (Binary64.round p) (Binary64.round r) - exactMean p r| ≤ 1 / 10 ^ 8 / 2 := by
  rcases hsum with ⟨rfl, rfl⟩ | hsum
  · simp only [harmonicMean, exactMean, Binary64.round_zero, add_zero, div_zero, gt_iff_lt,
      lt_self_iff_false, if_false, sub_zero, abs_zero]
    norm_num
  have hpI := Binary64.round_mem_Icc hp
  have hrI := Binary64.round_mem_Icc hr
  have hproduct (x y : ℚ) (hx : x ∈ Set.Icc (0 : ℚ) 1) (hy : y ∈ Set.Icc (0 : ℚ) 1) :
      2 * x * y ≤ x + y := by
    nlinarith [hx.1, hx.2, hy.1, hy.2]
  have hs := abs_round_sum_sub_le hp hr
  have ha := abs_round_product_sub_le hp hr
  have hbound : epsilon ≤ 1 / 10 ^ 15 / 4 := by norm_num [epsilon]
  have hlow : 1 / 10 ^ 6 / 2 ≤ Binary64.round (Binary64.round p + Binary64.round r) := by
    linarith [(abs_le.mp hs).1]
  have hpos : 0 < Binary64.round (Binary64.round p + Binary64.round r) := by linarith
  have hnonneg : 0 ≤ 2 * Binary64.round p * Binary64.round r :=
    mul_nonneg (mul_nonneg zero_le_two hpI.1) hrI.1
  have hquotient := abs_div_sub_div_le hpos (mul_nonneg (mul_nonneg zero_le_two hp.1) hr.1)
    (hproduct p r hp hr) (by linarith) (a := Binary64.round (2 * Binary64.round p * Binary64.round r))
  have hrounded := Binary64.abs_round_sub_le_of_mem_Icc
    (q := Binary64.round (2 * Binary64.round p * Binary64.round r) /
      Binary64.round (Binary64.round p + Binary64.round r))
    ⟨div_nonneg (Binary64.round_nonneg hnonneg) hpos.le,
      div_le_one_of_le₀ (Binary64.round_mono hnonneg (hproduct _ _ hpI hrI)) hpos.le⟩
  have herror : (|Binary64.round (2 * Binary64.round p * Binary64.round r) - 2 * p * r| +
      |Binary64.round (Binary64.round p + Binary64.round r) - (p + r)|) /
        Binary64.round (Binary64.round p + Binary64.round r) ≤ 8 * epsilon * (2 * 10 ^ 6) := by
    rw [div_le_iff₀ hpos]
    have hepsilon : 0 ≤ epsilon := by norm_num [epsilon]
    nlinarith
  unfold harmonicMean exactMean
  dsimp only
  rw [if_pos hpos, Binary64.round_two_mul]
  refine (abs_sub_le _ _ _).trans ((add_le_add hrounded (hquotient.trans herror)).trans ?_)
  change epsilon + _ ≤ _
  linarith

theorem rate_eq_round (part total : ℕ) : rate part total = Binary64.round (part / total) := by
  unfold rate
  split_ifs with h
  · rfl
  · rw [Nat.eq_zero_of_not_pos h, Nat.cast_zero, div_zero, Binary64.round_zero]

theorem div_mem_Icc {part total : ℕ} (h : part ≤ total) : (part / total : ℚ) ∈ Set.Icc (0 : ℚ) 1 :=
  ⟨by positivity, div_le_one_of_le₀ (by exact_mod_cast h) (by positivity)⟩

/-- Clear of midpoints, a rate may be rounded to a double before it is rounded to a thousandth. -/
theorem roundThousandths_rate {part total : ℕ} (h : part ≤ total) (hclear : Clear (part / total)) :
    roundThousandths (rate part total) = Binary64.round (thousandth (part / total)) := by
  rw [rate_eq_round, roundThousandths]
  refine congrArg Binary64.round (thousandth_eq_iff.mpr (hclear.sameThousandth ?_))
  exact (Binary64.abs_round_sub_le_of_mem_Icc (div_mem_Icc h)).trans (by norm_num)

theorem thousandth_eq_zero_or_le {q : ℚ} (h : 0 ≤ q) : thousandth q = 0 ∨ 1 / 10 ^ 3 ≤ thousandth q := by
  have hnonneg : (0 : ℤ) ≤ roundHalfEven (1000 * q) :=
    Binary64.le_roundHalfEven (by push_cast; linarith)
  unfold thousandth
  rcases hnonneg.eq_or_lt with hzero | hpos
  · exact .inl (by rw [← hzero, Int.cast_zero, zero_div])
  · have hone : (1 : ℚ) ≤ roundHalfEven (1000 * q) := by exact_mod_cast hpos
    exact .inr (by linarith)

namespace ConfusionCounts

variable (counts : ConfusionCounts)

def exactPrecision : ℚ := counts.truePositives / (counts.truePositives + counts.falsePositives : ℕ)

def exactRecall : ℚ := counts.truePositives / (counts.truePositives + counts.falseNegatives : ℕ)

/-- The harmonic mean, in rational numbers, of precision and recall to three decimals. -/
def coarseInRationals : ℚ := exactMean (thousandth counts.exactPrecision) (thousandth counts.exactRecall)

/-- `Robust` in rational numbers. -/
structure RobustInRationals (negativeCases : Bool) : Prop where
  f1 : SameThousandth counts.coarseInRationals counts.f1
  macroF1 : negativeCases →
    SameThousandth ((counts.coarseInRationals + counts.f1Neg) / 2) ((counts.f1 + counts.f1Neg) / 2)

/-- What the report rounds is clear of midpoints. -/
structure ClearOfMidpoints (negativeCases : Bool) : Prop where
  exactPrecision : Clear counts.exactPrecision
  exactRecall : Clear counts.exactRecall
  f1 : Clear counts.coarseInRationals
  macroF1 : negativeCases → Clear ((counts.coarseInRationals + counts.f1Neg) / 2)

variable {counts}

/-- The coarse F1 in doubles is close to the one in rational numbers. -/
theorem abs_coarse_sub_le (hprecision : Clear counts.exactPrecision) (hrecall : Clear counts.exactRecall) :
    |counts.coarse - counts.coarseInRationals| ≤ 1 / 10 ^ 8 / 2 := by
  have hp : counts.exactPrecision ∈ Set.Icc (0 : ℚ) 1 := div_mem_Icc (Nat.le_add_right _ _)
  have hr : counts.exactRecall ∈ Set.Icc (0 : ℚ) 1 := div_mem_Icc (Nat.le_add_right _ _)
  have hpI := thousandth_mem_Icc hp
  have hrI := thousandth_mem_Icc hr
  have hcoarse : counts.coarse = harmonicMean (Binary64.round (thousandth counts.exactPrecision))
      (Binary64.round (thousandth counts.exactRecall)) := by
    unfold exactPrecision at hprecision ⊢
    unfold exactRecall at hrecall ⊢
    rw [coarse, roundThousandths_rate (Nat.le_add_right _ _) hprecision,
      roundThousandths_rate (Nat.le_add_right _ _) hrecall]
  rw [hcoarse]
  refine abs_harmonicMean_sub_le hpI hrI ?_
  rcases thousandth_eq_zero_or_le hp.1 with hpzero | hple
  · rcases thousandth_eq_zero_or_le hr.1 with hrzero | hrle
    · exact .inl ⟨hpzero, hrzero⟩
    · exact .inr (by linarith [hpI.1])
  · exact .inr (by linarith [hrI.1])

theorem abs_doubleNeg_sub_le (h : counts.trueNegatives + counts.falseNegatives ≤ 10 ^ 6) :
    |counts.doubleNeg - counts.f1Neg| ≤ 1 / 10 ^ 8 / 2 := by
  rw [doubleNeg, f1Neg, rate_eq_round, rate_eq_round, ← exactMean_div]
  refine abs_harmonicMean_sub_le (div_mem_Icc (Nat.le_add_right _ _))
    (div_mem_Icc (Nat.le_add_right _ _)) ?_
  rcases Nat.eq_zero_or_pos counts.trueNegatives with hzero | hpos
  · exact .inl (by simp [hzero])
  · refine .inr (le_add_of_le_of_nonneg ?_ (by positivity))
    have hone : (1 : ℚ) ≤ counts.trueNegatives := by exact_mod_cast hpos
    have hle : ((counts.trueNegatives + counts.falseNegatives : ℕ) : ℚ) ≤ 10 ^ 6 := by
      exact_mod_cast h
    have htotal : (0 : ℚ) < (counts.trueNegatives + counts.falseNegatives : ℕ) := by
      exact_mod_cast Nat.add_pos_left hpos _
    rw [div_le_div_iff₀ (by norm_num) htotal, one_mul]
    nlinarith

theorem abs_roundedMean_sub_le {p r p' r' : ℚ} (hp : p ∈ Set.Icc (0 : ℚ) 1)
    (hr : r ∈ Set.Icc (0 : ℚ) 1) (hpp' : |p - p'| ≤ 1 / 10 ^ 8 / 2) (hrr' : |r - r'| ≤ 1 / 10 ^ 8 / 2) :
    |roundedMean p r - (p' + r') / 2| ≤ 1 / 10 ^ 8 := by
  have hnonneg : 0 ≤ p + r := add_nonneg hp.1 hr.1
  have hsum := Binary64.abs_round_sub_le_of_le (q := p + r)
    (by rw [abs_of_nonneg hnonneg]; linarith [hp.2, hr.2])
  have hhalf := Binary64.abs_round_sub_le_of_mem_Icc (half_round_add_mem_Icc hp hr)
  have hepsilon : (2 : ℚ) ^ (-52 : ℤ) ≤ 1 / 10 ^ 15 := by norm_num
  rw [abs_le] at hsum hhalf hpp' hrr'
  unfold roundedMean
  generalize (2 : ℚ) ^ (-52 : ℤ) = epsilon at *
  exact abs_le.mpr ⟨by linarith [hsum.1, hhalf.1, hpp'.1, hrr'.1],
    by linarith [hsum.2, hhalf.2, hpp'.2, hrr'.2]⟩

/-- Clear of midpoints, the doubles of a report do not matter. -/
theorem robust_iff_robustInRationals {negativeCases : Bool}
    (hfew : counts.trueNegatives + counts.falseNegatives ≤ 10 ^ 6)
    (hclear : counts.ClearOfMidpoints negativeCases) :
    counts.Robust negativeCases ↔ counts.RobustInRationals negativeCases := by
  have hcoarse := abs_coarse_sub_le hclear.exactPrecision hclear.exactRecall
  have hf1 : SameThousandth counts.coarse counts.coarseInRationals :=
    hclear.f1.sameThousandth (hcoarse.trans (by norm_num))
  have hmean (hnegative : negativeCases) :
      SameThousandth (roundedMean counts.coarse counts.doubleNeg)
        ((counts.coarseInRationals + counts.f1Neg) / 2) :=
    (hclear.macroF1 hnegative).sameThousandth (abs_roundedMean_sub_le counts.coarse_mem_Icc
      counts.doubleNeg_mem_Icc hcoarse (abs_doubleNeg_sub_le hfew))
  constructor
  · rintro ⟨hsame, haverage⟩
    exact ⟨hf1.congr_left.mp hsame, fun hnegative => (hmean hnegative).congr_left.mp (haverage hnegative)⟩
  · rintro ⟨hsame, haverage⟩
    exact ⟨hf1.congr_left.mpr hsame, fun hnegative => (hmean hnegative).congr_left.mpr (haverage hnegative)⟩

end ConfusionCounts

theorem negativeCounts_le (results : List ReportedResult) :
    (confusionCounts results).trueNegatives + (confusionCounts results).falseNegatives ≤
      results.length := by
  have hsplit := List.length_eq_countP_add_countP (l := results) (·.negativeSample)
  simp only [confusionCounts, ← List.countP_eq_length_filter, Bool.not_eq_true, Bool.decide_eq_false]
    at hsplit ⊢
  omega

/-- A case of an evaluated episode. -/
def caseOf (negativeSample correctVerdict : Bool) : ReportedResult where
  testcaseId := "case"
  correctVerdict
  correctDevice := true
  correctInterface := true
  correctFaultType := true
  score := if correctVerdict then 1 else 0
  negativeSample
  falsePositive := negativeSample && !correctVerdict

/-- Two faults of three are detected, and a healthy network is seen to be one. -/
def fourCases : List ReportedResult :=
  [caseOf false true, caseOf false true, caseOf false false, caseOf true true]

/-- Two faults of four are detected, and one in a healthy network. -/
def fiveCases : List ReportedResult :=
  [caseOf false true, caseOf false true, caseOf false false, caseOf false false, caseOf true false]

end NetOpsBench.Scorer
