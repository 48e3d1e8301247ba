import NetOpsBench.Evaluator.Scorer

/-!
# The score of the best location

The scorer keeps the location of the highest rank. A higher rank never has the lower score, so the
score is the highest that any acceptable location gives, in whatever order they are listed.

`score_best` says that the score is the greatest of the scores that the acceptable locations would give
one by one, that it does not depend on their order, and that more of them never lower it;
`locationScore_mono` compares two ranks, and `isGreatest_matchLocation` is the loop.
-/

namespace NetOpsBench.Scorer

/-- The locations that count: the target and what is equivalent to it. -/
def GroundTruth.acceptable (truth : GroundTruth) : List Location :=
  truth.location.getD {} :: truth.equivalentLocations

def GroundTruth.interfaceApplicable (truth : GroundTruth) : Bool :=
  (Python.truthy (truth.location.getD {}).interface).isSome

/-- The score of an answer if there were one acceptable location only. -/
def creditFor (agent : Location) (interfaceApplicable : Bool) (location : Location) : ℚ :=
  if interfaceApplicable then
    (if normalizeName (agent.device.getD "") = normalizeName (location.device.getD "") then 1 / 2
      else 0) +
      if normalizeInterface agent.interface = normalizeInterface location.interface then 1 / 2 else 0
  else
    if normalizeName (agent.device.getD "") = normalizeName (location.device.getD "") then 1 else 0

/-! ## Ranks -/

/-- One step of the loop over the locations. -/
def keepBetter (best : Option Match) (found : Match) : Option Match :=
  match best with
  | none => some found
  | some best => if isBetterLocationRank found.rank best.rank then some found else some best

/-- The loop ends with the highest rank of what it has seen. -/
theorem foldl_keepBetter (best : Match) (found : List Match) :
    ∃ last ∈ best :: found, found.foldl keepBetter (some best) = some last ∧
      ∀ other ∈ best :: found, other.rank ≤ last.rank := by
  induction found generalizing best with
  | nil => exact ⟨best, List.mem_singleton_self _, rfl, by simp⟩
  | cons first found ih =>
    rw [List.foldl_cons]
    by_cases hbetter : best.rank < first.rank
    · have hstep : keepBetter (some best) first = some first := if_pos (decide_eq_true hbetter)
      obtain ⟨last, hmem, hfold, hmax⟩ := ih first
      refine ⟨last, List.mem_cons_of_mem _ hmem, by rw [hstep, hfold], fun other hother => ?_⟩
      rcases List.mem_cons.mp hother with rfl | hother
      · exact hbetter.le.trans (hmax first List.mem_cons_self)
      · exact hmax other hother
    · have hstep : keepBetter (some best) first = some best := if_neg <| by
        rwa [isBetterLocationRank, decide_eq_true_eq]
      obtain ⟨last, hmem, hfold, hmax⟩ := ih best
      refine ⟨last, ?_, by rw [hstep, hfold], fun other hother => ?_⟩
      · rcases List.mem_cons.mp hmem with rfl | hmem
        · exact List.mem_cons_self
        · exact List.mem_cons_of_mem _ (List.mem_cons_of_mem _ hmem)
      · rcases List.mem_cons.mp hother with rfl | hother
        · exact hmax other List.mem_cons_self
        · rcases List.mem_cons.mp hother with rfl | hother
          · exact (not_lt.mp hbetter).trans (hmax best List.mem_cons_self)
          · exact hmax other (List.mem_cons_of_mem _ hother)

/-- A higher rank has no lower score. -/
theorem locationScore_mono {interfaceApplicable device interface first device' interface' first' : Bool}
    (h : [device.toNat, interface.toNat, first.toNat] ≤
      [device'.toNat, interface'.toNat, first'.toNat]) :
    locationScore interfaceApplicable device interface ≤
      locationScore interfaceApplicable device' interface' := by
  revert interfaceApplicable device interface first device' interface' first'
  decide +kernel

theorem locationScore_matchCandidate (agent : Location) (interfaceApplicable first : Bool)
    (candidate : Location) :
    locationScore interfaceApplicable
        (matchCandidate agent interfaceApplicable first candidate).device
        (matchCandidate agent interfaceApplicable first candidate).interface =
      creditFor agent interfaceApplicable candidate := by
  unfold locationScore matchCandidate creditFor
  cases interfaceApplicable <;> simp

/-- The rank of a match: the device before the interface, and the target before its equivalents. -/
theorem rank_matchCandidate (agent : Location) (interfaceApplicable first : Bool)
    (candidate : Location) :
    (matchCandidate agent interfaceApplicable first candidate).rank =
      [(matchCandidate agent interfaceApplicable first candidate).device.toNat,
        (matchCandidate agent interfaceApplicable first candidate).interface.toNat,
        first.toNat] := by
  simp only [matchCandidate]

/-- The match of a location scores no more than the one that is kept. -/
theorem creditFor_le {agent candidate : Location} {interfaceApplicable first : Bool} {last : Match}
    (hlast : ∃ other index, last = matchCandidate agent interfaceApplicable index other)
    (h : (matchCandidate agent interfaceApplicable first candidate).rank ≤ last.rank) :
    creditFor agent interfaceApplicable candidate ≤
      locationScore interfaceApplicable last.device last.interface := by
  obtain ⟨other, index, rfl⟩ := hlast
  rw [rank_matchCandidate, rank_matchCandidate] at h
  rw [← locationScore_matchCandidate agent interfaceApplicable first]
  exact locationScore_mono h

/-! ## The best location -/

/-- The match that is kept is that of a location, and no location has a higher rank. -/
theorem matchLocation_eq (agent target : Location) (equivalents : List Location)
    (interfaceApplicable : Bool) :
    ∃ last : Match, matchLocation agent (target :: equivalents) interfaceApplicable =
        (last.device, last.interface) ∧
      (∃ location ∈ target :: equivalents, ∃ first,
        last = matchCandidate agent interfaceApplicable first location) ∧
      ∀ location ∈ target :: equivalents, ∃ first,
        (matchCandidate agent interfaceApplicable first location).rank ≤ last.rank := by
  let found := fun pair : Location × ℕ =>
    matchCandidate agent interfaceApplicable (decide (pair.2 = 0)) pair.1
  have hloop : matchLocation agent (target :: equivalents) interfaceApplicable =
      match ((equivalents.zipIdx 1).map found).foldl keepBetter (some (found (target, 0))) with
      | none => (false, !interfaceApplicable)
      | some best => (best.device, best.interface) := by
    rw [List.foldl_map]
    rfl
  obtain ⟨last, hmem, hfold, hmax⟩ :=
    foldl_keepBetter (found (target, 0)) ((equivalents.zipIdx 1).map found)
  have hfound : found (target, 0) :: (equivalents.zipIdx 1).map found =
      ((target :: equivalents).zipIdx).map found := rfl
  rw [hfound] at hmem hmax
  refine ⟨last, by rw [hloop, hfold], ?_, fun location hlocation => ?_⟩
  · obtain ⟨⟨location, index⟩, hpair, rfl⟩ := List.mem_map.mp hmem
    exact ⟨location, List.fst_mem_of_mem_zipIdx hpair, _, rfl⟩
  · obtain ⟨index, hindex, rfl⟩ := List.mem_iff_getElem.mp hlocation
    refine ⟨_, hmax _ (List.mem_map.mpr ⟨((target :: equivalents)[index], index), ?_, rfl⟩)⟩
    exact List.mk_mem_zipIdx_iff_getElem?.mpr (List.getElem?_eq_getElem hindex)

/-- The score of the match is the greatest credit of any acceptable location. -/
theorem isGreatest_matchLocation (agent target : Location) (equivalents : List Location)
    (interfaceApplicable : Bool) :
    IsGreatest (creditFor agent interfaceApplicable '' {location | location ∈ target :: equivalents})
      (locationScore interfaceApplicable
        (matchLocation agent (target :: equivalents) interfaceApplicable).1
        (matchLocation agent (target :: equivalents) interfaceApplicable).2) := by
  obtain ⟨last, hmatch, ⟨location, hlocation, first, hlast⟩, hmax⟩ :=
    matchLocation_eq agent target equivalents interfaceApplicable
  rw [hmatch]
  constructor
  · exact ⟨location, hlocation, by rw [hlast, locationScore_matchCandidate]⟩
  · rintro _ ⟨other, hother, rfl⟩
    obtain ⟨index, hrank⟩ := hmax other hother
    exact creditFor_le ⟨location, first, hlast⟩ hrank

namespace Evaluator

variable {evaluator : Evaluator} {output : AgentOutput} {truth : GroundTruth}

/-- The score of a fault is that of the match, once the verdict is right. -/
theorem evaluate_score (hfault : truth ≠ {}) (testcaseId : String) :
    (evaluator.evaluate output truth testcaseId).score =
      if output.verdict = "fault_detected" then
        locationScore truth.interfaceApplicable
          (matchLocation output.location truth.acceptable truth.interfaceApplicable).1
          (matchLocation output.location truth.acceptable truth.interfaceApplicable).2
      else 0 := by
  unfold evaluate
  rw [if_neg hfault]
  rfl

/-- A ground truth without equivalent locations may be empty, with them it is not. -/
theorem truth_ne_of_subset {equivalents : List Location} (hfault : truth ≠ {})
    (hsubset : truth.equivalentLocations ⊆ equivalents) :
    { truth with equivalentLocations := equivalents } ≠ {} := by
  intro h
  obtain ⟨hfaultType, hlocation, rfl⟩ := GroundTruth.mk.inj h
  refine hfault ?_
  obtain ⟨faultType, location, known⟩ := truth
  obtain rfl := List.subset_nil.mp hsubset
  dsimp only at hfaultType hlocation
  rw [hfaultType, hlocation]

/-- More acceptable locations never lower the score. -/
theorem score_le_of_subset {equivalents : List Location} (hfault : truth ≠ {})
    (hsubset : truth.equivalentLocations ⊆ equivalents) (testcaseId : String) :
    (evaluator.evaluate output truth testcaseId).score ≤
      (evaluator.evaluate output { truth with equivalentLocations := equivalents }
        testcaseId).score := by
  rw [evaluate_score hfault, evaluate_score (truth_ne_of_subset hfault hsubset)]
  split
  · refine (isGreatest_matchLocation ..).mono (isGreatest_matchLocation ..) ?_
    exact Set.image_mono fun location hmem =>
      List.cons_subset_cons (truth.location.getD {}) hsubset hmem
  · exact le_rfl

/-- The score of a fault is zero without the right verdict, and else the highest of the scores of
the acceptable locations. It does not depend on their order, and more of them never lower it. -/
theorem score_best (evaluator : Evaluator) (output : AgentOutput) (truth : GroundTruth)
    (testcaseId : String) (hfault : truth ≠ {}) :
    (output.verdict ≠ "fault_detected" →
      (evaluator.evaluate output truth testcaseId).score = 0) ∧
    (output.verdict = "fault_detected" →
      IsGreatest (creditFor output.location truth.interfaceApplicable ''
        {location | location ∈ truth.acceptable})
        (evaluator.evaluate output truth testcaseId).score) ∧
    (∀ equivalents : List Location, equivalents.Perm truth.equivalentLocations →
      (evaluator.evaluate output { truth with equivalentLocations := equivalents }
        testcaseId).score = (evaluator.evaluate output truth testcaseId).score) ∧
    ∀ equivalents : List Location, truth.equivalentLocations ⊆ equivalents →
      (evaluator.evaluate output truth testcaseId).score ≤
        (evaluator.evaluate output { truth with equivalentLocations := equivalents }
          testcaseId).score := by
  refine ⟨fun hverdict => ?_, fun hverdict => ?_, fun equivalents hperm => ?_,
    fun equivalents hsubset => score_le_of_subset hfault hsubset testcaseId⟩
  · rw [evaluate_score hfault, if_neg hverdict]
  · rw [evaluate_score hfault, if_pos hverdict]
    exact isGreatest_matchLocation ..
  · refine le_antisymm ?_ (score_le_of_subset hfault hperm.symm.subset testcaseId)
    have hfault' := truth_ne_of_subset hfault hperm.symm.subset
    exact score_le_of_subset hfault' hperm.subset testcaseId

end Evaluator

theorem score_best_of_peer :
    (Evaluator.evaluate { judge := fun _ _ _ _ => true }
      { verdict := "fault_detected", location := { device := some "leaf1", interface := some "eth1" } }
      { location := some { device := some "spine1", interface := some "Ethernet0" }
        equivalentLocations := [{ device := some "leaf1", interface := some "Ethernet0" }] }
      "case").score ≤
    (Evaluator.evaluate { judge := fun _ _ _ _ => true }
      { verdict := "fault_detected", location := { device := some "leaf1", interface := some "eth1" } }
      { location := some { device := some "spine1", interface := some "Ethernet0" }
        equivalentLocations := [{ device := some "spine2" },
          { device := some "leaf1", interface := some "Ethernet0" }] }
      "case").score :=
  (Evaluator.score_best _ _ _ _ (by decide)).2.2.2 _ (List.subset_cons_self _ _)

end NetOpsBench.Scorer
