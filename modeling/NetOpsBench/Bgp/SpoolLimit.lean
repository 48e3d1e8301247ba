import NetOpsBench.Bgp.Segments
import NetOpsBench.Data.Run

/-!
# The limit of the spool

A write checks the limit for its lines, and a rotation for its marker. A write that rotates adds
both. The files stay within the limit exactly as long as every such write has room for both.

`spool_within_limit` is the equivalence over runs, and `within_step_iff` the one over a step: a write
keeps the files within the limit if and only if it has `RoomForBoth`. `twoHeartbeats_exceed_limit` has two
lines of which each fits, and the marker fits too, but not both.
-/

namespace NetOpsBench.Bgp

namespace SegmentedSpool
variable {spool : SegmentedSpool}

@[simp] theorem size_ensureSpoolFile (spool : SegmentedSpool) :
    spool.ensureSpoolFile.size = spool.size := by
  unfold ensureSpoolFile size
  cases spool.active <;> rfl

@[simp] theorem size_append (spool : SegmentedSpool) (text : String) :
    (spool.append text).size = spool.size + text.utf8ByteSize := by
  unfold append size
  cases spool.active with
  | none =>
    simp only [Option.getD_none, String.empty_append, Option.elim_some, Option.elim_none]
    omega
  | some lines =>
    simp only [Option.getD_some, Option.elim_some, String.utf8ByteSize_append]
    omega

/-- Sealing adds the marker. -/
theorem size_withSealed {topologyId : String} {segment : SealedSegment}
    (h : spool.toSeal topologyId = .ok (some segment)) :
    (spool.withSealed segment).size = spool.size + segment.marker.utf8ByteSize := by
  obtain ⟨hactive, hfree⟩ := toSeal_eq_some h
  unfold withSealed size
  rw [hactive, AList.entries_insert_of_notMem hfree]
  simp only [SealedSegment.text, Option.elim_some, String.utf8ByteSize_append, List.map_cons,
    List.sum_cons, String.utf8ByteSize_empty]
  omega

theorem size_deleteIngestedSegments (spool : SegmentedSpool) (ingestedSegments : List String) :
    (spool.deleteIngestedSegments ingestedSegments).size ≤ spool.size := by
  refine Nat.add_le_add_left ?_ _
  show ((spool.sealed.entries.filterMap _).map _).sum ≤ _
  induction spool.sealed.entries with
  | nil => exact Nat.le_refl _
  | cons entry entries ih =>
    by_cases hmem : entry.1 ∈ ingestedSegments
    · simp only [List.filterMap_cons, hmem, if_true, Option.map_none, List.map_cons, List.sum_cons]
      exact ih.trans (Nat.le_add_left ..)
    · simp only [List.filterMap_cons, hmem, if_false, Option.map_some, List.map_cons, List.sum_cons]
      exact Nat.add_le_add_left ih _

end SegmentedSpool

/-! ## Runs -/

inductive SpoolEvent where
  | write (lines : List String) (segmentBytes : ℤ) (topologyId : String)
  | rotate (topologyId : String)
  | delete (ingestedSegments : List String)

def SegmentedSpool.step (maxBytes : ℤ) (spool : SegmentedSpool) : SpoolEvent → SegmentedSpool
  | .write lines segmentBytes topologyId =>
    (spool.writeSegmentedLines lines maxBytes segmentBytes topologyId).1
  | .rotate topologyId =>
    match spool.rotateActiveSegment topologyId maxBytes with
    | .ok (rotated, _) => rotated
    | .error _ => spool
  | .delete ingestedSegments => spool.deleteIngestedSegments ingestedSegments

def SegmentedSpool.Within (maxBytes : ℤ) (spool : SegmentedSpool) : Prop := spool.size ≤ maxBytes

instance (maxBytes : ℤ) (spool : SegmentedSpool) : Decidable (spool.Within maxBytes) :=
  inferInstanceAs (Decidable (_ ≤ _))

/-- A write that seals a segment, and has room for its lines and for the marker, has room for both
together. -/
def SegmentedSpool.RoomForBoth (maxBytes : ℤ) (spool : SegmentedSpool) : SpoolEvent → Prop
  | .write lines segmentBytes topologyId =>
    spool.Overfills (rendered lines).utf8ByteSize segmentBytes →
      ∀ segment, spool.toSeal topologyId = .ok (some segment) →
        (spool.size + (rendered lines).utf8ByteSize : ℕ) ≤ maxBytes →
        (spool.size + segment.marker.utf8ByteSize : ℕ) ≤ maxBytes →
        (spool.size + segment.marker.utf8ByteSize + (rendered lines).utf8ByteSize : ℕ) ≤ maxBytes
  | .rotate _ | .delete _ => True

namespace SegmentedSpool
variable {maxBytes : ℤ} {spool : SegmentedSpool}

/-- Touching the active file does not matter to a rotation. -/
theorem overfills_ensureSpoolFile (bytes : ℕ) (segmentBytes : ℤ) :
    spool.ensureSpoolFile.Overfills bytes segmentBytes ↔ spool.Overfills bytes segmentBytes := by
  unfold Overfills ensureSpoolFile
  cases spool.active <;> simp

theorem toSeal_ensureSpoolFile (topologyId : String) (h : spool.active ≠ none) :
    spool.ensureSpoolFile.toSeal topologyId = spool.toSeal topologyId := by
  obtain ⟨outputFile, active, sealed⟩ := spool
  cases active with
  | none => exact absurd rfl h
  | some lines => rfl

theorem active_ne_none {bytes : ℕ} {segmentBytes : ℤ} (h : spool.Overfills bytes segmentBytes) :
    spool.active ≠ none := by
  obtain ⟨-, lines, hlines, -⟩ := h
  rw [Option.mem_def] at hlines
  rw [hlines]
  exact Option.some_ne_none lines

/-- A write that overfills the active file finds something to seal. -/
theorem toSeal_ne_none {bytes : ℕ} {segmentBytes : ℤ} {topologyId : String}
    (h : spool.Overfills bytes segmentBytes) :
    spool.ensureSpoolFile.toSeal topologyId ≠ .ok none := by
  obtain ⟨-, lines, hlines, hsize, -⟩ := h
  rw [toSeal_ensureSpoolFile _ (by rw [hlines]; exact Option.some_ne_none lines)]
  have hne : lines ≠ "" := by
    rintro rfl
    exact absurd hsize (by decide)
  have hactive : spool.active.filter (· ≠ "") = some lines :=
    Option.filter_eq_some_iff.mpr ⟨hlines, decide_eq_true hne⟩
  unfold toSeal
  rw [hactive]
  dsimp only
  split <;> nofun

/-- A write keeps to the limit if and only if it has room for its lines and the marker. -/
theorem within_write_iff (hpos : maxBytes > 0) (hwithin : spool.Within maxBytes)
    (lines : List String) (segmentBytes : ℤ) (topologyId : String) :
    (spool.step maxBytes (.write lines segmentBytes topologyId)).Within maxBytes ↔
      spool.RoomForBoth maxBytes (.write lines segmentBytes topologyId) := by
  have hcases := spool.writeSegmentedLines_cases lines maxBytes segmentBytes topologyId
  simp only [overfills_ensureSpoolFile, size_ensureSpoolFile] at hcases
  unfold step RoomForBoth
  dsimp only
  obtain ⟨error, hresult, hrefused⟩ | ⟨hfits, ⟨hover, hresult⟩ |
    ⟨rotated, sealed, hover, hrotate, hresult⟩⟩ := hcases
  · -- refused, for the lines or for the marker
    refine iff_of_true ?_ fun hover segment hseal hlines hmarker => ?_
    · rw [hresult, Within, size_ensureSpoolFile]
      exact hwithin
    · rcases hrefused with hfull | herror
      · exact absurd hlines (not_le.mpr hfull)
      · rw [← toSeal_ensureSpoolFile _ (active_ne_none hover)] at hseal
        have hfull := rotateActiveSegment_error herror hseal
        rw [size_ensureSpoolFile] at hfull
        exact absurd hmarker (not_le.mpr hfull)
  · refine iff_of_true ?_ fun hover' => absurd hover' hover
    rw [hresult, Within, size_append, size_ensureSpoolFile]
    exact hfits hpos
  · obtain ⟨hseal, rfl, -⟩ | ⟨segment, hseal, hmarker, rfl, -⟩ := rotateActiveSegment_cases hrotate
    · -- a file that overfills is not empty
      exact absurd hseal (toSeal_ne_none hover)
    · rw [hresult, Within, size_append, size_withSealed hseal]
      rw [size_ensureSpoolFile] at hmarker ⊢
      rw [toSeal_ensureSpoolFile _ (active_ne_none hover)] at hseal
      constructor
      · intro hboth _ segment' hseal' _ _
        rw [hseal] at hseal'
        cases hseal'
        exact hboth
      · exact fun hroom => hroom hover segment hseal (hfits hpos) (hmarker hpos)

theorem within_step_iff (hpos : maxBytes > 0) (hwithin : spool.Within maxBytes)
    (event : SpoolEvent) :
    (spool.step maxBytes event).Within maxBytes ↔ spool.RoomForBoth maxBytes event := by
  cases event with
  | write lines segmentBytes topologyId => exact within_write_iff hpos hwithin ..
  | rotate topologyId =>
    refine iff_of_true ?_ trivial
    show Within maxBytes (match spool.rotateActiveSegment topologyId maxBytes with
      | .ok (rotated, _) => rotated
      | .error _ => spool)
    cases hrotate : spool.rotateActiveSegment topologyId maxBytes with
    | error error => exact hwithin
    | ok rotated =>
      obtain ⟨rotated, sealed⟩ := rotated
      obtain ⟨-, rfl, -⟩ | ⟨segment, hseal, hfits, rfl, -⟩ := rotateActiveSegment_cases hrotate
      · exact hwithin
      · rw [Within, size_withSealed hseal]
        exact hfits hpos
  | delete ingestedSegments =>
    refine iff_of_true ?_ trivial
    exact le_trans (by exact_mod_cast size_deleteIngestedSegments spool ingestedSegments) hwithin

end SegmentedSpool

/-- From files within the limit, a run keeps them there after every operation if and only if each of
its writes that seals a segment has room for its lines and the marker together. -/
theorem spool_within_limit {maxBytes : ℤ} (hpos : maxBytes > 0) {spool : SegmentedSpool}
    (hwithin : spool.Within maxBytes) (events : List SpoolEvent) :
    (∀ before after, events = before ++ after →
      (before.foldl (SegmentedSpool.step maxBytes) spool).Within maxBytes) ↔
    Run.Meets (SegmentedSpool.step maxBytes) (SegmentedSpool.RoomForBoth maxBytes) spool events := by
  induction events generalizing spool with
  | nil =>
    refine iff_of_true (fun before after h => ?_) trivial
    obtain ⟨rfl, -⟩ := List.append_eq_nil_iff.mp h.symm
    exact hwithin
  | cons event events ih =>
    rw [Run.Meets, ← SegmentedSpool.within_step_iff hpos hwithin]
    constructor
    · intro h
      have hstep := h [event] events rfl
      refine ⟨hstep, (ih hstep).mp fun before after hevents => ?_⟩
      exact h (event :: before) after (by rw [hevents, List.cons_append])
    · rintro ⟨hstep, hrest⟩ before after hevents
      cases before with
      | nil => exact hwithin
      | cons first before =>
        obtain ⟨rfl, htail⟩ := List.cons.inj hevents
        exact (ih hstep).mpr hrest before after htail

/-! ### Two heartbeats -/

def emptySpool : SegmentedSpool where
  outputFile := "bgp_neighbors.lp"
  active := none
  sealed := ∅

def heartbeatLine (time : ℕ) : String := s!"bgp_event_index,source=leaf1 schema_version=1i {time}"

/-- The second line does not fit into the segment of the first. -/
def twoHeartbeats : List SpoolEvent :=
  [.write [heartbeatLine 100] 64 "runtime-xs", .write [heartbeatLine 200] 64 "runtime-xs"]

/-- With a limit of 200 bytes there is room for both, so the second write seals the first line and
stays within the limit. -/
theorem twoHeartbeats_within_limit :
    Run.Meets (SegmentedSpool.step 200) (SegmentedSpool.RoomForBoth 200) emptySpool twoHeartbeats ∧
      (twoHeartbeats.foldl (SegmentedSpool.step 200) emptySpool).sealed.entries.length = 1 := by
  refine ⟨(spool_within_limit (by decide) (by decide) _).mp fun before after h => ?_, by decide +kernel⟩
  have hbefore : before = twoHeartbeats.take before.length := by rw [h, List.take_left]
  have hlength : before.length ≤ 2 := by
    have hboth : 2 = before.length + after.length := by
      rw [← List.length_append, ← h]
      rfl
    omega
  rw [hbefore]
  interval_cases before.length <;> decide +kernel

/-- 51 bytes are in the file. There is room for 51 more, and for a marker of 98, but not for both. -/
theorem twoHeartbeats_exceed_limit : ¬ ∀ before after, twoHeartbeats = before ++ after →
    (before.foldl (SegmentedSpool.step 180) emptySpool).Within 180 := by
  intro h
  have hboth := h twoHeartbeats [] (List.append_nil _).symm
  revert hboth
  decide +kernel

end NetOpsBench.Bgp
