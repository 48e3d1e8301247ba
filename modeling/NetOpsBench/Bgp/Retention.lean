import NetOpsBench.Bgp.SpoolLimit

/-!
# Telemetry until it is ingested

A run of the collector with the database that takes its lines in. Every accepted line stays in the
active file or in the one segment that it was sealed in until the marker of that segment has been
ingested, as long as no segment is sealed under the identity of one that was ingested before it.

The main result is `telemetry_delivered`. Its invariant is `Tracked`: every accepted write is in one
segment or in the active file, in the order of the writes, and the markers in the database are those of
the ingested segments; there is one lemma for each event, and `Tracked.step` puts them together.
`sealedAgain_not_delivered` is a run in which an identity is used twice.
-/

namespace NetOpsBench.Bgp

/-- A segment in the order of sealing, with the texts of the writes in it. -/
structure SegmentRecord where
  segment : SealedSegment
  writes : List String

/-- The files, the texts of the accepted writes, and the database. `written` are the writes since the
last sealing; `ingested` are the positions of the segments whose own marker was ingested, and
`markers` the rows that these left. -/
structure SpoolSystem where
  spool : SegmentedSpool
  accepted : List String
  segments : List SegmentRecord
  written : List String
  ingested : List ℕ
  markers : List MarkerRow

/-- A query returns some of the markers, and `none` when it fails. -/
inductive SystemEvent where
  | write (lines : List String) (maxBytes segmentBytes : ℤ) (topologyId : String)
  | rotate (topologyId : String) (maxBytes : ℤ)
  | ingest (index : ℕ)
  | deleteIngested (returned : Option (List ℕ))

namespace SpoolSystem

def start (outputFile : String) : SpoolSystem where
  spool := { outputFile, active := none, sealed := ∅ }
  accepted := []
  segments := []
  written := []
  ingested := []
  markers := []

def recordSealed (system : SpoolSystem) : Option SealedSegment → SpoolSystem
  | none => system
  | some segment =>
    { system with segments := system.segments ++ [⟨segment, system.written⟩], written := [] }

def recordAccepted (system : SpoolSystem) (text : String) : SpoolSystem :=
  { system with accepted := system.accepted ++ [text], written := system.written ++ [text] }

def write (system : SpoolSystem) (lines : List String) (maxBytes segmentBytes : ℤ)
    (topologyId : String) : SpoolSystem :=
  match system.spool.writeSegmentedLines lines maxBytes segmentBytes topologyId with
  | (spool, .ok segment) =>
    { (system.recordSealed segment).recordAccepted (rendered lines) with spool }
  | (spool, .error _) => { system with spool }

def rotate (system : SpoolSystem) (topologyId : String) (maxBytes : ℤ) : SpoolSystem :=
  match system.spool.rotateActiveSegment topologyId maxBytes with
  | .ok (spool, segment) => { system.recordSealed segment with spool }
  | .error _ => system

def ingest (system : SpoolSystem) (index : ℕ) : SpoolSystem :=
  match system.segments[index]? with
  | none => system
  | some record =>
    { system with
      ingested := system.ingested ++ [index]
      markers := system.markers ++ [{
        spoolSegment := record.segment.segmentId
        time := some record.segment.timestamp }] }

def deleteIngested (system : SpoolSystem) (returned : Option (List ℕ)) : SpoolSystem :=
  let rows := returned.map fun indices => indices.filterMap (system.markers[·]?)
  { system with spool := system.spool.deleteIngestedSegments (queryIngestedSegments rows) }

def step (system : SpoolSystem) : SystemEvent → SpoolSystem
  | .write lines maxBytes segmentBytes topologyId =>
    system.write lines maxBytes segmentBytes topologyId
  | .rotate topologyId maxBytes => system.rotate topologyId maxBytes
  | .ingest index => system.ingest index
  | .deleteIngested returned => system.deleteIngested returned

def run (outputFile : String) (events : List SystemEvent) : SpoolSystem :=
  events.foldl step (start outputFile)

/-- The segment that an event seals. -/
def sealedBy (system : SpoolSystem) : SystemEvent → Option SealedSegment
  | .write lines maxBytes segmentBytes topologyId =>
    match system.spool.writeSegmentedLines lines maxBytes segmentBytes topologyId with
    | (_, .ok segment) => segment
    | (_, .error _) => none
  | .rotate topologyId maxBytes =>
    match system.spool.rotateActiveSegment topologyId maxBytes with
    | .ok (_, segment) => segment
    | .error _ => none
  | .ingest _ | .deleteIngested _ => none

/-- A marker that was ingested does not name the segment that the event seals. -/
def FreshIdentity (system : SpoolSystem) (event : SystemEvent) : Prop :=
  ∀ segment ∈ system.sealedBy event, ∀ row ∈ system.markers, row.spoolSegment ≠ segment.segmentId

/-- Every accepted write is in one segment or in the active file, in order; the file of a segment
keeps the segment until its own marker is ingested, and no file holds anything else. -/
structure Delivered (system : SpoolSystem) : Prop where
  order : system.segments.flatMap (·.writes) ++ system.written = system.accepted
  text : ∀ record ∈ system.segments, record.segment.lines = String.join record.writes
  active : system.spool.active.getD "" = String.join system.written
  kept : ∀ index record, system.segments[index]? = some record → index ∉ system.ingested →
    system.spool.sealed.lookup record.segment.segmentId = some record.segment.text
  files : ∀ segmentId text, system.spool.sealed.lookup segmentId = some text →
    ∃ record ∈ system.segments, record.segment.segmentId = segmentId ∧ record.segment.text = text
  identities : (system.segments.map (·.segment.segmentId)).Nodup

/-- Also, the markers of the database are those of the ingested segments. -/
structure Tracked (system : SpoolSystem) : Prop extends Delivered system where
  known : ∀ index ∈ system.ingested, index < system.segments.length
  marked : ∀ index record, index ∈ system.ingested → system.segments[index]? = some record →
    ∃ row ∈ system.markers, row.spoolSegment = record.segment.segmentId
  ingested : ∀ row ∈ system.markers, ∃ index ∈ system.ingested, ∃ record,
    system.segments[index]? = some record ∧ row.spoolSegment = record.segment.segmentId

/-! ## What one step keeps -/

theorem mem_queryIngestedSegments {rows : Option (List MarkerRow)} {segmentId : String}
    (h : segmentId ∈ queryIngestedSegments rows) :
    ∃ row ∈ rows.getD [], row.spoolSegment = segmentId := by
  obtain ⟨row, hrow, hread⟩ := List.mem_filterMap.mp h
  refine ⟨row, hrow, ?_⟩
  simp only [bind, Option.bind_eq_some_iff] at hread
  obtain ⟨timestamp, -, ingestedAt, -, hread⟩ := hread
  split at hread
  · exact Option.some.inj hread
  · cases hread

/-- The files that are deleted are those of the identities in the report. -/
theorem lookup_deleteIngestedSegments (spool : SegmentedSpool) (report : List String)
    (segmentId : String) :
    (spool.deleteIngestedSegments report).sealed.lookup segmentId =
      if segmentId ∈ report then none else spool.sealed.lookup segmentId := by
  unfold SegmentedSpool.deleteIngestedSegments
  rw [Dict.lookup_filterMap]
  split
  · cases spool.sealed.lookup segmentId <;> rfl
  · cases spool.sealed.lookup segmentId <;> rfl

variable {system : SpoolSystem}

theorem Delivered.index_eq (h : system.Delivered) {first second : ℕ} {record record' : SegmentRecord}
    (hfirst : system.segments[first]? = some record)
    (hsecond : system.segments[second]? = some record')
    (hsame : record.segment.segmentId = record'.segment.segmentId) : first = second := by
  have hlt : first < (system.segments.map (·.segment.segmentId)).length := by
    rw [List.length_map]
    exact (List.getElem?_eq_some_iff.mp hfirst).1
  refine (List.getElem?_inj hlt h.identities).mp ?_
  rw [List.getElem?_map, List.getElem?_map, hfirst, hsecond]
  exact congrArg some hsame

/-- A collector starts without files and without markers. -/
theorem tracked_start (outputFile : String) : (start outputFile).Tracked where
  order := rfl
  text _ h := nomatch h
  active := rfl
  kept _ _ h := nomatch h
  files _ _ h := nomatch h
  identities := .nil
  known _ h := nomatch h
  marked _ _ h := nomatch h
  ingested _ h := nomatch h

theorem Tracked.ensureSpoolFile (h : system.Tracked) :
    Tracked { system with spool := system.spool.ensureSpoolFile } :=
  { h with active := h.active }

/-- An identity without a file and without a marker is new. -/
theorem Tracked.identity_new (h : system.Tracked) {segment : SealedSegment}
    (hfile : segment.segmentId ∉ system.spool.sealed)
    (hfresh : ∀ row ∈ system.markers, row.spoolSegment ≠ segment.segmentId) :
    ∀ record ∈ system.segments, record.segment.segmentId ≠ segment.segmentId := by
  intro record hrecord hsame
  obtain ⟨index, hindex⟩ := List.mem_iff_getElem?.mp hrecord
  by_cases hingested : index ∈ system.ingested
  · obtain ⟨row, hrow, hname⟩ := h.marked index record hingested hindex
    exact hfresh row hrow (hname.trans hsame)
  · have hlookup := h.kept index record hindex hingested
    rw [hsame] at hlookup
    exact hfile (AList.lookup_isSome.mp (by rw [hlookup]; rfl))

theorem Tracked.sealed (h : system.Tracked) {topologyId : String} {segment : SealedSegment}
    (hseal : system.spool.toSeal topologyId = .ok (some segment))
    (hfresh : ∀ row ∈ system.markers, row.spoolSegment ≠ segment.segmentId) :
    Tracked { system.recordSealed (some segment) with spool := system.spool.withSealed segment } := by
  obtain ⟨hactive, hfile⟩ := SegmentedSpool.toSeal_eq_some hseal
  have hnew := h.identity_new hfile hfresh
  have hlines : segment.lines = String.join system.written := by
    rw [← h.active, hactive]
    rfl
  have hkept : ∀ (index : ℕ) record, system.segments[index]? = some record →
      (system.segments ++ [⟨segment, system.written⟩])[index]? = some record := by
    intro index record hrecord
    rwa [List.getElem?_append_left (List.getElem?_eq_some_iff.mp hrecord).1]
  have hindex : ∀ (index : ℕ) record,
      (system.segments ++ [⟨segment, system.written⟩])[index]? = some record →
      system.segments[index]? = some record ∨
        (index = system.segments.length ∧ record = ⟨segment, system.written⟩) := by
    intro index record hrecord
    rw [List.getElem?_append] at hrecord
    split at hrecord
    · exact .inl hrecord
    · rename_i hge
      obtain ⟨hlt, hlast⟩ := List.getElem?_eq_some_iff.mp hrecord
      rw [List.length_singleton, Nat.lt_one_iff] at hlt
      refine .inr ⟨by omega, ?_⟩
      exact List.mem_singleton.mp (List.mem_of_getElem? hrecord)
  refine
    { order := ?_, text := ?_, active := rfl, kept := ?_, files := ?_, identities := ?_,
      known := ?_, marked := ?_, ingested := ?_ }
  · show (system.segments ++ [_]).flatMap _ ++ [] = system.accepted
    rw [List.flatMap_append, List.append_nil, ← h.order]
    exact congrArg _ (List.append_nil _)
  · intro record hrecord
    rcases List.mem_append.mp hrecord with hold | hlast
    · exact h.text record hold
    · rw [List.mem_singleton.mp hlast]
      exact hlines
  · intro index record hrecord hingested
    show (system.spool.sealed.insert segment.segmentId segment.text).lookup _ = _
    rcases hindex index record hrecord with hold | ⟨-, rfl⟩
    · rw [AList.lookup_insert_ne (hnew record (List.mem_of_getElem? hold))]
      exact h.kept index record hold hingested
    · exact AList.lookup_insert ..
  · intro segmentId text hlookup
    change (system.spool.sealed.insert segment.segmentId segment.text).lookup _ = _ at hlookup
    by_cases hsame : segmentId = segment.segmentId
    · subst hsame
      rw [AList.lookup_insert, Option.some.injEq] at hlookup
      exact ⟨_, List.mem_append_right _ (List.mem_singleton_self _), rfl, hlookup⟩
    · rw [AList.lookup_insert_ne hsame] at hlookup
      obtain ⟨record, hrecord, hname⟩ := h.files segmentId text hlookup
      exact ⟨record, List.mem_append_left _ hrecord, hname⟩
  · show ((system.segments ++ [_]).map _).Nodup
    rw [List.map_append, List.nodup_append]
    refine ⟨h.identities, List.nodup_singleton _, ?_⟩
    intro name hname last hlast hsame
    obtain ⟨record, hrecord, rfl⟩ := List.mem_map.mp hname
    rw [List.map_singleton, List.mem_singleton] at hlast
    exact hnew record hrecord (hsame.trans hlast)
  · intro index hingested
    show index < (system.segments ++ [_]).length
    rw [List.length_append]
    exact Nat.lt_add_right _ (h.known index hingested)
  · intro index record hingested hrecord
    rcases hindex index record hrecord with hold | ⟨rfl, -⟩
    · exact h.marked index record hingested hold
    · exact absurd (h.known _ hingested) (Nat.lt_irrefl _)
  · intro row hrow
    obtain ⟨index, hingested, record, hrecord, hname⟩ := h.ingested row hrow
    exact ⟨index, hingested, record, hkept index record hrecord, hname⟩

/-- An accepted write goes to the end of the active file. -/
theorem Tracked.accepted (h : system.Tracked) (text : String) :
    Tracked { system.recordAccepted text with spool := system.spool.append text } :=
  { h with
    order := by
      rw [recordAccepted, ← List.append_assoc, h.order]
    active := by
      show system.spool.active.getD "" ++ text = String.join (system.written ++ [text])
      rw [h.active, String.join_append, String.join_cons, String.join_nil, String.append_empty] }

theorem Tracked.ingest (h : system.Tracked) (index : ℕ) : (system.ingest index).Tracked := by
  unfold SpoolSystem.ingest
  cases hrecord : system.segments[index]? with
  | none => exact h
  | some record =>
    refine { h with kept := ?_, known := ?_, marked := ?_, ingested := ?_ }
    · intro other record' hother hingested
      exact h.kept other record' hother fun hmem => hingested (List.mem_append_left _ hmem)
    · intro other hingested
      rcases List.mem_append.mp hingested with hold | hlast
      · exact h.known other hold
      · rw [List.mem_singleton.mp hlast]
        exact (List.getElem?_eq_some_iff.mp hrecord).1
    · intro other record' hingested hother
      rcases List.mem_append.mp hingested with hold | hlast
      · obtain ⟨row, hrow, hname⟩ := h.marked other record' hold hother
        exact ⟨row, List.mem_append_left _ hrow, hname⟩
      · obtain rfl := List.mem_singleton.mp hlast
        have hsame : record = record' := Option.some.inj (hrecord.symm.trans hother)
        exact ⟨_, List.mem_append_right _ (List.mem_singleton_self _), by rw [hsame]⟩
    · intro row hrow
      rcases List.mem_append.mp hrow with hold | hlast
      · obtain ⟨other, hingested, record', hother⟩ := h.ingested row hold
        exact ⟨other, List.mem_append_left _ hingested, record', hother⟩
      · obtain rfl := List.mem_singleton.mp hlast
        exact ⟨index, List.mem_append_right _ (List.mem_singleton_self _), record, hrecord, rfl⟩

/-- Only files of segments that were ingested are deleted. -/
theorem Tracked.deleteIngested (h : system.Tracked) (returned : Option (List ℕ)) :
    (system.deleteIngested returned).Tracked := by
  refine { h with kept := ?_, files := ?_ }
  · intro index record hrecord hingested
    show (system.spool.deleteIngestedSegments _).sealed.lookup _ = _
    rw [lookup_deleteIngestedSegments, if_neg]
    · exact h.kept index record hrecord hingested
    · -- a reported identity is that of an ingested segment
      intro hreported
      obtain ⟨row, hrow, hname⟩ := mem_queryIngestedSegments hreported
      have hmarker : row ∈ system.markers := by
        cases returned with
        | none => cases hrow
        | some indices =>
          obtain ⟨position, -, hposition⟩ := List.mem_filterMap.mp hrow
          exact List.mem_of_getElem? hposition
      obtain ⟨other, hother, record', hrecord', hname'⟩ := h.ingested row hmarker
      have hsame : index = other := h.index_eq hrecord hrecord' (hname.symm.trans hname')
      exact hingested (hsame ▸ hother)
  · intro segmentId text hlookup
    change (system.spool.deleteIngestedSegments _).sealed.lookup _ = _ at hlookup
    rw [lookup_deleteIngestedSegments] at hlookup
    split at hlookup
    · cases hlookup
    · exact h.files segmentId text hlookup

theorem Tracked.rotated (h : system.Tracked) {topologyId : String} {maxBytes : ℤ}
    {spool : SegmentedSpool} {sealed : Option SealedSegment}
    (hrotate : system.spool.rotateActiveSegment topologyId maxBytes = .ok (spool, sealed))
    (hfresh : ∀ segment ∈ sealed, ∀ row ∈ system.markers, row.spoolSegment ≠ segment.segmentId) :
    Tracked { system.recordSealed sealed with spool } := by
  obtain ⟨-, rfl, rfl⟩ | ⟨segment, hseal, -, rfl, rfl⟩ :=
    SegmentedSpool.rotateActiveSegment_cases hrotate
  · exact h
  · exact h.sealed hseal (hfresh segment rfl)

/-- A write keeps the invariant, whether it seals a segment before or not. -/
theorem Tracked.write (h : system.Tracked) {lines : List String} {maxBytes segmentBytes : ℤ}
    {topologyId : String}
    (hfresh : system.FreshIdentity (.write lines maxBytes segmentBytes topologyId)) :
    (system.write lines maxBytes segmentBytes topologyId).Tracked := by
  have hcases := system.spool.writeSegmentedLines_cases lines maxBytes segmentBytes topologyId
  unfold FreshIdentity sealedBy at hfresh
  dsimp only at hfresh
  unfold SpoolSystem.write
  obtain ⟨error, hresult, -⟩ | ⟨-, ⟨-, hresult⟩ | ⟨rotated, sealed, -, hrotate, hresult⟩⟩ := hcases
  · rw [hresult]
    exact h.ensureSpoolFile
  · rw [hresult]
    exact h.ensureSpoolFile.accepted (rendered lines)
  · rw [hresult] at hfresh ⊢
    have hrotated := h.ensureSpoolFile.rotated hrotate hfresh
    have haccepted := hrotated.accepted (rendered lines)
    cases sealed with
    | none => exact haccepted
    | some segment => exact haccepted

theorem Tracked.rotate (h : system.Tracked) {topologyId : String} {maxBytes : ℤ}
    (hfresh : system.FreshIdentity (.rotate topologyId maxBytes)) :
    (system.rotate topologyId maxBytes).Tracked := by
  unfold FreshIdentity sealedBy at hfresh
  dsimp only at hfresh
  unfold SpoolSystem.rotate
  cases hrotate : system.spool.rotateActiveSegment topologyId maxBytes with
  | error error => exact h
  | ok rotated =>
    obtain ⟨spool, sealed⟩ := rotated
    rw [hrotate] at hfresh
    exact h.rotated hrotate hfresh

/-- The step lemma: every event keeps the invariant, if the segment that it seals has a fresh
identity. -/
theorem Tracked.step (event : SystemEvent) (h : system.Tracked)
    (hfresh : system.FreshIdentity event) : (system.step event).Tracked := by
  cases event with
  | write lines maxBytes segmentBytes topologyId => exact h.write hfresh
  | rotate topologyId maxBytes => exact h.rotate hfresh
  | ingest index => exact h.ingest index
  | deleteIngested returned => exact h.deleteIngested returned

end SpoolSystem

/-- A refused write leaves the telemetry of the spool as it is. -/
def RefusalsKeep (spool : SegmentedSpool) : Prop :=
  ∀ lines maxBytes segmentBytes topologyId spool' error,
    spool.writeSegmentedLines lines maxBytes segmentBytes topologyId = (spool', .error error) →
    spool'.active.getD "" = spool.active.getD "" ∧ spool'.sealed = spool.sealed

/-- A refusal comes before anything is written. -/
theorem refusalsKeep (spool : SegmentedSpool) : RefusalsKeep spool := by
  intro lines maxBytes segmentBytes topologyId spool' error hrefused
  have hcases := spool.writeSegmentedLines_cases lines maxBytes segmentBytes topologyId
  rw [hrefused] at hcases
  obtain ⟨_, hresult, -⟩ | ⟨-, ⟨-, hresult⟩ | ⟨_, _, -, -, hresult⟩⟩ := hcases
  · cases hresult
    exact ⟨rfl, rfl⟩
  · cases hresult
  · cases hresult

/-- As long as no segment is sealed under an identity that was ingested, every accepted write is
delivered, and a refused one changes nothing. -/
theorem telemetry_delivered (outputFile : String) (events : List SystemEvent)
    (h : Run.Meets SpoolSystem.step SpoolSystem.FreshIdentity (.start outputFile) events) :
    (SpoolSystem.run outputFile events).Delivered ∧
      RefusalsKeep (SpoolSystem.run outputFile events).spool := by
  have hstep : ∀ system event, SpoolSystem.Tracked system → system.FreshIdentity event →
      (system.step event).Tracked := fun _ event => SpoolSystem.Tracked.step event
  have htracked := Run.invariant hstep (SpoolSystem.tracked_start outputFile) h
  exact ⟨htracked.toDelivered, refusalsKeep _⟩

/-! ### The same timestamp twice -/

/-- A heartbeat, sealed and ingested; the query returns its marker. -/
def deliveredOnce : List SystemEvent :=
  [.write [heartbeatLine 100] 1024 64 "runtime-xs", .rotate "runtime-xs" 1024, .ingest 0,
    .deleteIngested (some [0])]

theorem deliveredOnce_delivered : (SpoolSystem.run "bgp_neighbors.lp" deliveredOnce).Delivered := by
  refine (telemetry_delivered _ _ ?_).1
  refine ⟨?_, ?_, ?_, ?_, trivial⟩ <;> intro segment hsealed row hrow
  case refine_4 => cases hsealed
  all_goals cases hrow

/-- Another line with the same timestamp goes into a segment of the same identity, and the query
still returns the marker of the first. -/
def sealedAgain : List SystemEvent :=
  deliveredOnce ++ [.write [heartbeatLine 100] 1024 64 "runtime-xs", .rotate "runtime-xs" 1024,
    .deleteIngested (some [0])]

theorem sealedAgain_not_delivered :
    ¬ (SpoolSystem.run "bgp_neighbors.lp" sealedAgain).Delivered := by
  intro h
  have hrecord : ((SpoolSystem.run "bgp_neighbors.lp" sealedAgain).segments[1]?.map
      (·.segment.segmentId)) = some "100-0" := by decide +kernel
  obtain ⟨record, hindex, hname⟩ := Option.map_eq_some_iff.mp hrecord
  have hkept := h.kept 1 record hindex (by decide +kernel)
  rw [hname] at hkept
  have hlost : (SpoolSystem.run "bgp_neighbors.lp" sealedAgain).spool.sealed.lookup "100-0" =
      none := by decide +kernel
  rw [hlost] at hkept
  cases hkept

end NetOpsBench.Bgp
