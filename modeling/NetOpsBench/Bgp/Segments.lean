import NetOpsBench.Data.Dict
import NetOpsBench.Data.Python

/-!
# The files of the spool

A collector appends its lines to an active file. A write that would make the file too long first
seals it: a marker line goes to its end, and the file is renamed to the identity that the marker
carries. A sealed segment is deleted once its identity comes back from the database.

`writeSegmentedLines_cases` and `rotateActiveSegment_cases` say once what a write and a rotation can do;
the results on the limit and on the delivery of the lines are derived from these two.
-/

namespace NetOpsBench.Bgp

/-! ## Timestamps of lines -/

/-- The timestamp at the end of a line: the match of `\s(\d+)\s*$`. -/
def lineTimestamp (line : List Char) : Option ℕ :=
  let body := line.reverse.dropWhile Python.isSpace
  let digits := body.takeWhile fun c => (Python.decimal? c).isSome
  match digits, body.drop digits.length with
  | _ :: _, before :: _ =>
    if Python.isSpace before then some (Python.decimalValue digits.reverse) else none
  | _, _ => none

/-- The lines of a text; those that end in `\r\n` leave an empty one behind. -/
def textLines (text : String) : List (List Char) :=
  text.toList.splitOnP fun c => c = '\n' ∨ c = '\r'

def fileMaxTimestamp (text : String) : Option ℕ :=
  ((textLines text).filterMap lineTimestamp).max?

/-! ## Files -/

/-- The files of a collector by their texts. A sealed file goes by the identity in its name. -/
structure SegmentedSpool where
  outputFile : String
  active : Option String
  sealed : Dict String String

inductive SpoolError where
  | runtimeError (message : String)
  | bufferError (message : String)
deriving DecidableEq

/-- An active file as it is sealed. -/
structure SealedSegment where
  segmentId : String
  timestamp : ℕ
  lines : String
  marker : String

def SealedSegment.text (segment : SealedSegment) : String := segment.lines ++ segment.marker

def escapeTag (value : String) : String :=
  .ofList (value.toList.flatMap fun c => if c ∈ ['\\', ',', ' ', '='] then ['\\', c] else [c])

def segmentName (timestamp sequence : ℕ) : String := s!"{timestamp}-{sequence}"

def spoolMarker (segmentId topologyId : String) (timestamp : ℕ) : String :=
  let markerTags := ["source=__spool__", s!"spool_segment={segmentId}"] ++
    if topologyId = "" then [] else [s!"topology_id={escapeTag topologyId}"]
  let tags := ",".intercalate markerTags
  s!"bgp_event_index,{tags} schema_version=1i {timestamp}\n"

namespace SegmentedSpool

def size (spool : SegmentedSpool) : ℕ :=
  (spool.active.elim 0 (·.utf8ByteSize)) + (spool.sealed.entries.map (·.2.utf8ByteSize)).sum

def ensureSpoolFile (spool : SegmentedSpool) : SegmentedSpool :=
  { spool with active := some (spool.active.getD "") }

/-- The first sequence number whose file does not exist. -/
def freeSequence (spool : SegmentedSpool) (timestamp : ℕ) : ℕ :=
  ((List.range (spool.sealed.entries.length + 1)).find? fun sequence =>
    segmentName timestamp sequence ∉ spool.sealed).getD 0

/-- What a rotation would seal; an empty file is left alone. -/
def toSeal (spool : SegmentedSpool) (topologyId : String) :
    Except SpoolError (Option SealedSegment) :=
  match spool.active.filter (· ≠ "") with
  | none => .ok none
  | some lines =>
    match fileMaxTimestamp lines with
    | none =>
      .error (.runtimeError
        s!"BGP spool contains a line without a timestamp: {spool.outputFile}")
    | some timestamp =>
      let segmentId := segmentName timestamp (spool.freeSequence timestamp)
      .ok (some
        { segmentId, timestamp, lines, marker := spoolMarker segmentId topologyId timestamp })

/-- The marker goes to the end of the active file, which is then renamed. -/
def withSealed (spool : SegmentedSpool) (segment : SealedSegment) : SegmentedSpool :=
  { spool with
    active := some ""
    sealed := spool.sealed.insert segment.segmentId segment.text }

/-- Also returns the segment that it has sealed. -/
def rotateActiveSegment (spool : SegmentedSpool) (topologyId : String) (maxBytes : ℤ) :
    Except SpoolError (SegmentedSpool × Option SealedSegment) :=
  match spool.toSeal topologyId with
  | .error error => .error error
  | .ok none => .ok (spool, none)
  | .ok (some segment) =>
    if maxBytes > 0 ∧ (spool.size + segment.marker.utf8ByteSize : ℕ) > maxBytes then
      .error (.bufferError (s!"BGP spool limit reached for {spool.outputFile} while sealing a " ++
        "segment; refusing to overwrite unconsumed telemetry"))
    else
      .ok (spool.withSealed segment, some segment)

end SegmentedSpool

/-- `"\n".join(lines)`, with a last line break unless the text is empty. -/
def rendered (lines : List String) : String :=
  let text := "\n".intercalate lines
  if text = "" then "" else text ++ "\n"

namespace SegmentedSpool

/-- A write of some bytes would make the active file longer than a segment may get. -/
def Overfills (spool : SegmentedSpool) (bytes : ℕ) (segmentBytes : ℤ) : Prop :=
  segmentBytes > 0 ∧ ∃ lines ∈ spool.active, lines.utf8ByteSize > 0 ∧
    (lines.utf8ByteSize + bytes : ℕ) > segmentBytes

instance (spool : SegmentedSpool) (bytes : ℕ) (segmentBytes : ℤ) :
    Decidable (spool.Overfills bytes segmentBytes) :=
  decidable_of_iff (segmentBytes > 0 ∧ spool.active.any fun lines =>
      lines.utf8ByteSize > 0 ∧ (lines.utf8ByteSize + bytes : ℕ) > segmentBytes) <| by
    simp [Overfills, Option.any_eq_true]

def append (spool : SegmentedSpool) (text : String) : SegmentedSpool :=
  { spool with active := some (spool.active.getD "" ++ text) }

def writeSegmentedLines (spool : SegmentedSpool) (lines : List String)
    (maxBytes segmentBytes : ℤ) (topologyId : String) :
    SegmentedSpool × Except SpoolError (Option SealedSegment) :=
  let spool := spool.ensureSpoolFile
  let text := rendered lines
  if maxBytes > 0 ∧ (spool.size + text.utf8ByteSize : ℕ) > maxBytes then
    (spool, .error (.bufferError (s!"BGP spool limit reached for {spool.outputFile}: " ++
      s!"current={spool.size} limit={maxBytes}; refusing to overwrite unconsumed telemetry")))
  else
    if spool.Overfills text.utf8ByteSize segmentBytes then
      match spool.rotateActiveSegment topologyId maxBytes with
      | .ok (rotated, segment) => (rotated.append text, .ok segment)
      | .error error => (spool, .error error)
    else
      (spool.append text, .ok none)

def deleteIngestedSegments (spool : SegmentedSpool) (ingestedSegments : List String) :
    SegmentedSpool :=
  { spool with
    sealed := spool.sealed.filterMap fun segmentId text =>
      if segmentId ∈ ingestedSegments then none else some text }

end SegmentedSpool

/-! ## What a rotation and a write do -/

/-- Segments of one timestamp are told apart by their sequence numbers. -/
theorem segmentName_injective (timestamp : ℕ) : Function.Injective (segmentName timestamp) := by
  intro first second h
  have htext := congrArg String.toList h
  simp only [segmentName, String.toList_append] at htext
  exact Nat.repr_inj.mp (String.toList_inj.mp (List.append_cancel_left htext))

namespace SegmentedSpool
variable {spool spool' : SegmentedSpool} {topologyId : String} {maxBytes : ℤ}

/-- The file of the sequence number that is chosen does not exist. -/
theorem freeSequence_not_mem (spool : SegmentedSpool) (timestamp : ℕ) :
    segmentName timestamp (spool.freeSequence timestamp) ∉ spool.sealed := by
  have hfree : ((List.range (spool.sealed.entries.length + 1)).find? fun sequence =>
      segmentName timestamp sequence ∉ spool.sealed).isSome := by
    rw [List.find?_isSome]
    by_contra hnone
    push Not at hnone
    have hsub : (List.range (spool.sealed.entries.length + 1)).map (segmentName timestamp) ⊆
        spool.sealed.keys := by
      intro name hname
      obtain ⟨sequence, hmem, rfl⟩ := List.mem_map.mp hname
      have htaken := hnone sequence hmem
      rw [ne_eq, decide_eq_true_eq, not_not] at htaken
      exact htaken
    have hnodup : ((List.range (spool.sealed.entries.length + 1)).map
        (segmentName timestamp)).Nodup :=
      List.nodup_range.map (segmentName_injective timestamp)
    have hlength := hnodup.length_le_of_subset hsub
    simp [AList.keys, List.keys] at hlength
  obtain ⟨sequence, hsequence⟩ := Option.isSome_iff_exists.mp hfree
  rw [freeSequence, hsequence, Option.getD_some]
  have hfound := List.find?_some hsequence
  rwa [decide_eq_true_eq] at hfound

/-- A segment that is sealed takes the whole active file, and the place of no other file. -/
theorem toSeal_eq_some {segment : SealedSegment}
    (h : spool.toSeal topologyId = .ok (some segment)) :
    spool.active = some segment.lines ∧ segment.segmentId ∉ spool.sealed := by
  unfold toSeal at h
  split at h
  · cases h
  · rename_i lines hactive
    split at h
    · cases h
    · rename_i timestamp _
      cases h
      exact ⟨(Option.filter_eq_some_iff.mp hactive).1, spool.freeSequence_not_mem timestamp⟩

/-- A rotation leaves the spool as it is, or seals its active file with a marker that fits. -/
theorem rotateActiveSegment_cases {sealed : Option SealedSegment}
    (h : spool.rotateActiveSegment topologyId maxBytes = .ok (spool', sealed)) :
    (spool.toSeal topologyId = .ok none ∧ spool' = spool ∧ sealed = none) ∨
    ∃ segment, spool.toSeal topologyId = .ok (some segment) ∧
      (maxBytes > 0 → (spool.size + segment.marker.utf8ByteSize : ℕ) ≤ maxBytes) ∧
      spool' = spool.withSealed segment ∧ sealed = some segment := by
  unfold rotateActiveSegment at h
  split at h
  · cases h
  · rename_i hseal
    cases h
    exact .inl ⟨hseal, rfl, rfl⟩
  · rename_i segment hseal
    split at h
    · cases h
    · rename_i hfits
      cases h
      exact .inr ⟨segment, hseal, fun hpos => not_lt.mp fun hlt => hfits ⟨hpos, hlt⟩, rfl, rfl⟩

/-- A rotation fails only when the marker does not fit. -/
theorem rotateActiveSegment_error {error : SpoolError} {segment : SealedSegment}
    (h : spool.rotateActiveSegment topologyId maxBytes = .error error)
    (hseal : spool.toSeal topologyId = .ok (some segment)) :
    (spool.size + segment.marker.utf8ByteSize : ℕ) > maxBytes := by
  unfold rotateActiveSegment at h
  rw [hseal] at h
  dsimp only at h
  split at h
  · rename_i hfull
    exact hfull.2
  · cases h

/-- A write is refused and leaves the files as they are, or its lines go to the end of the active
file; before that the file may be sealed. -/
theorem writeSegmentedLines_cases (spool : SegmentedSpool) (lines : List String)
    (maxBytes segmentBytes : ℤ) (topologyId : String) :
    let result := spool.writeSegmentedLines lines maxBytes segmentBytes topologyId
    (∃ error, result = (spool.ensureSpoolFile, .error error) ∧
      ((spool.ensureSpoolFile.size + (rendered lines).utf8ByteSize : ℕ) > maxBytes ∨
        spool.ensureSpoolFile.rotateActiveSegment topologyId maxBytes = .error error)) ∨
    ((maxBytes > 0 →
        (spool.ensureSpoolFile.size + (rendered lines).utf8ByteSize : ℕ) ≤ maxBytes) ∧
      ((¬ spool.ensureSpoolFile.Overfills (rendered lines).utf8ByteSize segmentBytes ∧
        result = (spool.ensureSpoolFile.append (rendered lines), .ok none)) ∨
      ∃ rotated sealed, spool.ensureSpoolFile.Overfills (rendered lines).utf8ByteSize segmentBytes ∧
        spool.ensureSpoolFile.rotateActiveSegment topologyId maxBytes = .ok (rotated, sealed) ∧
        result = (rotated.append (rendered lines), .ok sealed))) := by
  intro result
  by_cases hfull : maxBytes > 0 ∧
      (spool.ensureSpoolFile.size + (rendered lines).utf8ByteSize : ℕ) > maxBytes
  · exact .inl ⟨_, if_pos hfull, .inl hfull.2⟩
  · have hfits : maxBytes > 0 →
        (spool.ensureSpoolFile.size + (rendered lines).utf8ByteSize : ℕ) ≤ maxBytes :=
      fun hpos => not_lt.mp fun hlt => hfull ⟨hpos, hlt⟩
    have hresult : result = _ := if_neg hfull
    by_cases hover : spool.ensureSpoolFile.Overfills (rendered lines).utf8ByteSize segmentBytes
    · rw [if_pos hover] at hresult
      cases hrotate : spool.ensureSpoolFile.rotateActiveSegment topologyId maxBytes with
      | error error =>
        rw [hrotate] at hresult
        exact .inl ⟨error, hresult, .inr rfl⟩
      | ok rotated =>
        rw [hrotate] at hresult
        exact .inr ⟨hfits, .inr ⟨rotated.1, rotated.2, hover, rfl, hresult⟩⟩
    · rw [if_neg hover] at hresult
      exact .inr ⟨hfits, .inl ⟨hover, hresult⟩⟩

end SegmentedSpool

/-! ## Ingested segments -/

/-- A row of the query for markers: `time` is in nanoseconds, where it reads as a UTC time. -/
structure MarkerRow where
  spoolSegment : String
  time : Option ℕ

/-- The first number of a text that matches `(\d+)-\d+`. -/
def segmentTimestamp (segmentId : String) : Option ℕ :=
  let isDecimal c := (Python.decimal? c).isSome
  let first := segmentId.toList.takeWhile isDecimal
  match first, segmentId.toList.drop first.length with
  | _ :: _, '-' :: second =>
    if second ≠ [] ∧ second.all isDecimal then some (Python.decimalValue first) else none
  | _, _ => none

/-- The identities among the rows of the query, if it succeeds. -/
def queryIngestedSegments (rows : Option (List MarkerRow)) : List String :=
  (rows.getD []).filterMap fun row => do
    let timestamp ← segmentTimestamp row.spoolSegment
    let ingestedAt ← row.time
    if ingestedAt ≥ timestamp then some row.spoolSegment else none

end NetOpsBench.Bgp
