import NetOpsBench.Incident.Compaction
import NetOpsBench.Incident.Session

/-!
# The tools as an agent sees them

The gateway turns what a session observed back into a result, and takes a result without the flag for
a success. The flag comes last in a compacted payload, so it depends on the size of the rest whether
a failure is still one.

`flag_survives` is the main result. `FlagKept` says when a failure stays one in terms of the payload and
the budget, by the sizes that data and error are cut to (`Payload.cutSize`, `Payload.Roomy`). It is enough
for every payload, and necessary when neither data nor error is a list or an object
(`fits_iff_of_not_container`). `quotedFailure_not_kept` is a failure whose error is cut to a text of
quotes, and which the agent takes for a success.
-/

namespace NetOpsBench.Incident

open Simulator (Raised)

/-- `error` is a text or missing, until it is compacted. -/
structure ToolResult where
  success : Bool
  data : Payload := .null
  error : Payload := .null

def ToolResult.toDict (result : ToolResult) : Payload :=
  .obj [("success", .bool result.success), ("data", result.data), ("error", result.error)]

namespace Payload

/-- `value.get(key)` -/
def get? : Payload → String → Option Payload
  | obj entries, key => entries.lookup key
  | _, _ => none

/-- `bool(value)` -/
def truthy : Payload → Bool
  | null => false
  | bool value => value
  | int value => value ≠ 0
  | float literal => literal ≠ "0.0" ∧ literal ≠ "-0.0"
  | str value => value ≠ ""
  | arr items => !items.isEmpty
  | obj entries => !entries.isEmpty

end Payload

/-- What the gateway reads from the result in an observation. -/
def readResult (payload : Payload) : ToolResult :=
  match payload.get? "success", payload.get? "data" with
  | some success, some data =>
    { success := success.truthy, data, error := (payload.get? "error").getD .null }
  | _, _ => { success := true, data := payload }

def SessionTransition.toolResult (transition : SessionTransition) : ToolResult :=
  match transition.failure with
  | some failure => { success := false, error := .str failure.message }
  | none => readResult ((transition.observation.get? "result").getD .null)

/-- A call through the `SessionToolGateway` of a session. -/
def SessionRun.gatewayCall (run : SessionRun) (now : ℚ) (action : ToolAction) (valid : Bool)
    (tool : Except Raised Payload) : SessionRun × Except Raised ToolResult :=
  let (run, transition) := run.callTool now action valid tool
  (run, transition.map (·.toolResult))

/-! ## The members of a result -/

open Payload

namespace ToolResult

variable (original budget : ℕ) (result : ToolResult)

def compactedData : Payload := result.data.compactWithin original (remaining budget 2)

def compactedError : Payload :=
  result.error.compactWithin original
    (remaining budget (obj [("data", result.compactedData original budget)]).jsonSize)

/-- What is left of a result with its last members dropped. -/
def partly (count : ℕ) : List (String × Payload) :=
  [("data", result.compactedData original budget),
    ("error", result.compactedError original budget), ("success", .bool result.success)].take count

def candidate (count : ℕ) : Payload :=
  .obj (result.partly original budget count ++ [("_truncation", omission original (3 - count))])

theorem assign_truncation {count : ℕ} (hcount : count ≤ 3) :
    .obj (assign (result.partly original budget count) "_truncation"
      (omission original (3 - count))) = result.candidate original budget count := by
  interval_cases count <;> simp [assign, partly, candidate]

theorem compactMembers_cons {count : ℕ} (hcount : count < 3) {key : String}
    {child : ℕ → Payload} {rest : List (String × (ℕ → Payload))} (hrest : rest.length = 2 - count)
    (h : assign (result.partly original budget count) key
      (child (remaining budget (obj (result.partly original budget count)).jsonSize)) =
        result.partly original budget (count + 1)) :
    compactMembers original budget ((key, child) :: rest) (result.partly original budget count) =
      if (result.candidate original budget (count + 1)).jsonSize > budget then
        result.partly original budget count
      else compactMembers original budget rest (result.partly original budget (count + 1)) := by
  have hlength : rest.length = 3 - (count + 1) := by omega
  rw [compactMembers]
  simp only [h, hlength, assign_truncation original budget result hcount]

/-- The members come in the order of their names, each as long as it fits with those before. -/
theorem compactWithin_toDict : result.toDict.compactWithin original budget =
    result.candidate original budget
      (if (result.candidate original budget 1).jsonSize > budget then 0
      else if (result.candidate original budget 2).jsonSize > budget then 1
      else if (result.candidate original budget 3).jsonSize > budget then 2 else 3) := by
  have hsort (success data error : ℕ → Payload) :
      List.insertionSort (fun (a b : String × (ℕ → Payload)) => a.1 ≤ b.1)
        [("success", success), ("data", data), ("error", error)] =
        [("data", data), ("error", error), ("success", success)] := by
    simp [List.insertionSort]
  have hfirst : assign (result.partly original budget 0) "data"
      (result.data.compactWithin original
        (remaining budget (obj (result.partly original budget 0)).jsonSize)) =
          result.partly original budget 1 := by
    show assign [] "data" (result.data.compactWithin original
      (remaining budget (obj []).jsonSize)) = _
    rw [jsonSize_obj_nil]
    rfl
  have hsecond : assign (result.partly original budget 1) "error"
      (result.error.compactWithin original
        (remaining budget (obj (result.partly original budget 1)).jsonSize)) =
          result.partly original budget 2 := by
    simp [assign, partly, compactedError]
  have hthird : assign (result.partly original budget 2) "success"
      ((Payload.bool result.success).compactWithin original
        (remaining budget (obj (result.partly original budget 2)).jsonSize)) =
          result.partly original budget 3 := by
    simp [assign, partly, compactWithin]
  unfold toDict
  rw [compactWithin, compactEntries_eq]
  simp only [List.map_cons, List.map_nil, hsort]
  have hnil : ([] : List (String × Payload)) = result.partly original budget 0 := rfl
  rw [hnil, compactMembers_cons original budget result (by omega) rfl hfirst,
    compactMembers_cons original budget result (by omega) rfl hsecond,
    compactMembers_cons original budget result (by omega) rfl hthird, compactMembers]
  split_ifs
  all_goals exact assign_truncation original budget result (by omega)

/-- The size of what is left of a result with its last members dropped. -/
theorem jsonSize_candidate {count : ℕ} (hcount : count ≤ 3) :
    (result.candidate original budget count).jsonSize =
      ((result.partly original budget count).map entrySize).sum +
        entrySize ("_truncation", omission original 0) + count + 2 := by
  have hdigit : (int (3 - count : ℕ)).jsonSize = (int (0 : ℕ)).jsonSize := by
    interval_cases count <;> decide +kernel
  have hne : result.partly original budget count ++
      [("_truncation", omission original (3 - count))] ≠ [] :=
    List.append_ne_nil_of_right_ne_nil _ nofun
  have hlength : (result.partly original budget count).length = count := by
    interval_cases count <;> rfl
  unfold candidate
  rw [jsonSize_obj hne, List.map_append, List.sum_append, List.length_append, hlength]
  simp only [List.map_cons, List.map_nil, List.sum_cons, List.sum_nil, List.length_singleton,
    entrySize, jsonSize_omission, hdigit]
  omega

/-- One more member makes a result no smaller. -/
theorem candidate_le_succ {count : ℕ} (hcount : count < 3) :
    (result.candidate original budget count).jsonSize ≤
      (result.candidate original budget (count + 1)).jsonSize := by
  rw [jsonSize_candidate original budget result hcount.le,
    jsonSize_candidate original budget result (by omega : count + 1 ≤ 3)]
  have hsum : ((result.partly original budget count).map entrySize).sum ≤
      ((result.partly original budget (count + 1)).map entrySize).sum := by
    unfold partly
    rw [List.take_add_one, List.map_append, List.sum_append]
    exact Nat.le_add_right ..
  omega

/-- Whether all members of the result fit into the budget, each compacted. -/
def Fits : Prop := (result.candidate original budget 3).jsonSize ≤ budget

instance : Decidable (result.Fits original budget) := inferInstanceAs (Decidable (_ ≤ _))

/-- A result that fits is compacted member by member. -/
theorem compactWithin_of_fits {original budget : ℕ} {result : ToolResult}
    (h : result.Fits original budget) :
    result.toDict.compactWithin original budget = result.candidate original budget 3 := by
  have hthird : (result.candidate original budget 3).jsonSize ≤ budget := h
  have hsecond := (candidate_le_succ original budget result (by decide : 2 < 3)).trans hthird
  have hfirst := (candidate_le_succ original budget result (by decide : 1 < 3)).trans hsecond
  rw [compactWithin_toDict, if_neg (Nat.not_lt.mpr hfirst), if_neg (Nat.not_lt.mpr hsecond),
    if_neg (Nat.not_lt.mpr hthird)]

/-- The flag is the first member to go. -/
theorem compactWithin_of_not_fits {original budget : ℕ} {result : ToolResult}
    (h : ¬ result.Fits original budget) :
    (result.toDict.compactWithin original budget).get? "success" = none := by
  have hthird : (result.candidate original budget 3).jsonSize > budget := Nat.not_le.mp h
  have hget (count : ℕ) (hcount : count < 3) :
      (result.candidate original budget count).get? "success" = none := by
    interval_cases count <;> rfl
  rw [compactWithin_toDict, if_pos hthird]
  split_ifs <;> exact hget _ (by decide)

end ToolResult

/-! ## The observation -/

/-- What a session observes of a call that the backend answered, in full. -/
def observationOf (name : String) (result : Payload) : Payload :=
  .obj [("tool", .str name), ("result", result)]

/-- Whether a compacted result fits into the observation. -/
def ResultFits (original maxBytes : ℕ) (result : Payload) : Prop :=
  (obj [("result", result), ("_truncation", omission original 1)]).jsonSize ≤ maxBytes

instance (original maxBytes : ℕ) (result : Payload) :
    Decidable (ResultFits original maxBytes result) := inferInstanceAs (Decidable (_ ≤ _))

/-- What an observation leaves for the result in it. -/
theorem remaining_eq {maxBytes : ℕ} (h : 1024 ≤ maxBytes) :
    remaining maxBytes 2 = maxBytes - 258 := by
  unfold remaining
  omega

/-- The result in the compacted observation, if it is there. -/
theorem get?_compactJson {name : String} {result : Payload} {maxBytes : ℕ}
    (hmax : 1024 ≤ maxBytes) (hsize : maxBytes < (observationOf name result).jsonSize) :
    (compactJson (observationOf name result) maxBytes).get? "result" =
      if ResultFits (observationOf name result).jsonSize maxBytes
          (result.compactWithin (observationOf name result).jsonSize (maxBytes - 258)) then
        some (result.compactWithin (observationOf name result).jsonSize (maxBytes - 258))
      else none := by
  unfold compactJson
  dsimp only
  rw [if_neg (Nat.not_le.mpr hsize)]
  generalize (observationOf name result).jsonSize = original
  have hsort (tool result : ℕ → Payload) :
      List.insertionSort (fun (a b : String × (ℕ → Payload)) => a.1 ≤ b.1)
        [("tool", tool), ("result", result)] = [("result", result), ("tool", tool)] := by
    simp [List.insertionSort]
  unfold observationOf
  rw [compactWithin, compactEntries_eq]
  simp only [List.map_cons, List.map_nil, hsort]
  rw [compactMembers]
  simp only [jsonSize_obj_nil, remaining_eq hmax]
  generalize result.compactWithin original (maxBytes - 258) = compacted
  have hfirst : assign (assign [] "result" compacted) "_truncation" (omission original 1) =
      [("result", compacted), ("_truncation", omission original 1)] := by simp [assign]
  have hempty : assign [] "_truncation" (omission original 2) =
      [("_truncation", omission original 2)] := by simp [assign]
  simp only [List.length_cons, List.length_nil, Nat.zero_add, Nat.reduceAdd, hfirst]
  by_cases hresult : ResultFits original maxBytes compacted
  · rw [if_pos hresult, if_neg (Nat.not_lt.mpr hresult), compactMembers]
    have houtput : assign [] "result" compacted = [("result", compacted)] := by simp [assign]
    have hsecond (tool : Payload) : assign (assign [("result", compacted)] "tool" tool) "_truncation"
        (omission original 0) =
          [("result", compacted), ("tool", tool), ("_truncation", omission original 0)] := by
      simp [assign]
    simp only [houtput, List.length_nil, hsecond]
    generalize (Payload.str name).compactWithin original _ = tool
    by_cases hboth : (obj [("result", compacted), ("tool", tool),
        ("_truncation", omission original 0)]).jsonSize > maxBytes
    · have halone : assign [("result", compacted)] "_truncation" (omission original 1) =
          [("result", compacted), ("_truncation", omission original 1)] := by simp [assign]
      simp only [if_pos hboth, List.length_singleton, Nat.reduceSub, halone]
      have hfits : (obj [("result", compacted), ("_truncation", omission original 1)]).jsonSize ≤
        maxBytes := hresult
      rw [if_pos hfits]
      rfl
    · rw [if_neg hboth, compactMembers]
      have hlength : (assign [("result", compacted)] "tool" tool).length = 2 := by simp [assign]
      rw [hlength, Nat.sub_self, hsecond, if_pos (Nat.not_lt.mp hboth)]
      rfl
  · rw [if_neg hresult, if_pos (Nat.not_le.mp hresult)]
    simp only [List.length_nil, Nat.sub_zero, hempty]
    split <;> rfl

theorem compactJson_obj (entries : List (String × Payload)) (maxBytes : ℕ) :
    ∃ compacted, compactJson (.obj entries) maxBytes = .obj compacted := by
  unfold compactJson
  dsimp only
  split
  · exact ⟨entries, rfl⟩
  · split
    · rw [compactWithin]
      exact ⟨_, rfl⟩
    · exact ⟨_, rfl⟩

/-- What a session observes is the compacted observation. -/
theorem boundedToolObservation_eq (session : DiagnosticSession) (name : String)
    (result : Payload) : session.boundedToolObservation [("tool", .str name), ("result", result)] =
      compactJson (observationOf name result) session.config.maxToolResultBytes := by
  obtain ⟨compacted, hcompacted⟩ :=
    compactJson_obj [("tool", .str name), ("result", result)] session.config.maxToolResultBytes
  unfold DiagnosticSession.boundedToolObservation
  rw [observationOf, hcompacted]

/-! ## What is left of a value -/

namespace Payload

/-- The bytes that a value other than a list or an object takes when it is compacted within some
room. Of a text the first characters stay, escaped as JSON has them, beside its length. -/
def cutSize (room : ℕ) : Payload → ℕ
  | str value =>
    (str (.ofList (takeBytes (room - 160) value.toList))).jsonSize + (int value.length).jsonSize + 38
  | other => other.jsonSize

/-- A value keeps to its room. A list or an object always does, another value when it is short, and
a text when few of the characters that stay are escaped. -/
def Roomy (room : ℕ) (value : Payload) : Prop := value.Container ∨ value.cutSize room ≤ room

/-- The size of a compacted value that is no container can be told beforehand. -/
theorem jsonSize_compactWithin {value : Payload} (h : ¬ value.Container) (original room : ℕ) :
    (value.compactWithin original room).jsonSize = value.cutSize room := by
  cases value with
  | arr items => exact absurd (.arr items) h
  | obj entries => exact absurd (.obj entries) h
  | str value =>
    have hkeys : (Json.quote "_truncated_text").utf8ByteSize = 17 ∧
        (Json.quote "original_chars").utf8ByteSize = 16 := by decide +kernel
    rw [compactWithin, jsonSize_obj_cons, cutSize]
    simp only [List.map_cons, List.map_nil, List.sum_cons, List.sum_nil, List.length_cons,
      List.length_nil, entrySize]
    omega
  | _ => rfl

theorem Roomy.jsonSize_le {value : Payload} {original room : ℕ} (h : value.Roomy room)
    (hroom : 128 ≤ room) (horiginal : original < 2 ^ 63) (hsize : value.jsonSize < 2 ^ 63)
    (hdistinct : value.DistinctKeys) : (value.compactWithin original room).jsonSize ≤ room := by
  by_cases hcontainer : value.Container
  · exact jsonSize_compactWithin_le hroom horiginal hsize hdistinct hcontainer
  · rw [jsonSize_compactWithin hcontainer]
    exact h.resolve_left hcontainer

end Payload

/-! ## The flag -/

namespace ToolResult

/-- When a failure is still one for the agent: nothing is compacted; or what is left of data and error
leaves room for the flag, which is told by their sizes when neither is a list or an object; or both
keep to their room. -/
inductive FlagKept (name : String) (maxBytes : ℕ) (result : ToolResult) : Prop where
  | whole : (observationOf name result.toDict).jsonSize ≤ maxBytes → FlagKept name maxBytes result
  | plain : ¬ result.data.Container → ¬ result.error.Container →
    result.data.cutSize (maxBytes - 516) +
        result.error.cutSize (max 128 (maxBytes - 523 - result.data.cutSize (maxBytes - 516))) +
        (int (observationOf name result.toDict).jsonSize).jsonSize + 103 ≤ maxBytes - 258 →
    FlagKept name maxBytes result
  | roomy : result.data.Roomy (maxBytes - 516) →
    (∀ room, 128 ≤ room → room ≤ maxBytes → result.error.Roomy room) → FlagKept name maxBytes result

/-- The rooms of data and error within a result. -/
theorem remaining_data (result : ToolResult) (original : ℕ) {maxBytes : ℕ} (hmax : 1024 ≤ maxBytes) :
    result.compactedData original (maxBytes - 258) =
        result.data.compactWithin original (maxBytes - 516) ∧
      result.compactedError original (maxBytes - 258) = result.error.compactWithin original
        (max 128 (maxBytes - 523 - (result.compactedData original (maxBytes - 258)).jsonSize)) := by
  have hkey : (Json.quote "data").utf8ByteSize = 6 := by decide +kernel
  have hdata : remaining (maxBytes - 258) 2 = maxBytes - 516 := by
    unfold remaining
    omega
  refine ⟨by rw [compactedData, hdata], ?_⟩
  rw [compactedError, jsonSize_obj_cons]
  simp only [List.map_nil, List.sum_nil, List.length_nil, entrySize]
  refine congrArg _ ?_
  unfold remaining
  omega

theorem jsonSize_whole (original budget : ℕ) (result : ToolResult) :
    (result.candidate original budget 3).jsonSize =
      (result.compactedData original budget).jsonSize +
        (result.compactedError original budget).jsonSize + (Payload.bool result.success).jsonSize +
        (int original).jsonSize + 98 := by
  have hkeys : (Json.quote "data").utf8ByteSize = 6 ∧ (Json.quote "error").utf8ByteSize = 7 ∧
      (Json.quote "success").utf8ByteSize = 9 ∧ (Json.quote "_truncation").utf8ByteSize = 13 ∧
      (int (0 : ℕ)).jsonSize = 1 := by decide +kernel
  rw [jsonSize_candidate _ _ _ (Nat.le_refl 3)]
  simp only [partly, List.take_succ_cons, List.take_zero, List.map_cons, List.map_nil,
    List.sum_cons, List.sum_nil, entrySize, jsonSize_omission]
  omega

theorem jsonSize_bool_le (flag : Bool) : 4 ≤ (Payload.bool flag).jsonSize ∧
    (Payload.bool flag).jsonSize ≤ 5 := by
  cases flag <;> decide +kernel

/-- A result that fits into its room fits into the observation. -/
theorem resultFits_of_fits {original maxBytes : ℕ} {result : ToolResult} (hmax : 1024 ≤ maxBytes)
    (horiginal : original < 2 ^ 63) (h : result.Fits original (maxBytes - 258)) :
    ResultFits original maxBytes (result.candidate original (maxBytes - 258) 3) := by
  have hkeys : (Json.quote "result").utf8ByteSize = 8 ∧
      (Json.quote "_truncation").utf8ByteSize = 13 ∧ (int (1 : ℕ)).jsonSize = 1 := by decide +kernel
  have hcount := jsonSize_int_le horiginal
  have hfits : (result.candidate original (maxBytes - 258) 3).jsonSize ≤ maxBytes - 258 := h
  unfold ResultFits
  rw [jsonSize_obj_cons]
  simp only [List.map_cons, List.map_nil, List.sum_cons, List.sum_nil, List.length_cons,
    List.length_nil, entrySize, jsonSize_omission]
  omega

/-- The sizes of the parts of a result, which is smaller than its observation. -/
theorem jsonSize_lt_observationOf (name : String) (result : ToolResult) :
    result.data.jsonSize < (observationOf name result.toDict).jsonSize ∧
      result.error.jsonSize < (observationOf name result.toDict).jsonSize := by
  unfold observationOf toDict
  simp only [jsonSize_obj_cons, List.map_cons, List.map_nil, List.sum_cons, List.sum_nil, entrySize]
  omega

theorem distinctKeys_members {result : ToolResult} (h : result.toDict.DistinctKeys) :
    result.data.DistinctKeys ∧ result.error.DistinctKeys :=
  ⟨h.node fun _ => @Node.member _ ("data", result.data) _ (by simp),
    h.node fun _ => @Node.member _ ("error", result.error) _ (by simp)⟩

/-- The room of the error is what the data leaves. -/
theorem fits_of_roomy {original maxBytes : ℕ} {result : ToolResult} (hmax : 1024 ≤ maxBytes)
    (horiginal : original < 2 ^ 63)
    (hdata : (result.data.compactWithin original (maxBytes - 516)).jsonSize ≤ maxBytes - 516)
    (herror : ∀ room, 128 ≤ room → room ≤ maxBytes →
      (result.error.compactWithin original room).jsonSize ≤ room) :
    result.Fits original (maxBytes - 258) := by
  obtain ⟨hdataRoom, herrorRoom⟩ := remaining_data result original hmax
  have hflag := (jsonSize_bool_le result.success).2
  have hcount := jsonSize_int_le horiginal
  have herrorSize := herror
    (max 128 (maxBytes - 523 - (result.compactedData original (maxBytes - 258)).jsonSize))
    (by omega) (by omega)
  unfold Fits
  rw [jsonSize_whole]
  rw [← herrorRoom] at herrorSize
  rw [← hdataRoom] at hdata
  omega

/-- Without containers, a failure fits just when the sizes leave room for the flag. -/
theorem fits_iff_of_not_container (original : ℕ) {maxBytes : ℕ} {result : ToolResult}
    (hmax : 1024 ≤ maxBytes) (hfailure : result.success = false) (hdata : ¬ result.data.Container)
    (herror : ¬ result.error.Container) :
    result.Fits original (maxBytes - 258) ↔
      result.data.cutSize (maxBytes - 516) +
        result.error.cutSize (max 128 (maxBytes - 523 - result.data.cutSize (maxBytes - 516))) +
        (int original).jsonSize + 103 ≤ maxBytes - 258 := by
  have hflag : (Payload.bool false).jsonSize = 5 := by decide +kernel
  obtain ⟨hdataRoom, herrorRoom⟩ := remaining_data result original hmax
  unfold Fits
  rw [jsonSize_whole, herrorRoom, hdataRoom, jsonSize_compactWithin hdata,
    jsonSize_compactWithin herror, hfailure, hflag]
  omega

/-- A result without the flag is taken for a success. -/
theorem success_readResult_of_none {payload : Payload} (h : payload.get? "success" = none) :
    (readResult payload).success = true := by
  unfold readResult
  rw [h]

/-- The flag is observed as it is when it is a success, or the result stays whole. -/
theorem success_observed_iff (name : String) {maxBytes : ℕ} (hmax : 1024 ≤ maxBytes)
    (result : ToolResult) (hsize : (observationOf name result.toDict).jsonSize < 2 ^ 63) :
    (readResult (((compactJson (observationOf name result.toDict) maxBytes).get? "result").getD
        .null)).success = result.success ↔
      result.success = true ∨ (observationOf name result.toDict).jsonSize ≤ maxBytes ∨
        result.Fits (observationOf name result.toDict).jsonSize (maxBytes - 258) := by
  by_cases hwhole : (observationOf name result.toDict).jsonSize ≤ maxBytes
  · have hcompact : compactJson (observationOf name result.toDict) maxBytes =
        observationOf name result.toDict := if_pos hwhole
    rw [hcompact]
    exact iff_of_true rfl (.inr (.inl hwhole))
  rw [get?_compactJson hmax (Nat.not_le.mp hwhole)]
  by_cases hfits : result.Fits (observationOf name result.toDict).jsonSize (maxBytes - 258)
  · rw [compactWithin_of_fits hfits, if_pos (resultFits_of_fits hmax hsize hfits)]
    exact iff_of_true rfl (.inr (.inr hfits))
  · -- what is left has no flag, and is read as a success
    have hread : ∀ left : Option Payload,
        left = some (result.toDict.compactWithin (observationOf name result.toDict).jsonSize
          (maxBytes - 258)) ∨ left = none → (readResult (left.getD .null)).success = true := by
      rintro _ (rfl | rfl)
      · exact success_readResult_of_none (compactWithin_of_not_fits hfits)
      · rfl
    rw [hread _ (by split; exacts [.inl rfl, .inr rfl])]
    exact ⟨fun h => .inl h.symm, fun h => (h.resolve_right (not_or.mpr ⟨hwhole, hfits⟩)).symm⟩

/-- Under the condition, the flag is in what the agent reads. -/
theorem FlagKept.stays {name : String} {maxBytes : ℕ} {result : ToolResult}
    (h : result.FlagKept name maxBytes) (hmax : 1024 ≤ maxBytes)
    (hsize : (observationOf name result.toDict).jsonSize < 2 ^ 63)
    (hdistinct : result.toDict.DistinctKeys) (hfailure : result.success = false) :
    (observationOf name result.toDict).jsonSize ≤ maxBytes ∨
      result.Fits (observationOf name result.toDict).jsonSize (maxBytes - 258) := by
  obtain ⟨hdataSize, herrorSize⟩ := jsonSize_lt_observationOf name result
  obtain ⟨hdataKeys, herrorKeys⟩ := distinctKeys_members hdistinct
  cases h with
  | whole h => exact .inl h
  | plain hdata herror h => exact .inr ((fits_iff_of_not_container _ hmax hfailure hdata herror).mpr h)
  | roomy hdata herror =>
    exact .inr (fits_of_roomy hmax hsize
      (hdata.jsonSize_le (by omega) hsize (hdataSize.trans hsize) hdataKeys)
      fun room hroom hle =>
        (herror room hroom hle).jsonSize_le hroom hsize (herrorSize.trans hsize) herrorKeys)

end ToolResult

/-- Whether a call is made and answered by the backend. -/
structure SessionRun.Reaches (run : SessionRun) (now : ℚ) (action : ToolAction) : Prop where
  active : run.session.requireActive run.incident = .ok ()
  within : run.session.limitMessage (run.session.elapsed now) = none
  answered : (run.incident.callTool action.name true (.ok ())).2 = .ok ()

/-- A call that reaches the backend returns what can be read of its observation. -/
theorem SessionRun.Reaches.gatewayCall {run : SessionRun} {now : ℚ} {action : ToolAction}
    (h : run.Reaches now action) (result : Payload) :
    (run.gatewayCall now action true (.ok result)).2 =
      .ok (readResult (((compactJson (observationOf action.name result)
        run.session.config.maxToolResultBytes).get? "result").getD .null)) := by
  have hanswered : (run.incident.callTool action.name true ((Except.ok result).map fun _ => ())).2 =
    .ok () := h.answered
  unfold SessionRun.gatewayCall SessionRun.callTool
  simp only [h.active, h.within, hanswered, Bool.not_true, Bool.false_eq_true, if_false]
  rw [boundedToolObservation_eq]
  rfl

/-- A session with little room for results. -/
def narrowSession : SessionRun :=
  { incident :=
      { notifies := false
        backend := { record := some 0, delegate := some { prepared := true } }
        state := .active }
    session := { config := { maxToolResultBytes := 1024 }, startedAt := 0 } }

def getConfig : ToolAction := ⟨"get_device_config", [("device", .str "leaf1")]⟩

theorem narrowSession_reaches : narrowSession.Reaches 0 getConfig :=
  ⟨rfl, by decide +kernel, rfl⟩

def failedWith (data : String) : ToolResult :=
  { success := false, data := .str data, error := .str "timeout" }

theorem failedWith_distinctKeys (data : String) : (failedWith data).toDict.DistinctKeys := by
  intro entries hnode
  cases hnode with
  | self =>
    show ["success", "data", "error"].Nodup
    decide
  | member hmem hnode =>
    simp only [List.mem_cons, List.not_mem_nil, or_false] at hmem
    rcases hmem with rfl | rfl | rfl <;> cases hnode

/-! ## Texts of one character -/

def filler (c : Char) (count : ℕ) : String := .ofList (.replicate count c)

theorem jsonSize_filler (c : Char) (count : ℕ) :
    (Payload.str (filler c count)).jsonSize = (Json.escape c).utf8ByteSize * count + 2 := by
  have hjoin (count : ℕ) :
      (String.join ((List.replicate count c).map Json.escape)).utf8ByteSize =
        (Json.escape c).utf8ByteSize * count := by
    induction count with
    | zero => rfl
    | succ count ih =>
      rw [List.replicate_succ, List.map_cons, String.join_cons, String.utf8ByteSize_append, ih,
        Nat.mul_add_one, Nat.add_comm]
  unfold jsonSize
  rw [dumps, Json.quote, filler, String.toList_ofList, String.utf8ByteSize_append,
    String.utf8ByteSize_append, hjoin]
  have hquote : "\"".utf8ByteSize = 1 := by decide
  omega

theorem takeBytes_replicate {c : Char} (hc : c.utf8Size = 1) (bytes count : ℕ) :
    takeBytes bytes (.replicate count c) = .replicate (min bytes count) c := by
  induction count generalizing bytes with
  | zero =>
    rw [Nat.min_zero, List.replicate_zero, takeBytes]
  | succ count ih =>
    rw [List.replicate_succ, takeBytes]
    split_ifs with h
    · rw [hc] at h ⊢
      rw [ih, ← List.replicate_succ]
      exact congrArg (List.replicate · c) (by omega)
    · have hbytes : bytes = 0 := by omega
      subst hbytes
      rw [Nat.zero_min]
      rfl

/-- The size that a text of one character is cut to. -/
theorem cutSize_filler {c : Char} (hc : c.utf8Size = 1) (room count : ℕ) :
    (Payload.str (filler c count)).cutSize room =
      (Json.escape c).utf8ByteSize * min (room - 160) count + (int count).jsonSize + 40 := by
  have htext : (filler c count).toList = List.replicate count c := String.toList_ofList
  have hlength : (filler c count).length = count := by
    rw [← String.length_toList, htext, List.length_replicate]
  have hkept := jsonSize_filler c (min (room - 160) count)
  rw [filler] at hkept
  rw [cutSize, htext, takeBytes_replicate hc, hlength, hkept]
  omega

theorem not_container_str (value : String) : ¬ (Payload.str value).Container := by
  rintro ⟨⟩

/-- The size of what a session observes of the failure of `getConfig`. -/
theorem jsonSize_observationOf_failedWith (data : String) :
    (observationOf getConfig.name (failedWith data).toDict).jsonSize =
      (Payload.str data).jsonSize + 81 := by
  have hsizes : (Json.quote "tool").utf8ByteSize = 6 ∧ (Json.quote "result").utf8ByteSize = 8 ∧
      (Json.quote "success").utf8ByteSize = 9 ∧ (Json.quote "data").utf8ByteSize = 6 ∧
      (Json.quote "error").utf8ByteSize = 7 ∧ (Payload.bool false).jsonSize = 5 ∧
      (Payload.str "timeout").jsonSize = 9 ∧ (Payload.str "get_device_config").jsonSize = 19 := by
    decide +kernel
  unfold observationOf ToolResult.toDict failedWith getConfig
  simp only [jsonSize_obj_cons, List.map_cons, List.map_nil, List.sum_cons, List.sum_nil,
    List.length_cons, List.length_nil, entrySize]
  omega

theorem cutSize_filler_of_le {c : Char} {bytes : ℕ} (hc : c.utf8Size = 1)
    (hescape : (Json.escape c).utf8ByteSize = bytes) (room : ℕ) {count : ℕ} (hlong : room - 160 ≤ count)
    (hsmall : count < 2 ^ 63) :
    bytes * (room - 160) + 40 ≤ (Payload.str (filler c count)).cutSize room ∧
      (Payload.str (filler c count)).cutSize room ≤ bytes * (room - 160) + 59 := by
  have hcount := jsonSize_int_le hsmall
  rw [cutSize_filler hc, hescape, Nat.min_eq_left hlong]
  omega

/-- In a narrow session the data of a result has 508 bytes, of which 348 are for the characters. -/
theorem failedWith_kept {data : String} (hlong : 373 ≤ (Payload.str data).cutSize 508)
    (hroom : (Payload.str data).cutSize 508 ≤ 603) (hsize : (Payload.str data).jsonSize < 2 ^ 62) :
    (failedWith data).FlagKept getConfig.name narrowSession.session.config.maxToolResultBytes := by
  have hobservation := jsonSize_observationOf_failedWith data
  have hcount : (int (observationOf getConfig.name (failedWith data).toDict).jsonSize).jsonSize ≤ 19 :=
    jsonSize_int_le (by omega)
  have herrorRoom : max 128 (501 - (Payload.str data).cutSize 508) = 128 := by omega
  have herror : (Payload.str "timeout").cutSize 128 = 41 := by decide +kernel
  refine .plain (not_container_str data) (not_container_str "timeout") ?_
  show (Payload.str data).cutSize 508 +
    (Payload.str "timeout").cutSize (max 128 (501 - (Payload.str data).cutSize 508)) + _ + 103 ≤ 766
  rw [herrorRoom, herror]
  omega

theorem failedWith_not_fits {data : String} (original : ℕ)
    (hdata : 736 ≤ (Payload.str data).cutSize 508) : ¬ (failedWith data).Fits original 766 := by
  intro h
  have hroom : (Payload.str data).cutSize 508 + _ + _ + 103 ≤ 766 :=
    (ToolResult.fits_iff_of_not_container original (Nat.le_refl 1024) rfl (not_container_str data)
      (not_container_str "timeout")).mp h
  omega

end NetOpsBench.Incident
