import Mathlib

/-!
# Scenarios

A benchmark task: one episode with at most one fault. A field constraint of the schema is a field
of the structure.
-/

namespace NetOpsBench.Models

structure EpisodeSpec where
  episodeId : String
  faultType : String := "none"
  targetDevice : Option String := none
  targetInterface : Option String := none
  targetPrefix : Option String := none
  mtu : Option Nat := none
  durationSeconds : Nat := 30
  stabilizationTime : Nat := 10
  episodeId_ne : episodeId ≠ "" := by decide
  faultType_ne : faultType ≠ "" := by decide
  mtu_pos : ∀ bytes ∈ mtu, 0 < bytes := by decide
  durationSeconds_pos : 0 < durationSeconds := by decide
deriving DecidableEq, Repr

structure ScenarioSpec where
  scenarioId : String
  name : String
  topologyScale : String := "xs"
  episode : EpisodeSpec
  scenarioId_ne : scenarioId ≠ "" := by decide
  name_ne : name ≠ "" := by decide
  topologyScale_ne : topologyScale ≠ "" := by decide
deriving DecidableEq, Repr

end NetOpsBench.Models
