import Mathlib

/-!
# The control protocol of the client agent

What an agent answers to a request: the status of its process, and the error of a request that
failed.

`AgentStatus` has the fields that the traffic process and the generation switch work with.
-/

namespace NetOpsBench.ClientAgent

structure AgentStatus where
  ready : Bool := false
  enabled : Bool := false
  heartbeatUnixNs : UInt64 := 0
  generation : UInt64 := 0
  planDigest : String := ""
  expectedFlows : Nat := 0
  activeFlows : Nat := 0
  expectedListeners : Nat := 0
  activeListeners : Nat := 0
  packetsSent : UInt64 := 0
  bytesSent : UInt64 := 0
  reconnects : UInt64 := 0
  lastError : Option String := none
deriving DecidableEq

/-- `now` is the nanoseconds since the epoch; those past 64 bits count as the last one. -/
def AgentStatus.refreshHeartbeat (status : AgentStatus) (now : Nat) : AgentStatus :=
  { status with heartbeatUnixNs := .ofNat (min now (2 ^ 64 - 1)) }

structure ResponseEnvelope where
  ok : Bool
  status : AgentStatus
  error : Option String
deriving DecidableEq

def ResponseEnvelope.ofResult (status : AgentStatus) : Except String Unit → ResponseEnvelope
  | .ok () => { ok := true, status, error := none }
  | .error error => { ok := false, status, error := some error }

end NetOpsBench.ClientAgent
