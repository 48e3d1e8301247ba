import NetOpsBench.Agents.TokenAccounting
import NetOpsBench.Agents.ToolPairing
import NetOpsBench.Bgp.Agreement
import NetOpsBench.Bgp.Retention
import NetOpsBench.Evaluator.DetectionReport
import NetOpsBench.Evaluator.FaultTypeJudge
import NetOpsBench.Evaluator.LinkTruth
import NetOpsBench.Evaluator.Localization
import NetOpsBench.Evaluator.PortCredit
import NetOpsBench.Faults.LinkRecovery
import NetOpsBench.Incident.Compaction
import NetOpsBench.Incident.Gateway
import NetOpsBench.Incident.LeasePairing
import NetOpsBench.Incident.SessionBudget
import NetOpsBench.Observability.LineText
import NetOpsBench.Observability.SummaryAgreement
import NetOpsBench.Pingmesh.PolicyAgreement
import NetOpsBench.Pingmesh.ProbeAccounting
import NetOpsBench.Pingmesh.ProbeHeader
import NetOpsBench.Runtime.BucketOwnership
import NetOpsBench.Runtime.LabOwnership
import NetOpsBench.Scenario.CleanupSoundness
import NetOpsBench.Scenario.PortNames
import NetOpsBench.Session.Quarantine
import NetOpsBench.Simulator.LeaseSafety
import NetOpsBench.Toolkit.HeaderTracking
import NetOpsBench.Toolkit.RouteOwnership
import NetOpsBench.Traffic.Digest
import NetOpsBench.Traffic.Pacing
import NetOpsBench.Traffic.RateLimit
import NetOpsBench.Traffic.Switch
