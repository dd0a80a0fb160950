import VoomProof.TicketExecution
import VoomProof.ExecutionRuns
import VoomProof.RemuxConvergence
import VoomProof.TicketStore
import VoomProof.PlanEdges
import VoomProof.UnknownFacts
import VoomProof.RemuxExecutable
import VoomProof.PolicyNumbers
import VoomProof.NestingBounds
import VoomProof.LoweringFailures
import VoomProof.CommitRepeats
import VoomProof.ScanRescan
import VoomProof.ScanAbsence
import VoomProof.NdjsonWriter
import VoomProof.OperationKeys
import VoomProof.StreamingCompletion
import VoomProof.ScanLedger
import VoomProof.RemoteMutations
import VoomProof.ResidueClearing
import VoomProof.TempSiblings
import VoomProof.CanonicalJson
import VoomProof.SuppressionKeys
