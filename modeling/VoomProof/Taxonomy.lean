/-!
# The vocabulary of `voom-core`

Failure classes and their retry partition (`taxonomy/failure.rs`), operation kinds
and the operation tokens of tickets (`taxonomy/operation_kind.rs`,
`taxonomy/ticket_operation.rs`), and the errors of the store and the control plane
(`error.rs`).
-/

namespace Voom

/-! ## Failure classes -/

/-- Why a lease failed. -/
inductive FailureClass where
  | workerTimeout
  | workerCrash
  | noEligibleWorker
  | artifactUnavailable
  | artifactChecksumMismatch
  | externalSystemUnavailable
  | externalSystemRateLimited
  | verificationFailure
  | backupFailure
  | commitFailure
  | policyParseError
  | policyValidationError
  | missingCapability
  | malformedWorkerResult
  | userCancellation
  | malformedMedia
  | staleIdentityEvidence
  | closureResolutionIncomplete
  | blockedByActiveUseLease
  | approvalRequired
  | priorityPolicyConflict
  | progressTimeout
  | ambiguousWorkerSelection
  deriving DecidableEq

inductive FailureRetryClass where
  | retriable
  | nonRetriable
  | operatorRequired
  deriving DecidableEq

namespace FailureClass

/-- The name in the source, as `Debug` writes it. -/
def name : FailureClass → String
  | workerTimeout => "WorkerTimeout"
  | workerCrash => "WorkerCrash"
  | noEligibleWorker => "NoEligibleWorker"
  | artifactUnavailable => "ArtifactUnavailable"
  | artifactChecksumMismatch => "ArtifactChecksumMismatch"
  | externalSystemUnavailable => "ExternalSystemUnavailable"
  | externalSystemRateLimited => "ExternalSystemRateLimited"
  | verificationFailure => "VerificationFailure"
  | backupFailure => "BackupFailure"
  | commitFailure => "CommitFailure"
  | policyParseError => "PolicyParseError"
  | policyValidationError => "PolicyValidationError"
  | missingCapability => "MissingCapability"
  | malformedWorkerResult => "MalformedWorkerResult"
  | userCancellation => "UserCancellation"
  | malformedMedia => "MalformedMedia"
  | staleIdentityEvidence => "StaleIdentityEvidence"
  | closureResolutionIncomplete => "ClosureResolutionIncomplete"
  | blockedByActiveUseLease => "BlockedByActiveUseLease"
  | approvalRequired => "ApprovalRequired"
  | priorityPolicyConflict => "PriorityPolicyConflict"
  | progressTimeout => "ProgressTimeout"
  | ambiguousWorkerSelection => "AmbiguousWorkerSelection"

/-- The single source of truth for the retriability partition. -/
def retryClass : FailureClass → FailureRetryClass
  | workerTimeout | workerCrash | noEligibleWorker | artifactUnavailable
  | artifactChecksumMismatch | externalSystemUnavailable | externalSystemRateLimited
  | verificationFailure | backupFailure | commitFailure | progressTimeout => .retriable
  | policyParseError | policyValidationError | missingCapability | malformedWorkerResult
  | userCancellation | malformedMedia => .nonRetriable
  | staleIdentityEvidence | closureResolutionIncomplete | blockedByActiveUseLease
  | approvalRequired | priorityPolicyConflict | ambiguousWorkerSelection => .operatorRequired

def isRetriable (c : FailureClass) : Bool := c.retryClass = .retriable

end FailureClass

/-! ## Operations -/

inductive OperationKind where
  | scanLibrary
  | probeFile
  | hashFile
  | identifyMedia
  | scoreQuality
  | syncExternalSystem
  | backUpFile
  | remux
  | transcodeVideo
  | transcodeAudio
  | editTracks
  | extractAudio
  | verifyArtifact
  | commitArtifact
  | deleteArtifact
  deriving DecidableEq

/-- The wire token. -/
def OperationKind.asStr : OperationKind → String
  | scanLibrary => "scan_library"
  | probeFile => "probe_file"
  | hashFile => "hash_file"
  | identifyMedia => "identify_media"
  | scoreQuality => "score_quality"
  | syncExternalSystem => "sync_external_system"
  | backUpFile => "back_up_file"
  | remux => "remux"
  | transcodeVideo => "transcode_video"
  | transcodeAudio => "transcode_audio"
  | editTracks => "edit_tracks"
  | extractAudio => "extract_audio"
  | verifyArtifact => "verify_artifact"
  | commitArtifact => "commit_artifact"
  | deleteArtifact => "delete_artifact"

/-- The operations a node executes on media it owns. -/
def OperationKind.isNodeLocalMediaDispatch : OperationKind → Bool
  | probeFile | backUpFile | remux | transcodeVideo | transcodeAudio | extractAudio
  | verifyArtifact => true
  | scanLibrary | hashFile | editTracks | commitArtifact | deleteArtifact | identifyMedia
  | scoreQuality | syncExternalSystem => false

def WORKFLOW_OPERATION_NAMESPACE : String := "synthetic.workflow.operation."

/-- An operation token in the form `TicketOperation::normalize` gives it, which
determines the token: a known kind, bare or inside the workflow namespace, a custom
token, or a token of the namespace that names no kind. -/
inductive TicketOperation where
  | known (kind : OperationKind) (namespaced : Bool)
  | customLocal (token : String)
  | unknownNamespaced (token : String)
  deriving DecidableEq

namespace TicketOperation

def asStr : TicketOperation → String
  | known kind false => kind.asStr
  | known kind true => WORKFLOW_OPERATION_NAMESPACE ++ kind.asStr
  | customLocal token => token
  | unknownNamespaced token => token

/-- The encodings scheduling supports; unknown reserved tokens match nothing. -/
def matchingTokens : TicketOperation → List TicketOperation
  | known kind _ => [known kind false, known kind true]
  | customLocal token => [customLocal token]
  | unknownNamespaced _ => []

/-- The token capability and grant rows are matched against. -/
def matchingToken : TicketOperation → TicketOperation
  | known kind _ => known kind false
  | op => op

/-- The second encoding leases of this operation are counted under. -/
def workflowOperation : TicketOperation → TicketOperation
  | known kind _ => known kind true
  | op => op

def isUnknownNamespaced : TicketOperation → Bool
  | unknownNamespaced _ => true
  | _ => false

end TicketOperation

/-! ## Errors -/

/-- `VoomError`, as far as the modelled calls raise it. -/
inductive VoomError where
  | database (message : String)
  | config (message : String)
  | notFound (message : String)
  | internal (message : String)
  | conflict (message : String)
  | malformedWorkerResult (message : String)
  | dependencyCycle (message : String)
  | staleIdentityEvidence (message : String)
  | unauthorized (message : String)
  | commitFailure (message : String)
  deriving DecidableEq

namespace VoomError

/-- The code on the wire. -/
def code : VoomError → String
  | database _ => "DB_UNREACHABLE"
  | config _ => "CONFIG_INVALID"
  | notFound _ => "NOT_FOUND"
  | internal _ => "INTERNAL"
  | conflict _ => "CONFLICT"
  | malformedWorkerResult _ => "MALFORMED_WORKER_RESULT"
  | dependencyCycle _ => "DEPENDENCY_CYCLE"
  | staleIdentityEvidence _ => "STALE_IDENTITY_EVIDENCE"
  | unauthorized _ => "UNAUTHORIZED"
  | commitFailure _ => "COMMIT_FAILURE"

/-- The text of the error. -/
def display : VoomError → String
  | database message => s!"database error: {message}"
  | config message => s!"config error: {message}"
  | notFound message => s!"not found: {message}"
  | internal message => s!"internal error: {message}"
  | conflict message => s!"conflict: {message}"
  | malformedWorkerResult message => s!"malformed worker result: {message}"
  | dependencyCycle message => s!"dependency cycle: {message}"
  | staleIdentityEvidence message => s!"stale identity evidence: {message}"
  | unauthorized message => s!"unauthorized: {message}"
  | commitFailure message => s!"commit failure: {message}"

end VoomError

/-! ## Ids -/

abbrev TicketId := Nat
abbrev JobId := Nat
abbrev WorkerId := Nat
abbrev NodeId := Nat

end Voom
