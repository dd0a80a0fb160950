import VoomProof.Taxonomy

/-!
# Fenced commit intents

An artifact commit is a commit record and the fenced intent that drives it: the rows of
`artifact_commit_records` and `artifact_commit_intents`, and the transitions
`voom-store` allows on them. The node that owns the target root authorizes the intent
(which mints its fence), journals `applying` before it touches bytes, reports what came
of it, and completes; receipts that do not prove the promotion put the intent in
recovery, where re-observations are filed beside the original receipt.

All this is about one commit; which commits belong together, and checks against other tables,
are the callers'.
-/

namespace Voom

/-- Size and hash of a file, pinned or observed. -/
structure FileFacts where
  sizeBytes : Nat
  contentHash : String
  deriving DecidableEq

inductive CommitReceipt where
  /-- The journal entry written before any byte is touched. -/
  | applying
  | applied (observed : FileFacts)
  | mismatched (reason : String) (observed : Option FileFacts)
  | outcomeUnknown (reason : String)
  deriving DecidableEq

def CommitReceipt.kindStr : CommitReceipt → String
  | applying => "applying"
  | applied _ => "applied"
  | mismatched _ _ => "mismatched"
  | outcomeUnknown _ => "outcome_unknown"

/-- The reason of a re-observation that found nothing applied. -/
def RESOLVED_NOT_APPLIED_REASON : String := "target_absent_no_temp_sibling"

inductive ArtifactCommitIntentState where
  | pending
  | authorized
  | recoveryRequired
  | completed
  | aborted
  deriving DecidableEq

def ArtifactCommitIntentState.asStr : ArtifactCommitIntentState → String
  | pending => "pending"
  | authorized => "authorized"
  | recoveryRequired => "recovery_required"
  | completed => "completed"
  | aborted => "aborted"

inductive ArtifactCommitState where
  | pending
  | recoveryRequired
  | committed
  | failed
  deriving DecidableEq

abbrev CommitId := Nat

/-- The secret of an authorized intent. -/
abbrev CommitFence := Nat

/-- One start of a node agent. -/
abbrev NodeIncarnationId := Nat

/-- A commit record with its intent. -/
structure ArtifactCommit where
  id : CommitId
  record : ArtifactCommitState
  intent : ArtifactCommitIntentState
  expected : FileFacts
  /-- The incarnation the intent was authorized for. -/
  ownerIncarnation : Option NodeIncarnationId
  fence : Option CommitFence
  receipt : Option CommitReceipt
  supplemental : Option CommitReceipt
  deriving DecidableEq

namespace ArtifactCommit

/-- `create_pending_in_tx`: the record and the intent of one prepare. -/
def createPending (id : CommitId) (expected : FileFacts) : ArtifactCommit where
  id := id
  record := .pending
  intent := .pending
  expected := expected
  ownerIncarnation := none
  fence := none
  receipt := none
  supplemental := none

def authorize (c : ArtifactCommit) (incarnation : NodeIncarnationId) (fence : CommitFence) :
    Except VoomError ArtifactCommit :=
  if c.intent = .pending then
    .ok { c with
      intent := .authorized, ownerIncarnation := some incarnation, fence := some fence }
  else
    .error (.conflict
      s!"artifact_commit_intents authorize: id={c.id} is {c.intent.asStr} not pending")

/-- `applying` opens the journal; every other receipt follows it. -/
def follows (receipt : CommitReceipt) (current : Option CommitReceipt) : Bool :=
  match receipt, current with
  | .applying, none => true
  | .applied _, some .applying => true
  | .mismatched _ _, some .applying => true
  | .outcomeUnknown _, some .applying => true
  | _, _ => false

def receiptKind (receipt : Option CommitReceipt) : String :=
  match receipt with
  | some r => "Some(" ++ r.kindStr.quote ++ ")"
  | none => "None"

def recordReceipt (c : ArtifactCommit) (receipt : CommitReceipt) :
    Except VoomError ArtifactCommit :=
  if c.intent = .authorized then
    if follows receipt c.receipt then .ok { c with receipt := some receipt }
    else
      .error (.conflict (s!"artifact_commit_intents receipt: id={c.id} cannot record " ++
        receipt.kindStr ++ " after " ++ receiptKind c.receipt))
  else
    .error (.conflict
      s!"artifact_commit_intents receipt: id={c.id} is {c.intent.asStr} not authorized")

/-- A re-observation; the last one stands, and the original receipt stays. -/
def appendSupplementalReceipt (c : ArtifactCommit) (receipt : CommitReceipt) :
    Except VoomError ArtifactCommit :=
  if c.intent = .recoveryRequired then .ok { c with supplemental := some receipt }
  else
    .error (.conflict (s!"artifact_commit_intents supplemental receipt: id={c.id} is " ++
      s!"{c.intent.asStr} not recovery_required"))

def changed (c : ArtifactCommit) (operation : String) : VoomError :=
  .conflict s!"artifact_commit_intents {operation}: id={c.id} did not match the expected state"

def markCompleted (c : ArtifactCommit) : Except VoomError ArtifactCommit :=
  if c.intent = .authorized ∨ c.intent = .recoveryRequired then
    .ok { c with intent := .completed, fence := none }
  else .error (c.changed "complete")

def markRecoveryRequired (c : ArtifactCommit) : Except VoomError ArtifactCommit :=
  if c.intent = .authorized then .ok { c with intent := .recoveryRequired }
  else .error (c.changed "recovery_required")

def markAborted (c : ArtifactCommit) : Except VoomError ArtifactCommit :=
  if c.intent = .pending ∨ c.intent = .authorized ∨ c.intent = .recoveryRequired then
    .ok { c with intent := .aborted, fence := none }
  else .error (c.changed "abort")

/-- Neither committed nor failed. -/
def openRecord (c : ArtifactCommit) : Bool :=
  c.record = .pending || c.record = .recoveryRequired

/-- Move an open commit record on; `operation` names the move in errors. -/
def markRecord (c : ArtifactCommit) (state : ArtifactCommitState) (operation : String) :
    Except VoomError ArtifactCommit :=
  if c.openRecord then .ok { c with record := state }
  else .error (.conflict s!"artifact_commit_records {operation}: id={c.id} not pending")

def markCommitCommitted (c : ArtifactCommit) : Except VoomError ArtifactCommit :=
  c.markRecord .committed "commit"

def markCommitFailed (c : ArtifactCommit) : Except VoomError ArtifactCommit :=
  c.markRecord .failed "fail"

def markCommitRecoveryRequired (c : ArtifactCommit) : Except VoomError ArtifactCommit :=
  c.markRecord .recoveryRequired "recovery_required"

/-! ## Evidence -/

/-- The receipt proves that the pinned bytes are in place. -/
def matchesApplied (c : ArtifactCommit) : CommitReceipt → Bool
  | .applied observed => observed = c.expected
  | _ => false

def noAppliedReceipt (c : ArtifactCommit) : VoomError :=
  .conflict s!"commit intent {c.id} completion rejected: no applied receipt"

def observedFactsDiffer (c : ArtifactCommit) : VoomError :=
  .conflict (s!"commit intent {c.id} completion rejected: observed facts do not match the " ++
    "pinned expected facts")

/-- The original receipt is `applied` with the pinned facts. -/
def requireApplied (c : ArtifactCommit) : Except VoomError Unit :=
  match c.receipt with
  | some (.applied observed) =>
      if observed = c.expected then .ok () else .error c.observedFactsDiffer
  | _ => .error c.noAppliedReceipt

def validateFenceAndEvidence (c : ArtifactCommit) (fence : CommitFence) : Except VoomError Unit :=
  if c.fence = some fence then c.requireApplied
  else .error (.conflict s!"commit intent {c.id} completion rejected: commit fence mismatch")

/-- Some receipt of the intent, original or supplemental, proves the promotion. -/
def provenApplied (c : ArtifactCommit) : Bool :=
  c.receipt.any c.matchesApplied || c.supplemental.any c.matchesApplied

/-- `record_receipt_in_tx` of the control plane: receipts that do not prove the promotion
put intent and record in recovery. -/
def journal (c : ArtifactCommit) (receipt : CommitReceipt) : Except VoomError ArtifactCommit := do
  let c ← c.recordReceipt receipt
  match receipt with
  | .mismatched _ _ | .outcomeUnknown _ =>
      let c ← c.markRecoveryRequired
      c.markCommitRecoveryRequired
  | .applying | .applied _ => return c

end ArtifactCommit
end Voom
