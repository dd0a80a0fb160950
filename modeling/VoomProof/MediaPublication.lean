import VoomProof.ControlPlane

/-!
# Publication of media files

What happens to the files a leased media ticket produced: `remote_complete` stages them
and prepares one fenced commit for each (the ticket stays leased), the owner drives the
commits (authorize, applying, outcome), and the completion of a commit, or of all commits
of an extraction together, publishes the files and releases the lease in one transaction.
`recover_commit` classifies commits that stopped on the way by their receipts.
(`artifact/publication` and `artifact/commit` of `voom-control-plane`.)

Paths and probe facts of staged files are left out: `OwnerEvidence` has the sizes and hashes
that commits pin, and what other checks of a completion give. A check of pinned rows is one of
the three results of a `PinnedScope`.
-/

namespace Voom
open Fallible AudioOperation

/-- What the rows pinned by a commit are found to be. -/
structure PinnedScope where
  /-- The node's incarnation is active, fresh, and owns the worker. -/
  incarnation : Except VoomError Unit
  /-- The access plan and the source location of the completion are unchanged. -/
  source : Except VoomError Unit
  /-- The target root and the staging location are as pinned. -/
  root : Except VoomError Unit

/-- Every pinned row is as it was. -/
def PinnedScope.holds : PinnedScope := ⟨.ok (), .ok (), .ok ()⟩

/-- What a completion reports. -/
structure OwnerEvidence where
  /-- The files observed, in the order of the dispatch. -/
  outputs : List FileFacts
  scope : PinnedScope
  /-- The result of every other check of the report. -/
  validated : Except VoomError Unit

def MAX_COMMIT_GROUP_OUTPUTS : Nat := 128

namespace ControlPlane

def setCommit (cp : ControlPlane) (c : MediaCommit) : ControlPlane :=
  { cp with commits := cp.commits.set c.commit.id c }

def setOperation (cp : ControlPlane) (id : OperationId) (op : AudioOperation) : ControlPlane :=
  { cp with operations := cp.operations.set id op }

def requireIntent (cp : ControlPlane) (id : CommitId) : Except VoomError MediaCommit :=
  find cp.commits[id]? (.notFound s!"artifact_commit_intent {id} not found")

/-! ## Guards -/

/-- `guard_binding_in_tx`: a file of an audio operation is published under its claim. -/
def guardBinding (cp : ControlPlane) (c : MediaCommit) : Except VoomError Unit := do
  let extraction ← AudioLedger.claimedForLease cp.operations .extraction c.context.leaseId
  let synthesis ← AudioLedger.claimedForLease cp.operations .synthesis c.context.leaseId
  match extraction, synthesis with
  | some _, some _ =>
      .error (.database "source lease has ambiguous audio operation bindings")
  | some (_, op), none =>
      let attempt ← find op.currentAttempt (.database "prepared extraction has no exact attempt")
      require (c.handle ∈ op.commits)
        (.database "extraction verification/output association is ambiguous")
      require (attempt.workerId = c.context.workerId ∧ attempt.status = .terminal ∧
          op.publishable ∧ op.live cp.now)
        (.conflict "extraction publication lost its exact prepared operation/attempt claim")
  | none, some (_, op) =>
      let attempt ← find op.currentAttempt (.database "staged synthesis has no exact attempt")
      require (op.commits = [c.handle] ∧ attempt.workerId = c.context.workerId ∧
          attempt.leaseId = c.context.leaseId ∧ attempt.status = .terminal ∧
          op.state = .staged ∧ op.live cp.now)
        (.conflict "synthesis publication lost its exact staged operation/attempt claim")
  | none, none =>
      require c.leaseBound
        (.database "unbound owner verification has no exact audio operation anchor")

/-- `guard_context_in_tx`: the completion's lease is still held, by the same worker. -/
def guardContext (cp : ControlPlane) (context : CompletionContext) (scope : PinnedScope) :
    Except VoomError Unit := do
  scope.incarnation
  let lease ← cp.store.getHeldForWorker context.leaseId context.workerId
  require (cp.now < lease.expiresAt) (.conflict "media completion lost its held source lease")
  scope.source

def guardIntentScope (cp : ControlPlane) (c : MediaCommit) (scope : PinnedScope) :
    Except VoomError Unit := do
  cp.guardBinding c
  cp.guardContext c.context scope
  scope.root

/-! ## Staging -/

/-- Workflow mutations enter publication. -/
def publishes : TicketOperation → Bool
  | .known .remux true => true
  | .known .transcodeVideo true => true
  | .known .transcodeAudio true => true
  | .known .extractAudio true => true
  | _ => false

/-- The words of the two kinds of audio operation. -/
def noun : AudioKind → String
  | .extraction => "extraction"
  | .synthesis => "synthesis"

def completionDiffers : AudioKind → VoomError
  | .extraction => .conflict
      "extraction completion differs from admitted source, output set, worker or claim"
  | .synthesis => .conflict "synthesis completion differs from admitted source, worker or claim"

/-- `resolve_in_tx`: the operation the lease was admitted with. -/
def resolveAdmitted (cp : ControlPlane) (kind : AudioKind) (context : CompletionContext) :
    Except VoomError (OperationId × AudioOperation × DispatchAttempt) := do
  let found ← AudioLedger.claimedForLease cp.operations kind context.leaseId
  let (id, op) ← find found (.database (noun kind ++ " completion has no admitted operation"))
  let attempt ← find op.currentAttempt
    (.database (noun kind ++ " completion has no admitted attempt"))
  require (attempt.leaseId = context.leaseId)
    (.database "owner audio dispatch key differs from original child request")
  require (attempt.workerId = context.workerId ∧ op.live cp.now) (completionDiffers kind)
  return (id, op, attempt)

/-- `validate_owner_evidence_in_tx` and `validate_outputs_in_tx`. -/
def validateEvidence (cp : ControlPlane) (context : CompletionContext) (evidence : OwnerEvidence)
    (count : Nat) : Except VoomError Unit := do
  require (count ≠ 0 ∧ evidence.outputs.length = count)
    (.malformedWorkerResult "owner output count differs from dispatch")
  cp.guardContext context evidence.scope
  evidence.validated

/-- `existing_pending_in_tx`: a completion already staged is left to its commits. -/
def requireSameRequest (staged : MediaCommit) (context : CompletionContext) :
    Except VoomError Unit :=
  require (staged.context = context)
    (.conflict "media completion differs from its staged request")

/-- A file with commits of its own, outside a group, has one. -/
def requireOneCommit (cp : ControlPlane) (handle : CommitId) : Except VoomError Unit :=
  require ((cp.commits.filter (·.handle = handle)).length = 1)
    (.database "staged owner verification commit binding is ambiguous")

/-- The commits of staged files, in order. -/
def prepareCommits (cp : ControlPlane) (context : CompletionContext) (leaseBound : Bool)
    (facts : List FileFacts) : List MediaCommit :=
  facts.mapIdx fun i expected =>
    let id := cp.commits.length + i
    ⟨.createPending id expected, id, context, leaseBound⟩

def stageScalar (cp : ControlPlane) (context : CompletionContext)
    (evidence : OwnerEvidence) : Except VoomError ControlPlane := do
  match cp.commits.find? fun c => c.leaseBound && c.context.leaseId = context.leaseId with
  | some staged =>
      requireSameRequest staged context
      cp.requireOneCommit staged.handle
      return cp
  | none =>
      cp.validateEvidence context evidence 1
      return { cp with
        commits := cp.commits ++ cp.prepareCommits context true evidence.outputs }

def stageCountDiffers : AudioKind → VoomError
  | .extraction => .database "extraction stage count differs from admission"
  | .synthesis => .database "synthesis stage must contain one file"

/-- `bind_in_tx`: the operation of the files that were staged. -/
def bindAudio (op : AudioOperation) (id : OperationId) (attempt : DispatchAttempt)
    (commits : List CommitId) (now : Instant) : Except VoomError AudioOperation := do
  let op ← op.markDispatchTerminal attempt now
  require (commits.length = op.descriptor.outputCount) (stageCountDiffers op.kind)
  match op.kind, commits with
  | .synthesis, [commit] => op.bindStaged commit now
  | .synthesis, _ => .error (stageCountDiffers .synthesis)
  | .extraction, _ =>
      let op ← op.stageOperation id now
      op.prepareFencedOperation id commits now

def stageAudio (cp : ControlPlane) (kind : AudioKind) (context : CompletionContext)
    (evidence : OwnerEvidence) : Except VoomError ControlPlane := do
  let (id, op, attempt) ← cp.resolveAdmitted kind context
  match op.commits with
  | first :: _ =>
      let staged ← find cp.commits[first]? (.database "admitted audio verification missing")
      requireSameRequest staged context
      if kind = .synthesis then cp.requireOneCommit staged.handle
      return cp
  | [] =>
      cp.validateEvidence context evidence op.descriptor.outputCount
      let prepared := cp.prepareCommits context false evidence.outputs
      let op ← bindAudio op id attempt (prepared.map (·.commit.id)) cp.now
      return { cp.setOperation id op with commits := cp.commits ++ prepared }

/-- A completion by the worker that holds the lease: staged, or released at once when the
ticket publishes nothing. -/
def remoteComplete (cp : ControlPlane) (context : CompletionContext)
    (evidence : OwnerEvidence) (unblocked : List TicketId) :
    Except VoomError ControlPlane := do
  let lease ← cp.store.getHeldForWorker context.leaseId context.workerId
  let ticket ← find cp.store.tickets[lease.ticketId]?
    (.database "held completion ticket disappeared")
  if publishes ticket.kind then
    match ticket.payload with
    | .plain false => .error (.database "workflow mutation is missing its media dispatch")
    | .plain true =>
        .error (.database "workflow mutation has a non-mutation media dispatch")
    | .media => cp.stageScalar context evidence
    | .audio request => cp.stageAudio request.descriptor.kind context evidence
  else cp.releaseLease context.leaseId unblocked

/-! ## Driving a commit -/

/-- A transaction on one commit. -/
def updateCommit (cp : ControlPlane) (c : MediaCommit)
    (update : ArtifactCommit → Except VoomError ArtifactCommit) :
    Except VoomError ControlPlane := do
  let commit ← update c.commit
  return cp.setCommit { c with commit := commit }

/-- The same on one commit after the other. -/
def updateCommits (cp : ControlPlane)
    (update : ArtifactCommit → Except VoomError ArtifactCommit) :
    List MediaCommit → Except VoomError ControlPlane
  | [] => .ok cp
  | c :: rest => do
      let cp ← cp.updateCommit c update
      cp.updateCommits update rest

def wrongState (c : ArtifactCommit) (expected : String) : VoomError :=
  .conflict s!"commit intent {c.id} is {c.intent.asStr} not {expected}"

def authorizePending (cp : ControlPlane) (id : CommitId) (scope : PinnedScope)
    (gate : Except VoomError Unit) (incarnation : NodeIncarnationId) (fence : CommitFence) :
    Except VoomError ControlPlane := do
  let c ← cp.requireIntent id
  require (c.commit.intent = .pending) (wrongState c.commit "pending")
  cp.guardIntentScope c scope
  gate
  cp.updateCommit c (·.authorize incarnation fence)

/-- `abort_pending_on_drift`: the record stays as it is. -/
def abortPendingOnDrift (cp : ControlPlane) (id : CommitId) : ControlPlane :=
  match cp.commits[id]? with
  | none => cp
  | some c =>
      if c.commit.intent = .pending then cp.transact (cp.updateCommit c (·.markAborted)) else cp

/-- An authorization that fails aborts an intent that is still pending. -/
def authorizeCommitIntent (cp : ControlPlane) (id : CommitId) (scope : PinnedScope)
    (gate : Except VoomError Unit) (incarnation : NodeIncarnationId) (fence : CommitFence) :
    ControlPlane :=
  match cp.authorizePending id scope gate incarnation fence with
  | .ok cp' => cp'
  | .error _ => cp.abortPendingOnDrift id

def requireAuthorizedIntent (cp : ControlPlane) (id : CommitId) (scope : PinnedScope) :
    Except VoomError MediaCommit := do
  let c ← cp.requireIntent id
  require (c.commit.intent = .authorized) (wrongState c.commit "authorized")
  cp.guardIntentScope c scope
  return c

def reportApplying (cp : ControlPlane) (id : CommitId) (scope : PinnedScope) :
    Except VoomError ControlPlane := do
  let c ← cp.requireAuthorizedIntent id scope
  cp.updateCommit c (·.journal .applying)

inductive CommitOutcomeEvidence where
  | applied (observed : FileFacts)
  | mismatched (reason : String) (observed : Option FileFacts)
  | outcomeUnknown (reason : String)
  deriving DecidableEq

def CommitOutcomeEvidence.receipt : CommitOutcomeEvidence → CommitReceipt
  | applied observed => .applied observed
  | mismatched reason observed => .mismatched reason observed
  | outcomeUnknown reason => .outcomeUnknown reason

/-- In recovery the outcome is a re-observation, filed beside the original receipt. -/
def reportOutcome (cp : ControlPlane) (id : CommitId) (evidence : CommitOutcomeEvidence)
    (scope : PinnedScope) : Except VoomError ControlPlane := do
  let c ← cp.requireIntent id
  if c.commit.intent = .recoveryRequired then
    cp.guardIntentScope c scope
    cp.updateCommit c (·.appendSupplementalReceipt evidence.receipt)
  else
    require (c.commit.intent = .authorized) (wrongState c.commit "authorized")
    cp.guardIntentScope c scope
    cp.updateCommit c (·.journal evidence.receipt)

/-! ## Completion -/

/-- `finish_in_tx`: the ticket succeeds with the publication of its files. -/
def finish (cp : ControlPlane) (context : CompletionContext) (scope : PinnedScope)
    (unblocked : List TicketId) : Except VoomError ControlPlane := do
  cp.guardContext context scope
  cp.releaseLease context.leaseId unblocked

def finishSynthesis (cp : ControlPlane) (c : MediaCommit) : Except VoomError ControlPlane := do
  match ← AudioLedger.claimedForLease cp.operations .synthesis c.context.leaseId with
  | none => return cp
  | some (id, op) =>
      require (op.commits = [c.handle] ∧ op.live cp.now)
        (.conflict "synthesis finalization lost exact staged operation claim")
      let op ← op.finalize
      return cp.setOperation id op

/-- The rows of one published file. -/
def publishRow (c : ArtifactCommit) : Except VoomError ArtifactCommit := do
  let c ← c.markCommitCommitted
  c.markCompleted

/-- `converge_intent_in_tx`. -/
def convergeIntent (cp : ControlPlane) (c : MediaCommit) (scope : PinnedScope)
    (unblocked : List TicketId) : Except VoomError ControlPlane := do
  let group ← AudioLedger.operationForCommit cp.operations c.commit.id
  require (group = none) (.conflict "extraction publication requires the entire operation")
  c.commit.requireApplied
  let cp ← cp.updateCommit c publishRow
  let cp ← cp.finishSynthesis c
  cp.finish c.context scope unblocked

def completeCommitIntent (cp : ControlPlane) (id : CommitId) (fence : CommitFence)
    (scope : PinnedScope) (unblocked : List TicketId) : Except VoomError ControlPlane := do
  let c ← cp.requireAuthorizedIntent id scope
  c.commit.validateFenceAndEvidence fence
  let group ← AudioLedger.operationForCommit cp.operations c.commit.id
  require (group = none) (.conflict "extraction member requires complete grouped proof")
  cp.convergeIntent c scope unblocked

structure CommitGroupMemberProof where
  intentId : CommitId
  fence : CommitFence
  applied : FileFacts
  deriving DecidableEq

structure CommitGroupProof where
  operationId : OperationId
  generation : Nat
  claimLeaseId : LeaseId
  claimToken : String
  outputCount : Nat
  members : List CommitGroupMemberProof
  deriving DecidableEq

/-- `finish_extraction_group_in_tx`: all files of an extraction, or none. -/
def finishExtractionGroup (cp : ControlPlane) (id : OperationId) (op : AudioOperation)
    (members : List MediaCommit) (scope : PinnedScope) (unblocked : List TicketId) :
    Except VoomError ControlPlane := do
  require (members.length = op.descriptor.outputCount)
    (.database "group publication output set is incomplete")
  match members with
  | [] => .error (.database "group publication output set is incomplete")
  | first :: _ =>
      require (∀ c ∈ members, c.context = first.context)
        (.database "group members carry different source completions")
      let cp ← cp.updateCommits publishRow members
      let op ← op.completeOperation id cp.now
      (cp.setOperation id op).finish first.context scope unblocked

/-- The checks a group completion makes of one member. -/
def checkMember (cp : ControlPlane) (incarnation : NodeIncarnationId) (scope : PinnedScope)
    (output : CommitId) (c : MediaCommit) (supplied : CommitGroupMemberProof) :
    Except VoomError Unit := do
  require (output = c.commit.id ∧ c.commit.ownerIncarnation = some incarnation ∧
      c.commit.intent = .authorized)
    (.conflict "group completion member order, binding or incarnation differs")
  cp.guardIntentScope c scope
  c.commit.validateFenceAndEvidence supplied.fence
  match c.commit.receipt with
  | some (.applied observed) =>
      require (supplied.applied = observed)
        (.conflict "group supplied applied facts differ from durable receipt")
  | _ => .error (.conflict "group member has no applied receipt")

def checkMembers (cp : ControlPlane) (incarnation : NodeIncarnationId) (scope : PinnedScope) :
    List CommitId → List MediaCommit → List CommitGroupMemberProof → Except VoomError Unit
  | output :: outputs, c :: members, supplied :: rest => do
      cp.checkMember incarnation scope output c supplied
      cp.checkMembers incarnation scope outputs members rest
  | _, _, _ => .ok ()

def completeCommitGroup (cp : ControlPlane) (proof : CommitGroupProof)
    (incarnation : NodeIncarnationId) (scope : PinnedScope) (unblocked : List TicketId) :
    Except VoomError ControlPlane := do
  require (proof.members ≠ [] ∧ proof.members.length ≤ MAX_COMMIT_GROUP_OUTPUTS ∧
      proof.outputCount = proof.members.length)
    (.conflict "group completion requires the complete bounded output set")
  require (proof.members.map (·.intentId)).Nodup
    (.conflict "group completion has an invalid or duplicate member")
  let members ← proof.members.mapM fun member => cp.requireIntent member.intentId
  let first ← find members.head? (.internal "group completion lost its members")
  let group ← AudioLedger.operationForCommit cp.operations first.commit.id
  let (id, op) ← find group (.conflict "group member is not an extraction output")
  require (id = proof.operationId ∧ op.generation = proof.generation ∧
      op.claim.any (fun claim =>
        claim.leaseId = proof.claimLeaseId && claim.token = proof.claimToken) ∧
      op.live cp.now ∧ op.descriptor.outputCount = proof.members.length ∧ op.state = .prepared)
    (.conflict "group completion does not match the exact live prepared operation claim")
  cp.checkMembers incarnation scope op.commits members proof.members
  cp.finishExtractionGroup id op members scope unblocked

/-! ## Recovery -/

/-- What the checks of a recovery find. -/
structure RecoveryChecks where
  scope : PinnedScope
  /-- The safety gate over the lineage's use leases. -/
  gate : Except VoomError Unit
  /-- The preparation of a successor. -/
  prepare : Except VoomError Unit
  unblocked : List TicketId

/-- The pinned scope holds, and no lease blocks the lineage. -/
def RecoveryChecks.clear (unblocked : List TicketId) : RecoveryChecks :=
  ⟨.holds, .ok (), .ok (), unblocked⟩

def operatorRequired (c : ArtifactCommit) : VoomError :=
  .conflict (s!"commit {c.id} requires an operator: intent {c.id} carries receipt " ++
    ArtifactCommit.receiptKind c.receipt ++ " and supplemental receipt " ++
    ArtifactCommit.receiptKind c.supplemental ++
    " against expected facts CommitExpectedFacts \x7b size_bytes: " ++
    toString c.expected.sizeBytes ++ ", content_hash: " ++ c.expected.contentHash.quote ++
    " \x7d; the record stays recovery_required")

/-- The intent is aborted, its record fails, and a successor is prepared, all or none. -/
def abortAndReprepare (cp : ControlPlane) (c : MediaCommit) (checks : RecoveryChecks) :
    Except VoomError ControlPlane := do
  let commit ← c.commit.markAborted
  let commit ← commit.markCommitFailed
  let cp := cp.setCommit { c with commit := commit }
  checks.prepare
  let successor := { c with commit := .createPending cp.commits.length c.commit.expected }
  return { cp with commits := cp.commits ++ [successor] }

def finalizeRecovered (cp : ControlPlane) (c : MediaCommit) (checks : RecoveryChecks) :
    Except VoomError ControlPlane := do
  cp.guardIntentScope c checks.scope
  checks.gate
  cp.convergeIntent c checks.scope checks.unblocked

/-- What an applied receipt observed, the original one before the supplemental one. -/
def appliedFacts (c : ArtifactCommit) : Option FileFacts :=
  match c.receipt, c.supplemental with
  | some (.applied observed), _ => some observed
  | _, some (.applied observed) => some observed
  | _, _ => none

def classifyRecoveryRequired (cp : ControlPlane) (c : MediaCommit) (checks : RecoveryChecks) :
    Except VoomError ControlPlane :=
  match appliedFacts c.commit with
  | some observed =>
      if observed = c.commit.expected then cp.finalizeRecovered c checks
      else .error (operatorRequired c.commit)
  | none =>
      if c.commit.supplemental = some (.outcomeUnknown RESOLVED_NOT_APPLIED_REASON) then
        cp.abortAndReprepare c checks
      else .error (operatorRequired c.commit)

/-- The classification of one member: whether it is proven applied. -/
def classifyMember (cp : ControlPlane) (c : MediaCommit) (checks : RecoveryChecks) :
    Except VoomError Bool := do
  require (c.commit.intent = .authorized ∨ c.commit.intent = .recoveryRequired)
    (.conflict "extraction recovery member is not fully applied; operator classification required")
  cp.guardIntentScope c checks.scope
  checks.gate
  return c.commit.provenApplied

/-- A member that stays behind. -/
def markMemberRecovery (c : ArtifactCommit) : Except VoomError ArtifactCommit := do
  let c ← if c.intent = .authorized then c.markRecoveryRequired else pure c
  c.markCommitRecoveryRequired

/-- `mark_extraction_recovery_in_tx`. -/
def markExtractionRecovery (cp : ControlPlane) (id : OperationId) (op : AudioOperation)
    (members : List MediaCommit) : Except VoomError ControlPlane := do
  let cp ← cp.updateCommits markMemberRecovery members
  let op ← op.markRecoveryRequired id cp.now
  return cp.setOperation id op

/-- `recover_extraction_group`: finishes the extraction when every member is proven
applied; otherwise puts it in recovery, and fails all the same. -/
def recoverExtractionGroup (cp : ControlPlane) (id : OperationId) (op : AudioOperation)
    (checks : RecoveryChecks) : Except VoomError ControlPlane := do
  let members ← op.commits.mapM fun commit =>
    find cp.commits[commit]? (.database "extraction recovery commit missing")
  require (op.descriptor.outputCount ≠ 0 ∧
      op.descriptor.outputCount ≤ MAX_COMMIT_GROUP_OUTPUTS ∧ op.publishable ∧ op.live cp.now)
    (.conflict "extraction recovery requires the entire live prepared operation")
  let proven ← members.mapM fun c => cp.classifyMember c checks
  if proven.all (fun applied => applied) then
    cp.finishExtractionGroup id op members checks.scope checks.unblocked
  else cp.markExtractionRecovery id op members

/-- Recovery of a commit outside a group. -/
def recoverScalar (cp : ControlPlane) (c : MediaCommit) (checks : RecoveryChecks) :
    ControlPlane :=
  match c.commit.intent, c.commit.receipt with
  | .pending, none | .authorized, none => cp.transact (cp.abortAndReprepare c checks)
  | .authorized, some _ =>
      -- a journaled intent enters recovery before it is classified
      match cp.updateCommit c (·.markRecoveryRequired) with
      | .ok cp' => cp'.transact (cp'.classifyRecoveryRequired c checks)
      | .error _ => cp
  | .recoveryRequired, _ => cp.transact (cp.classifyRecoveryRequired c checks)
  | .pending, some _ | .completed, _ | .aborted, _ => cp

/-- The state `recover_commit` leaves. -/
def recoverCommit (cp : ControlPlane) (handle : CommitId) (checks : RecoveryChecks) :
    ControlPlane :=
  match cp.commits.find? fun c => c.handle = handle && c.commit.openRecord with
  | none => cp
  | some c =>
      match AudioLedger.operationForCommit cp.operations c.commit.id with
      | .error _ => cp
      | .ok none => cp.recoverScalar c checks
      | .ok (some (id, op)) => cp.transact (cp.recoverExtractionGroup id op checks)

/-! ## What the calls leave of the ledgers

A row is written only under its live claim, so no call touches one that has lapsed.
-/

section Keeps
variable {cp cp' : ControlPlane} {c : MediaCommit} {context : CompletionContext} {id : OperationId}
  {op op' : AudioOperation} {scope : PinnedScope} {unblocked : List TicketId}
  {checks : RecoveryChecks} {update : ArtifactCommit → Except VoomError ArtifactCommit}
  {members : List MediaCommit} {evidence : OwnerEvidence} {commit : CommitId}
  {incarnation : NodeIncarnationId}

theorem setOperation_keeps (hop : cp.operations[id]? = some op) (h : op.Step cp.now op') :
    Keeps cp (cp.setOperation id op') :=
  ⟨rfl, .set hop h⟩

/-- The clock and the ledgers are left alone. -/
structure SameLedgers (cp cp' : ControlPlane) : Prop where
  now : cp'.now = cp.now
  operations : cp'.operations = cp.operations

theorem SameLedgers.keeps (h : SameLedgers cp cp') : Keeps cp cp' :=
  .of_eq h.now h.operations

theorem SameLedgers.trans {cp₁ cp₂ cp₃ : ControlPlane} (h : SameLedgers cp₁ cp₂)
    (h' : SameLedgers cp₂ cp₃) : SameLedgers cp₁ cp₃ :=
  ⟨h'.now.trans h.now, h'.operations.trans h.operations⟩

theorem updateCommit_same (h : cp.updateCommit c update = .ok cp') : SameLedgers cp cp' := by
  simp only [updateCommit, bind_ok, return_ok] at h
  obtain ⟨_, -, rfl⟩ := h
  exact ⟨rfl, rfl⟩

theorem updateCommits_same (h : cp.updateCommits update members = .ok cp') :
    SameLedgers cp cp' := by
  induction members generalizing cp with
  | nil => cases h; exact ⟨rfl, rfl⟩
  | cons c _ ih =>
    obtain ⟨_, hupdate, hrest⟩ := bind_ok.mp h
    exact (updateCommit_same hupdate).trans (ih hrest)

/-! ### Staging -/

theorem resolveAdmitted_row {kind : AudioKind} {attempt : DispatchAttempt}
    (h : cp.resolveAdmitted kind context = .ok (id, op, attempt)) :
    cp.operations[id]? = some op := by
  simp only [resolveAdmitted, bind_ok, find_ok] at h
  obtain ⟨_, hfound, ⟨_, _⟩, rfl, _, -, _, -, _, -, heq⟩ := h
  cases heq
  exact (AudioLedger.claimedForLease_some hfound).1

theorem bindAudio_step {attempt : DispatchAttempt} {commits : List CommitId} {now : Instant}
    (h : bindAudio op id attempt commits now = .ok op') : op.Step now op' := by
  simp only [bindAudio, bind_ok] at h
  obtain ⟨terminal, hterm, _, -, h⟩ := h
  have hstep : op.Step now terminal := updateDispatchStatus_step hterm
  split at h
  · exact hstep.trans (bindStaged_step h)
  · cases h
  · obtain ⟨_, hstaged, hprep⟩ := bind_ok.mp h
    exact hstep.trans ((stageOperation_step hstaged).trans (prepareFencedOperation_step hprep))

/-- Staging keeps the ledgers. -/
theorem stageAudio_keeps {kind : AudioKind} (h : cp.stageAudio kind context evidence = .ok cp') :
    Keeps cp cp' := by
  obtain ⟨⟨_, _, _⟩, hres, h⟩ := bind_ok.mp h
  have hop := resolveAdmitted_row hres
  dsimp only at h
  split at h
  · -- already staged: nothing is written
    obtain ⟨_, -, h⟩ := bind_ok.mp h
    obtain ⟨_, -, h⟩ := bind_ok.mp h
    split at h
    · obtain ⟨_, -, h⟩ := bind_ok.mp h
      cases h
      exact .refl cp
    · cases h
      exact .refl cp
  · obtain ⟨_, -, h⟩ := bind_ok.mp h
    obtain ⟨_, hbound, h⟩ := bind_ok.mp h
    cases h
    exact ⟨rfl, .set hop (bindAudio_step hbound)⟩

theorem stageScalar_same (h : cp.stageScalar context evidence = .ok cp') : SameLedgers cp cp' := by
  unfold stageScalar at h
  split at h <;> simp only [bind_ok, return_ok] at h
  · obtain ⟨_, -, _, -, rfl⟩ := h
    exact ⟨rfl, rfl⟩
  · obtain ⟨_, -, rfl⟩ := h
    exact ⟨rfl, rfl⟩

/-- A completion keeps them. -/
theorem remoteComplete_keeps (h : cp.remoteComplete context evidence unblocked = .ok cp') :
    Keeps cp cp' := by
  obtain ⟨_, -, h⟩ := bind_ok.mp h
  obtain ⟨_, -, h⟩ := bind_ok.mp h
  split at h
  · split at h
    · cases h
    · cases h
    · exact (stageScalar_same h).keeps
    · exact stageAudio_keeps h
  · exact releaseLease_keeps h

/-! ### Commits -/

theorem abortPendingOnDrift_keeps : Keeps cp (cp.abortPendingOnDrift commit) := by
  unfold abortPendingOnDrift
  split
  · exact .refl cp
  · split
    · exact .transact fun h => (updateCommit_same h).keeps
    · exact .refl cp

/-- An authorization keeps them. -/
theorem authorizeCommitIntent_keeps {gate : Except VoomError Unit} {fence : CommitFence} :
    Keeps cp (cp.authorizeCommitIntent commit scope gate incarnation fence) := by
  unfold authorizeCommitIntent
  split
  next h =>
    simp only [authorizePending, bind_ok] at h
    obtain ⟨c, -, _, -, _, -, _, -, hupdate⟩ := h
    exact (updateCommit_same hupdate).keeps
  · exact abortPendingOnDrift_keeps

theorem reportApplying_keeps (h : cp.reportApplying commit scope = .ok cp') : Keeps cp cp' := by
  obtain ⟨c, -, hupdate⟩ := bind_ok.mp h
  exact (updateCommit_same hupdate).keeps

theorem reportOutcome_keeps {evidence : CommitOutcomeEvidence}
    (h : cp.reportOutcome commit evidence scope = .ok cp') : Keeps cp cp' := by
  obtain ⟨c, -, h⟩ := bind_ok.mp h
  split at h <;> simp only [bind_ok] at h
  · obtain ⟨_, -, hupdate⟩ := h
    exact (updateCommit_same hupdate).keeps
  · obtain ⟨_, -, _, -, hupdate⟩ := h
    exact (updateCommit_same hupdate).keeps

/-! ### Completion -/

theorem finish_keeps (h : cp.finish context scope unblocked = .ok cp') : Keeps cp cp' := by
  obtain ⟨_, -, hrelease⟩ := bind_ok.mp h
  exact releaseLease_keeps hrelease

theorem finishSynthesis_keeps (h : cp.finishSynthesis c = .ok cp') : Keeps cp cp' := by
  obtain ⟨_, hfound, h⟩ := bind_ok.mp h
  split at h
  · cases h
    exact .refl cp
  · simp only [bind_ok, require_ok, return_ok] at h
    obtain ⟨_, ⟨-, hlive⟩, _, hfin, rfl⟩ := h
    exact setOperation_keeps (AudioLedger.claimedForLease_some hfound).1 (finalize_step hlive hfin)

theorem convergeIntent_keeps (h : cp.convergeIntent c scope unblocked = .ok cp') :
    Keeps cp cp' := by
  simp only [convergeIntent, bind_ok] at h
  obtain ⟨_, -, _, -, _, -, _, hupdate, _, hsynthesis, hfinish⟩ := h
  exact (updateCommit_same hupdate).keeps.trans
    ((finishSynthesis_keeps hsynthesis).trans (finish_keeps hfinish))

theorem completeCommitIntent_keeps {fence : CommitFence}
    (h : cp.completeCommitIntent commit fence scope unblocked = .ok cp') : Keeps cp cp' := by
  simp only [completeCommitIntent, bind_ok] at h
  obtain ⟨c, -, _, -, _, -, _, -, hconverge⟩ := h
  exact convergeIntent_keeps hconverge

theorem finishExtractionGroup_keeps (hop : cp.operations[id]? = some op)
    (h : cp.finishExtractionGroup id op members scope unblocked = .ok cp') : Keeps cp cp' := by
  obtain ⟨_, -, h⟩ := bind_ok.mp h
  split at h
  · cases h
  simp only [bind_ok] at h
  obtain ⟨_, -, cp₁, hrows, _, hcompl, hfinish⟩ := h
  have hsame := updateCommits_same hrows
  have hop₁ : cp₁.operations[id]? = some op := by rw [hsame.operations, hop]
  exact hsame.keeps.trans
    ((setOperation_keeps hop₁ (completeOperation_step hcompl)).trans (finish_keeps hfinish))

/-- The end of a group keeps them. -/
theorem completeCommitGroup_keeps {proof : CommitGroupProof}
    (h : cp.completeCommitGroup proof incarnation scope unblocked = .ok cp') : Keeps cp cp' := by
  simp only [completeCommitGroup, bind_ok, find_ok] at h
  obtain ⟨_, -, _, -, _, -, _, -, _, hgroup, ⟨_, _⟩, rfl, _, -, _, -, hfinish⟩ := h
  exact finishExtractionGroup_keeps (AudioLedger.operationForCommit_some hgroup) hfinish

/-! ### Recovery -/

theorem abortAndReprepare_keeps (h : cp.abortAndReprepare c checks = .ok cp') : Keeps cp cp' := by
  simp only [abortAndReprepare, bind_ok, return_ok] at h
  obtain ⟨_, -, _, -, _, -, rfl⟩ := h
  exact .of_eq rfl rfl

theorem classifyRecoveryRequired_keeps (h : cp.classifyRecoveryRequired c checks = .ok cp') :
    Keeps cp cp' := by
  unfold classifyRecoveryRequired at h
  split at h
  · split at h
    · simp only [finalizeRecovered, bind_ok] at h
      obtain ⟨_, -, _, -, hconverge⟩ := h
      exact convergeIntent_keeps hconverge
    · cases h
  · split at h
    · exact abortAndReprepare_keeps h
    · cases h

theorem markExtractionRecovery_keeps (hop : cp.operations[id]? = some op)
    (h : cp.markExtractionRecovery id op members = .ok cp') : Keeps cp cp' := by
  simp only [markExtractionRecovery, bind_ok, return_ok] at h
  obtain ⟨cp₁, hmems, _, hmarked, rfl⟩ := h
  have hsame := updateCommits_same hmems
  have hop₁ : cp₁.operations[id]? = some op := by rw [hsame.operations, hop]
  exact hsame.keeps.trans (setOperation_keeps hop₁ (markRecoveryRequired_step hmarked))

theorem recoverExtractionGroup_keeps (hop : cp.operations[id]? = some op)
    (h : cp.recoverExtractionGroup id op checks = .ok cp') : Keeps cp cp' := by
  simp only [recoverExtractionGroup, bind_ok] at h
  obtain ⟨_, -, _, -, _, -, h⟩ := h
  split at h
  · exact finishExtractionGroup_keeps hop h
  · exact markExtractionRecovery_keeps hop h

theorem recoverScalar_keeps : Keeps cp (cp.recoverScalar c checks) := by
  unfold recoverScalar
  split
  · exact .transact abortAndReprepare_keeps
  · exact .transact abortAndReprepare_keeps
  · split
    next hmark =>
      exact (updateCommit_same hmark).keeps.trans (.transact classifyRecoveryRequired_keeps)
    · exact .refl cp
  · exact .transact classifyRecoveryRequired_keeps
  · exact .refl cp
  · exact .refl cp
  · exact .refl cp

/-- A recovery keeps them. -/
theorem recoverCommit_keeps {handle : CommitId} : Keeps cp (cp.recoverCommit handle checks) := by
  unfold recoverCommit
  split
  · exact .refl cp
  split
  · exact .refl cp
  · exact recoverScalar_keeps
  next hgroup =>
    exact .transact (recoverExtractionGroup_keeps (AudioLedger.operationForCommit_some hgroup))

end Keeps
end ControlPlane
end Voom
