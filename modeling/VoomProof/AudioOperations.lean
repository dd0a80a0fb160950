import VoomProof.CommitIntent
import VoomProof.LeaseStore
import VoomProof.RustText

/-!
# The audio operation ledgers

Extraction and synthesis of audio are recorded before any encoder runs: one row per operation
key, in `audio_extract_operations` or `audio_synthesis_operations`, with its descriptors, the
dispatch generation, the attempts made, and a claim that ties it to the lease it was dispatched
under and expires with it.

The two repositories of `voom-store` make the same checks under different words, so a
row here has a `kind` and the errors depend on it. Updates that match a row by the
exact claim are always made with the claim just read from that row (or just written to
it), so what is left of the match is that the claim is still live.
-/

namespace Voom
open Fallible RustText List

inductive AudioKind where
  | extraction
  | synthesis
  deriving DecidableEq

/-! ## Descriptors -/

structure NewAudioExtractOperation where
  operationKey : String
  operationId : Option String
  sourceFileVersionId : Nat
  sourceBundleId : Nat
  sourceMediaSnapshotId : Nat
  deriving DecidableEq

structure NewAudioExtractOutput where
  outputId : Option String
  sourceSnapshotStreamId : String
  sourceProviderStreamIndex : Nat
  bundleRole : String
  targetPath : String
  deriving DecidableEq

structure NewAudioSynthesisOperation where
  operationKey : String
  plannedOperationId : String
  sourceFileVersionId : Nat
  sourceMediaSnapshotId : Nat
  targetCodec : String
  targetChannels : Nat
  container : String
  targetPath : String
  deriving DecidableEq

structure NewAudioSynthesisCompanion where
  companionId : String
  sourceSnapshotStreamId : String
  sourceProviderStreamIndex : Nat
  resultSnapshotStreamId : String
  deriving DecidableEq

/-- What an operation is planned from. -/
inductive AudioDescriptor where
  | extraction (operation : NewAudioExtractOperation) (outputs : List NewAudioExtractOutput)
  | synthesis (operation : NewAudioSynthesisOperation)
      (companions : List NewAudioSynthesisCompanion)
  deriving DecidableEq

namespace AudioDescriptor

def kind : AudioDescriptor → AudioKind
  | extraction _ _ => .extraction
  | synthesis _ _ => .synthesis

def operationKey : AudioDescriptor → String
  | extraction operation _ => operation.operationKey
  | synthesis operation _ => operation.operationKey

/-- How many files the operation publishes. -/
def outputCount : AudioDescriptor → Nat
  | extraction _ outputs => outputs.length
  | synthesis _ _ => 1

/-- The paths that the operation publishes at. -/
def targetPaths : AudioDescriptor → List String
  | extraction _ outputs => outputs.map (·.targetPath)
  | synthesis operation _ => [operation.targetPath]

def validCompanion (before : List NewAudioSynthesisCompanion) (c : NewAudioSynthesisCompanion) :
    Bool :=
  !blank c.companionId && !blank c.sourceSnapshotStreamId &&
    c.companionId = c.resultSnapshotStreamId &&
    before.all (fun b => b.sourceSnapshotStreamId ≠ c.sourceSnapshotStreamId &&
      b.resultSnapshotStreamId ≠ c.resultSnapshotStreamId &&
      b.sourceProviderStreamIndex < c.sourceProviderStreamIndex)

/-- Every companion is valid after those before it. -/
def validateCompanions (before : List NewAudioSynthesisCompanion) :
    List NewAudioSynthesisCompanion → Except VoomError Unit
  | [] => .ok ()
  | c :: rest =>
      if validCompanion before c then validateCompanions (c :: before) rest
      else .error
        (.config "audio synthesis companion descriptors are invalid or unordered")

def validateNewOperation : AudioDescriptor → Except VoomError Unit
  | extraction operation outputs => do
      require (operation.operationKey ≠ "")
        (.config "audio extraction operation key must not be empty")
      require (outputs ≠ [])
        (.config "audio extraction operation must contain at least one output")
  | synthesis operation companions => do
      require (¬ ([operation.operationKey, operation.plannedOperationId, operation.targetCodec,
            operation.container, operation.targetPath].any blank ∨ operation.targetChannels = 0))
        (.config "audio synthesis operation has empty identity or target fields")
      require (companions ≠ []) (.config "audio synthesis operation requires companions")
      validateCompanions [] companions

end AudioDescriptor

/-- A well-formed audio payload.  The bundle of an extraction is looked up when it is admitted, so
the one in this descriptor is not read. -/
structure AudioRequest where
  descriptor : AudioDescriptor
  /-- The locator of the source, after which a new bundle is named. -/
  sourcePath : String
  valid : descriptor.validateNewOperation = .ok ()
  deriving DecidableEq

/-! ## Rows -/

structure AudioClaim where
  leaseId : LeaseId
  token : String
  expiresAt : Instant
  deriving DecidableEq

inductive DispatchAttemptStatus where
  | active
  | terminal
  | quarantined
  | quiesced
  deriving DecidableEq

structure DispatchAttempt where
  id : Nat
  generation : Nat
  leaseId : LeaseId
  workerId : WorkerId
  status : DispatchAttemptStatus
  deriving DecidableEq

/-- A synthesis is never `prepared` nor `recoveryRequired`. -/
inductive AudioOperationState where
  | planned
  | staged
  | prepared
  | recoveryRequired
  | committed
  deriving DecidableEq

abbrev OperationId := Nat

structure AudioOperation where
  descriptor : AudioDescriptor
  state : AudioOperationState
  generation : Nat
  claim : Option AudioClaim
  attempts : List DispatchAttempt
  /-- The commits bound to the outputs, in order. -/
  commits : List CommitId
  deriving DecidableEq

namespace AudioOperation

/-- The row of a new operation. -/
def planned (descriptor : AudioDescriptor) : AudioOperation where
  descriptor := descriptor
  state := .planned
  generation := 0
  claim := none
  attempts := []
  commits := []

def kind (op : AudioOperation) : AudioKind := op.descriptor.kind

def key (op : AudioOperation) : String := op.descriptor.operationKey

/-- The claim has not expired. -/
def live (op : AudioOperation) (now : Instant) : Bool :=
  op.claim.any fun claim => now < claim.expiresAt

def currentAttempt (op : AudioOperation) : Option DispatchAttempt :=
  op.attempts.find? fun attempt => attempt.generation = op.generation

def notExactReplay (d : AudioDescriptor) : VoomError :=
  match d.kind with
  | .extraction => .config
      s!"audio extraction operation {d.operationKey} does not match persisted descriptor"
  | .synthesis => .conflict
      s!"audio synthesis operation {d.operationKey} does not match persisted descriptors"

def requireExactReplay (op : AudioOperation) (d : AudioDescriptor) : Except VoomError Unit :=
  require (op.descriptor = d) (notExactReplay d)

def claimInvalid : AudioKind → VoomError
  | .extraction => .config
      "audio extraction claim requires a non-empty token and future expiry"
  | .synthesis => .config "audio synthesis claim requires identity, token, and future expiry"

def claimHeld (op : AudioOperation) : VoomError :=
  match op.kind with
  | .extraction => .config
      s!"audio extraction operation {op.key} claim is held or generation changed"
  | .synthesis => .conflict
      s!"audio synthesis operation {op.key} claim was stale or already changed"

def acquireClaim (op : AudioOperation) (claim : AudioClaim) (now : Instant) :
    Except VoomError AudioOperation := do
  require (claim.token ≠ "" ∧ now < claim.expiresAt) (claimInvalid op.kind)
  require (op.state ≠ .committed ∧ ∀ held ∈ op.claim, held.expiresAt ≤ now ∨
      (held.leaseId = claim.leaseId ∧ held.token = claim.token)) op.claimHeld
  return { op with claim := some claim }

def notPlannedLive (op : AudioOperation) : VoomError :=
  match op.kind with
  | .extraction => .config
      s!"audio extraction operation {op.key} claim is not live for generation {op.generation}"
  | .synthesis => .conflict s!"audio synthesis operation {op.key} lost its planned claim"

def recordDispatchAttempt (op : AudioOperation) (id : Nat) (leaseId : LeaseId)
    (workerId : WorkerId) (now : Instant) : Except VoomError AudioOperation := do
  require (op.state = .planned ∧ op.live now) op.notPlannedLive
  return { op with attempts := ⟨id, op.generation, leaseId, workerId, .active⟩ :: op.attempts }

def setStatus (op : AudioOperation) (status : DispatchAttemptStatus) : AudioOperation :=
  { op with
    attempts := op.attempts.map fun attempt =>
      if attempt.generation = op.generation then { attempt with status := status } else attempt }

def notActive (kind : AudioKind) (attempt : DispatchAttempt) : VoomError :=
  match kind with
  | .extraction => .conflict
      s!"audio extraction dispatch attempt {attempt.id} lost its claim or is not active"
  | .synthesis => .conflict
      s!"audio synthesis dispatch attempt {attempt.id} was stale or already changed"

/-- Move the active attempt of the current generation to `status`. -/
def updateDispatchStatus (op : AudioOperation) (attempt : DispatchAttempt)
    (status : DispatchAttemptStatus) (now : Instant) : Except VoomError AudioOperation := do
  require (attempt.status = .active ∧ op.live now) (notActive op.kind attempt)
  return op.setStatus status

def markDispatchTerminal (op : AudioOperation) (attempt : DispatchAttempt) (now : Instant) :
    Except VoomError AudioOperation :=
  op.updateDispatchStatus attempt .terminal now

/-- `require_one_operation_update`. -/
def notClaimedIn (id : OperationId) (expected : String) : VoomError :=
  .conflict s!"audio extraction operation {id} is not claimed in {expected}"

def stageOperation (op : AudioOperation) (id : OperationId) (now : Instant) :
    Except VoomError AudioOperation := do
  require (op.state = .planned ∧ op.live now) (notClaimedIn id "planned")
  return { op with state := .staged }

def prepareFencedOperation (op : AudioOperation) (id : OperationId) (commits : List CommitId)
    (now : Instant) : Except VoomError AudioOperation := do
  require (op.state = .staged ∧ op.live now) (notClaimedIn id "staged")
  return { op with state := .prepared, commits := commits }

/-- The states an extraction is published or recovered from. -/
def publishable (op : AudioOperation) : Bool :=
  op.state = .prepared || op.state = .recoveryRequired

/-- A committed extraction keeps its claim. -/
def completeOperation (op : AudioOperation) (id : OperationId) (now : Instant) :
    Except VoomError AudioOperation := do
  require (op.publishable ∧ op.live now) (notClaimedIn id "prepared/recovery")
  return { op with state := .committed }

def markRecoveryRequired (op : AudioOperation) (id : OperationId) (now : Instant) :
    Except VoomError AudioOperation := do
  require (op.publishable ∧ op.live now) (notClaimedIn id "prepared/recovery_required")
  return { op with state := .recoveryRequired }

/-- `bind_staged_in_tx` and `record_validation_in_tx` of a synthesis. -/
def bindStaged (op : AudioOperation) (commit : CommitId) (now : Instant) :
    Except VoomError AudioOperation := do
  require (op.state = .planned ∧ op.live now) op.notPlannedLive
  return { op with state := .staged, commits := [commit] }

/-- A committed synthesis gives its claim back. -/
def finalize (op : AudioOperation) : Except VoomError AudioOperation := do
  require (op.state = .staged)
    (.conflict "audio synthesis operation is not staged for finalization")
  return { op with state := .committed, claim := none }

end AudioOperation

/-! ## Tables

The rows of both ledgers, in one list; a row's identifier is its position.
-/

namespace AudioLedger
open AudioOperation

/-- The row of an operation key. -/
def lookup (ops : List AudioOperation) (d : AudioDescriptor) : Option OperationId :=
  ops.findIdx? fun op => op.kind = d.kind && op.key = d.operationKey

/-- The constraints of `audio_extract_operation_outputs`: a target path is unique in the whole
table, an output id in its operation. -/
def insertOutputs (paths ids : List String) (ordinal : Nat) :
    List NewAudioExtractOutput → Except VoomError Unit
  | [] => .ok ()
  | output :: rest => do
      require (output.sourceSnapshotStreamId ≠ "" ∧ output.targetPath ≠ "" ∧
          output.bundleRole ∈ ["commentary_audio", "external_audio"] ∧
          output.targetPath ∉ paths ∧ ∀ id ∈ output.outputId, id ∉ ids)
        (.database s!"audio_extract_operation_outputs insert ordinal {ordinal}")
      insertOutputs (output.targetPath :: paths) (output.outputId.toList ++ ids) (ordinal + 1) rest

/-- Whether the rows of a new operation can be inserted. -/
def insertPlanned (ops : List AudioOperation) (d : AudioDescriptor) : Except VoomError Unit :=
  let paths := (ops.filter (·.kind = d.kind)).flatMap (·.descriptor.targetPaths)
  match d with
  | .extraction _ outputs => insertOutputs paths [] 0 outputs
  | .synthesis operation _ =>
      require (operation.targetPath ∉ paths) (.database "insert audio synthesis operation")

def createPlanned (ops : List AudioOperation) (d : AudioDescriptor) :
    Except VoomError (OperationId × AudioOperation × List AudioOperation) := do
  d.validateNewOperation
  match lookup ops d with
  | some id =>
      let op ← find ops[id]? (.internal "audio operation row vanished")
      op.requireExactReplay d
      return (id, op, ops)
  | none =>
      insertPlanned ops d
      return (ops.length, planned d, ops ++ [planned d])

/-- The next attempt id of a ledger. -/
def nextAttemptId (ops : List AudioOperation) (kind : AudioKind) : Nat :=
  ((ops.filter (·.kind = kind)).map (·.attempts.length)).sum + 1

/-- The row is of this ledger and claimed under the lease. -/
def claimedUnder (kind : AudioKind) (leaseId : LeaseId) (op : AudioOperation) : Bool :=
  op.kind = kind && op.claim.any (fun claim => claim.leaseId = leaseId)

def ambiguous : AudioKind → VoomError
  | .extraction => .database "source lease has ambiguous audio extraction operations"
  | .synthesis => .database "source lease has ambiguous audio synthesis operations"

/-- `claimed_for_lease_in_tx`: the row claimed under a lease, if there is one. -/
def claimedForLease (ops : List AudioOperation) (kind : AudioKind) (leaseId : LeaseId) :
    Except VoomError (Option (OperationId × AudioOperation)) :=
  match (List.range ops.length).filterMap
      (fun id => ((ops[id]?).filter (claimedUnder kind leaseId)).map (id, ·)) with
  | [] => .ok none
  | [found] => .ok (some found)
  | _ => .error (ambiguous kind)

/-- `operation_for_commit_in_tx`: the extraction one of whose outputs the commit is of. -/
def operationForCommit (ops : List AudioOperation) (commit : CommitId) :
    Except VoomError (Option (OperationId × AudioOperation)) :=
  match ops.findIdx? fun op => op.kind = .extraction && commit ∈ op.commits with
  | none => .ok none
  | some id => do
      let op ← find ops[id]? (.internal "audio operation row vanished")
      let claim ← find op.claim (.database "extraction commit has no operation claim")
      match ← claimedForLease ops .extraction claim.leaseId with
      | some (found, _) =>
          require (found = id) (.database "extraction commit association is ambiguous")
          return some (id, op)
      | none => .error (.database "extraction commit has no operation claim")

def renewalRefused (kind : AudioKind) (leaseId : LeaseId) : VoomError :=
  match kind with
  | .extraction => .conflict
      s!"workflow lease {leaseId} heartbeat cannot renew an expired audio extraction claim"
  | .synthesis => .conflict
      s!"workflow lease {leaseId} heartbeat cannot renew an expired audio synthesis claim"

/-- Extend the claim of a row that is claimed under the lease and not committed. -/
def renew (kind : AudioKind) (leaseId : LeaseId) (expiresAt : Instant) (op : AudioOperation) :
    AudioOperation :=
  if claimedUnder kind leaseId op ∧ op.state ≠ .committed then
    { op with claim := op.claim.map fun claim => { claim with expiresAt := expiresAt } }
  else op

/-- All claims of the lease are renewed, or the call fails. -/
def renewClaimsForLease (ops : List AudioOperation) (kind : AudioKind) (leaseId : LeaseId)
    (expiresAt now : Instant) : Except VoomError (List AudioOperation) := do
  require (∀ op ∈ ops, claimedUnder kind leaseId op → op.state ≠ .committed → op.live now)
    (renewalRefused kind leaseId)
  return ops.map (renew kind leaseId expiresAt)

end AudioLedger

/-! ## What a call can do to a row -/

namespace AudioOperation

/-- An attempt is recorded for the current generation. -/
def Dispatched (op : AudioOperation) : Prop :=
  ∃ attempt ∈ op.attempts, attempt.generation = op.generation

/-- The row is not committed and its claim has run out. -/
def Lapsed (now : Instant) (op : AudioOperation) : Prop :=
  op.state ≠ .committed ∧ op.live now = false

/-- What a call at `now` can make of a row: a dispatched row stays dispatched, and once
it has lapsed nothing touches it. -/
structure Step (now : Instant) (op op' : AudioOperation) : Prop where
  descriptor : op'.descriptor = op.descriptor
  dispatched : op.Dispatched → op'.Dispatched
  lapsed : op.Dispatched → op.Lapsed now → op' = op

variable {op op' op'' : AudioOperation} {now : Instant}

theorem currentAttempt_isSome : op.currentAttempt.isSome ↔ op.Dispatched := by
  simp [currentAttempt, Dispatched]

theorem Step.refl (op : AudioOperation) : op.Step now op :=
  ⟨rfl, id, fun _ _ => rfl⟩

theorem Step.trans (h : op.Step now op') (h' : op'.Step now op'') : op.Step now op'' := by
  refine ⟨h'.descriptor.trans h.descriptor, h'.dispatched ∘ h.dispatched, fun hd hl => ?_⟩
  have heq : op' = op := h.lapsed hd hl
  subst heq
  exact h'.lapsed hd hl

/-- A live row has not lapsed: it may change in any way that keeps it dispatched. -/
theorem Step.of_live (hlive : op.live now = true) (hdesc : op'.descriptor = op.descriptor)
    (hdisp : op.Dispatched → op'.Dispatched) : op.Step now op' := by
  refine ⟨hdesc, hdisp, fun _ hlapsed => ?_⟩
  have hdead : op.live now = false := hlapsed.2
  rw [hlive] at hdead
  cases hdead

/-- Most updates match the row by its live claim. -/
theorem step_of_guarded {p : Prop} [Decidable p] {e : VoomError} {next : AudioOperation}
    (h : (do require (p ∧ op.live now) e; return next) = Except.ok op')
    (hdesc : next.descriptor = op.descriptor)
    (hdisp : op.Dispatched → next.Dispatched) : op.Step now op' := by
  simp only [bind_ok, require_ok, return_ok] at h
  obtain ⟨_, ⟨-, hlive⟩, rfl⟩ := h
  exact .of_live hlive hdesc hdisp

theorem dispatched_setStatus (status : DispatchAttemptStatus) (h : op.Dispatched) :
    (op.setStatus status).Dispatched := by
  obtain ⟨_, hmem, hgen⟩ := h
  refine ⟨_, mem_map_of_mem hmem, ?_⟩
  rw [if_pos hgen]
  exact hgen

theorem updateDispatchStatus_step {attempt : DispatchAttempt} {status : DispatchAttemptStatus}
    (h : op.updateDispatchStatus attempt status now = .ok op') : op.Step now op' :=
  step_of_guarded h rfl (dispatched_setStatus status)

section Moves
variable {id : OperationId}

theorem stageOperation_step (h : op.stageOperation id now = .ok op') : op.Step now op' :=
  step_of_guarded h rfl (fun hd => hd)

theorem prepareFencedOperation_step {commits : List CommitId}
    (h : op.prepareFencedOperation id commits now = .ok op') : op.Step now op' :=
  step_of_guarded h rfl (fun hd => hd)

theorem completeOperation_step (h : op.completeOperation id now = .ok op') : op.Step now op' :=
  step_of_guarded h rfl (fun hd => hd)

theorem markRecoveryRequired_step (h : op.markRecoveryRequired id now = .ok op') :
    op.Step now op' :=
  step_of_guarded h rfl (fun hd => hd)

theorem bindStaged_step {commit : CommitId} (h : op.bindStaged commit now = .ok op') :
    op.Step now op' :=
  step_of_guarded h rfl (fun hd => hd)

/-- The call itself does not look at the claim. -/
theorem finalize_step (hlive : op.live now = true) (h : op.finalize = .ok op') :
    op.Step now op' := by
  simp only [finalize, bind_ok, return_ok] at h
  obtain ⟨_, -, rfl⟩ := h
  exact .of_live hlive rfl (fun hd => hd)

end Moves
end AudioOperation

namespace AudioLedger
open AudioOperation ListUpdate

variable {now : Instant} {ops ops' ops'' : List AudioOperation} {id : OperationId}
  {op : AudioOperation}

/-- What a call at `now` can make of the rows: each makes a step, and a row that is new
is dispatched. -/
structure Step (now : Instant) (ops ops' : List AudioOperation) : Prop where
  row : ∀ {id : OperationId} {op : AudioOperation}, ops[id]? = some op →
    ∃ op', ops'[id]? = some op' ∧ op.Step now op'
  new : ∀ {id : OperationId} {op' : AudioOperation}, ops'[id]? = some op' →
    ops[id]? = none → op'.Dispatched

theorem Step.refl (ops : List AudioOperation) : Step now ops ops :=
  ⟨fun h => ⟨_, h, .refl _⟩, fun h hnone => by rw [hnone] at h; cases h⟩

theorem Step.trans (h : Step now ops ops') (h' : Step now ops' ops'') : Step now ops ops'' := by
  constructor
  · intro _ _ hop
    obtain ⟨_, hop', hstep⟩ := h.row hop
    obtain ⟨op'', hop'', hstep'⟩ := h'.row hop'
    exact ⟨op'', hop'', hstep.trans hstep'⟩
  · intro id _ hop'' hnone
    cases hop' : ops'[id]? with
    | none => exact h'.new hop'' hop'
    | some op' =>
      have hdisp : op'.Dispatched := h.new hop' hnone
      obtain ⟨_, hop₂, hstep⟩ := h'.row hop'
      rw [hop''] at hop₂
      cases hop₂
      exact hstep.dispatched hdisp

/-- One row makes a step. -/
theorem Step.set {op' : AudioOperation} (hop : ops[id]? = some op) (h : op.Step now op') :
    Step now ops (ops.set id op') := by
  constructor
  · intro j _ hrow
    exact exists_getElem?_set (R := AudioOperation.Step now) .refl hop h hrow
  · intro j _ hrow hnone
    rw [getElem?_set_at hop] at hrow
    by_cases hj : j = id
    · subst hj; rw [hop] at hnone; cases hnone
    · rw [if_neg hj, hnone] at hrow; cases hrow

/-- Every row makes a step. -/
theorem Step.map {f : AudioOperation → AudioOperation} (h : ∀ op ∈ ops, op.Step now (f op)) :
    Step now ops (ops.map f) := by
  constructor
  · intro _ op hop
    exact ⟨f op, by rw [getElem?_map, hop]; rfl, h op (mem_of_getElem? hop)⟩
  · intro _ _ hop' hnone
    rw [getElem?_map, hnone] at hop'
    cases hop'

/-- A dispatched row is appended. -/
theorem Step.concat (h : op.Dispatched) : Step now ops (ops ++ [op]) := by
  constructor
  · intro _ row hrow
    have hlt := lt_length hrow
    exact ⟨row, by rw [List.getElem?_append_left hlt, hrow], .refl row⟩
  · intro _ _ hrow hnone
    rcases getElem?_concat_cases hrow with hold | ⟨-, rfl⟩
    · rw [hnone] at hold; cases hold
    · exact h

theorem renewClaimsForLease_step {kind : AudioKind} {leaseId : LeaseId} {expiresAt : Instant}
    (h : renewClaimsForLease ops kind leaseId expiresAt now = .ok ops') : Step now ops ops' := by
  simp only [renewClaimsForLease, bind_ok, require_ok, return_ok] at h
  obtain ⟨_, hlive, rfl⟩ := h
  refine Step.map fun op hop => ?_
  unfold renew
  split
  next hclaimed =>
    exact .of_live (hlive op hop hclaimed.1 hclaimed.2) rfl (fun hd => hd)
  · exact .refl op

/-- Every row has been dispatched. -/
def AllDispatched (ops : List AudioOperation) : Prop := ∀ op ∈ ops, op.Dispatched

theorem AllDispatched.step (hops : AllDispatched ops) (h : Step now ops ops') :
    AllDispatched ops' := by
  intro _ hmem
  obtain ⟨id, hid⟩ := mem_iff_getElem?.mp hmem
  cases hop : ops[id]? with
  | none => exact h.new hid hop
  | some op =>
    obtain ⟨_, hop₂, hstep⟩ := h.row hop
    rw [hid] at hop₂
    cases hop₂
    exact hstep.dispatched (hops op (mem_of_getElem? hop))

/-- A lapsed row stays as it is. -/
theorem Step.keeps_lapsed (h : Step now ops ops') (hops : AllDispatched ops)
    (hop : ops[id]? = some op) (hlapsed : op.Lapsed now) : ops'[id]? = some op := by
  obtain ⟨_, hop', hstep⟩ := h.row hop
  rw [hop', hstep.lapsed (hops op (mem_of_getElem? hop)) hlapsed]

theorem claimedForLease_some {kind : AudioKind} {leaseId : LeaseId}
    (h : claimedForLease ops kind leaseId = .ok (some (id, op))) :
    ops[id]? = some op ∧ claimedUnder kind leaseId op = true := by
  unfold claimedForLease at h
  split at h
  · cases h
  next hfound =>
    cases h
    have hmem : (id, op) ∈ (range ops.length).filterMap
        (fun id => ((ops[id]?).filter (claimedUnder kind leaseId)).map (id, ·)) := by
      rw [hfound]; exact mem_singleton.mpr rfl
    obtain ⟨j, -, hj⟩ := mem_filterMap.mp hmem
    obtain ⟨_, hrow, heq⟩ := Option.map_eq_some_iff.mp hj
    cases heq
    exact Option.filter_eq_some_iff.mp hrow
  · cases h

theorem operationForCommit_some {commit : CommitId}
    (h : operationForCommit ops commit = .ok (some (id, op))) : ops[id]? = some op := by
  unfold operationForCommit at h
  split at h
  · cases h
  · simp only [bind_ok, find_ok] at h
    obtain ⟨_, hop', _, -, _, -, h⟩ := h
    split at h
    · simp only [bind_ok] at h
      obtain ⟨_, -, heq⟩ := h
      cases heq
      exact hop'
    · cases h

end AudioLedger
end Voom
