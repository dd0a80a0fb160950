import VoomProof.CommitExclusion
import VoomProof.IdentityStore

/-!
# Finalizing a destructive commit

The third call of the commit gate, with the identity tables it writes
(`commit_safety_gate/finalize.rs`). The caller has changed the file system by then, so an
applied commit has two ends only. Under a savepoint the gate walks the closure once more,
compares it, the leases and the row epochs with what was authorized, and retires or replaces the
target location; if anything goes wrong, the savepoint is rolled back and the intent left to be
recovered.

`GateWorld` has the gate and the identity tables side by side, with every call on either.
`finalize_refines` connects it with the gate alone. `finalize_all_or_nothing` is about every
run from the call that authorized a commit to the one that finalizes it.
-/

namespace Voom
open ListUpdate Fallible Runs Option List

/-- Where the file is after a commit. -/
structure FileLocationProposal where
  storageRootId : StorageRootId
  providerRelativeLocator : String
  proof : Option LocationProof
  deriving DecidableEq

/-! ## The durable mutation -/

def expectedEpochFor (snapshot : List TargetRowEpochTriple) (kind : TargetMemberKind) (id : Nat) :
    Except VoomError Nat := do
  let triple ← find (snapshot.find? fun t => t.kind = kind && t.id = id)
    (.internal s!"finalize: target ({kind.name}, {id}) absent from target_row_epochs snapshot")
  return triple.epoch

/-- The new location of a target, on the version of the old one. -/
def FileLocationProposal.onVersion (proposal : FileLocationProposal) (versionId : FileVersionId) :
    IdentityStore.NewFileLocation :=
  ⟨versionId, proposal.storageRootId, proposal.providerRelativeLocator, proposal.proof⟩

def dispatchReplacement (identity : IdentityStore) (snapshot : List TargetRowEpochTriple)
    (retired : FileLocationId) (new : FileLocationProposal) : Except VoomError IdentityStore := do
  let expected ← expectedEpochFor snapshot .fileLocation retired
  let retiredRow ← find identity.locations[retired]?
    (.conflict s!"finalize: retired file_location {retired} not found")
  let (_, identity) ← identity.replaceFileLocation retired expected
    (new.onVersion retiredRow.fileVersionId)
  return identity

def dispatchDurableMutation (identity : IdentityStore) (snapshot : List TargetRowEpochTriple) :
    CommitTarget FileLocationProposal → Except VoomError IdentityStore
  | .deleteFileLocation id => do
      let expected ← expectedEpochFor snapshot .fileLocation id
      identity.retireFileLocation id expected
  | .replaceFileLocation retired new | .moveFileLocation retired new =>
      dispatchReplacement identity snapshot retired new

/-! ## The gate and the identity tables -/

/-- What a call of the gate depends on beside the tables. -/
structure GateEnv where
  aliases : FileVersionId → Except AliasResolutionError (List FileLocationId)
  revalidate : List EvidenceId → Except VoomError (List EvidenceRevalidationResult)
  appendEvent : Except VoomError Unit
  /-- The events that are written after the savepoint has been rolled back. -/
  appendRecovery : Except VoomError Unit

/-- The view of the gate on the identity tables. -/
def GateEnv.view (env : GateEnv) (identity : IdentityStore) : GateView FileLocationProposal where
  walk := buildClosure identity.tables env.aliases
  revalidate := env.revalidate
  hasRow := identity.hasRow
  rowEpoch := identity.rowEpoch
  dispatch target snapshot := (dispatchDurableMutation identity snapshot target).map fun _ => ()
  appendEvent := env.appendEvent

structure GateWorld where
  gate : GateStore FileLocationProposal
  identity : IdentityStore
  deriving DecidableEq

namespace GateWorld
open GateStore

def authorize (env : GateEnv) (w : GateWorld) (commitId : CommitId) (now : Instant) :
    Except VoomError (AuthorizeOutcome × GateWorld) := do
  let (outcome, gate) ← w.gate.authorize (env.view w.identity) commitId now
  return (outcome, { w with gate := gate })

/-- What an applied commit comes to: the intent, the identity tables and the answer. -/
structure Applied where
  row : IntentRow FileLocationProposal
  identity : IdentityStore
  closureFinal : AffectedScopeClosure
  result : CommitGateResult

/-- What is done under the savepoint. -/
def finalizeAppliedInner (env : GateEnv) (w : GateWorld)
    (intent : AuthorizedIntent FileLocationProposal) (permit : CommitPermit)
    (observed : Option AffectedScopeClosure) (now : Instant) : Except VoomError Applied := do
  let recheck ← w.gate.runPhaseCTripWires (env.view w.identity) intent permit observed now
  match recheck with
  | .pass closureFinal =>
      let identity ← dispatchDurableMutation w.identity intent.targetRowEpochs intent.row.target
      env.appendEvent
      return ⟨completedRow intent.row, identity, closureFinal, .allowed⟩
  | .trip reason closureFinal result =>
      env.appendEvent
      return ⟨recoveryRow intent.row reason, w.identity, closureFinal, result⟩

/-- The savepoint around an applied commit: after a failure the tables are as before, and the
intent is to be recovered. -/
def finalizeApplied (env : GateEnv) (w : GateWorld)
    (intent : AuthorizedIntent FileLocationProposal) (permit : CommitPermit)
    (observed : Option AffectedScopeClosure) (now : Instant) : Except VoomError Applied :=
  match w.finalizeAppliedInner env intent permit observed now with
  | .ok applied => .ok applied
  | .error inner => do
      env.appendRecovery
      return ⟨recoveryRow intent.row "mutation_failed", w.identity, .empty,
        .blockedByMutationFailed inner⟩

def finalizeNotPerformed (env : GateEnv) (w : GateWorld)
    (intent : AuthorizedIntent FileLocationProposal) : Except VoomError Applied := do
  env.appendEvent
  return ⟨abortedRow intent.row "operator_cancel", w.identity, intent.closureAuthorized,
    .cancelledAfterAuthorize⟩

def finalizeIntent (env : GateEnv) (w : GateWorld)
    (intent : AuthorizedIntent FileLocationProposal) (permit : CommitPermit) (now : Instant) :
    MutationOutcome → Except VoomError Applied
  | .notPerformed => w.finalizeNotPerformed env intent
  | .applied observed => w.finalizeApplied env intent permit observed now

def finalize (env : GateEnv) (w : GateWorld) (permit : CommitPermit) (outcome : MutationOutcome)
    (now : Instant) : Except VoomError (FinalizeOutcome × GateWorld) := do
  let intent ← w.gate.readAuthorizedIntent permit.commitId permit.epoch
  let applied ← w.finalizeIntent env intent permit now outcome
  return (finalizeOutcome
      ⟨permit.commitId, intent.row.closureInitial, intent.closureAuthorized, applied.closureFinal,
        permit.evaluatedLeaseIds, permit.revalidatedEvidence, applied.result⟩,
    ⟨w.gate.setIntent permit.commitId applied.row, applied.identity⟩)

/-! ## Runs -/

inductive Call where
  | prepare (env : GateEnv) (input : DestructiveCommit FileLocationProposal)
  | authorize (env : GateEnv) (commitId : CommitId)
  | finalize (env : GateEnv) (permit : CommitPermit) (outcome : MutationOutcome)
  | abort (commitId : CommitId) (reason : AbortReason)
  | acquire (view : LeaseView) (kind : UseLeaseKind) (scope : LeaseScope)
      (blockingMode : BlockingMode) (ttl : Option Int)
  | heartbeat (leaseId : UseLeaseId)
  | release (leaseId : UseLeaseId) (reason : UseLeaseReleaseReason)
  | forceRelease (leaseId : UseLeaseId)
  | recoverStaleIssuer (leaseId : UseLeaseId)
  | expireDue
  /-- Somebody else writes the identity tables. -/
  | identity (call : IdentityStore.Call)

structure Event where
  now : Instant
  call : Call

/-- A call of the gate that leaves the identity tables alone. -/
def onGate (w : GateWorld) (now : Instant) (c : GateCall FileLocationProposal) : GateWorld :=
  { w with gate := w.gate.call now c }

def call (w : GateWorld) (now : Instant) : Call → GateWorld
  | .prepare env input => w.onGate now (.prepare (env.view w.identity) input)
  | .authorize env commitId => w.onGate now (.authorize (env.view w.identity) commitId)
  | .finalize env permit outcome =>
    match w.finalize env permit outcome now with
    | .ok (_, w') => w'
    | .error _ => w
  | .abort commitId reason => w.onGate now (.abort commitId reason)
  | .acquire view kind scope blockingMode ttl =>
      w.onGate now (.acquire view kind scope blockingMode ttl)
  | .heartbeat leaseId => w.onGate now (.heartbeat leaseId)
  | .release leaseId reason => w.onGate now (.release leaseId reason)
  | .forceRelease leaseId => w.onGate now (.forceRelease leaseId)
  | .recoverStaleIssuer leaseId => w.onGate now (.recoverStaleIssuer leaseId)
  | .expireDue => w.onGate now .expireDue
  | .identity c =>
    match w.identity.call w.gate.consultPendingCommitLock c with
    | .ok identity => { w with identity := identity }
    | .error _ => w

def step (w : GateWorld) (e : Event) : Option GateWorld :=
  let w' := w.call e.now e.call
  some { w' with gate := { w'.gate with clock := e.now } }

end GateWorld

/-! ## Intents keep their rows -/

namespace GateStore
variable {Proposal : Type} {s s' s'' : GateStore Proposal} {now : Instant}
  {hasRow : LeaseScope → Bool} {view : GateView Proposal} {commitId : CommitId}
  {permit : CommitPermit} {closure : AffectedScopeClosure} {snapshot : List TargetRowEpochTriple}
  {row : IntentRow Proposal} {kind : TargetMemberKind}

/-- Rows stay as they are as long as their epoch does. -/
def Advances (s s' : GateStore Proposal) : Prop :=
  ∀ (commitId : CommitId) (row : IntentRow Proposal), s.intents[commitId]? = some row →
    ∃ row', s'.intents[commitId]? = some row' ∧ (row' = row ∨ row.epoch < row'.epoch)

theorem Advances.refl (s : GateStore Proposal) : Advances s s :=
  fun _ row hrow => ⟨row, hrow, .inl rfl⟩

theorem Advances.trans (h : Advances s s') (h' : Advances s' s'') : Advances s s'' := by
  intro commitId row hrow
  obtain ⟨row', hrow', hmoved⟩ := h commitId row hrow
  obtain ⟨row'', hrow'', hmoved'⟩ := h' commitId row' hrow'
  refine ⟨row'', hrow'', ?_⟩
  rcases hmoved with rfl | hlt <;> rcases hmoved' with rfl | hlt'
  · exact .inl rfl
  · exact .inr hlt'
  · exact .inr hlt
  · exact .inr (hlt.trans hlt')

theorem IntentMove.advances (h : IntentMove hasRow s s') : Advances s s' := by
  intro id row hrow
  cases h with
  | kept h => exact ⟨row, h ▸ hrow, .inl rfl⟩
  | added _ _ h =>
    refine ⟨row, ?_, .inl rfl⟩
    rw [h, List.getElem?_append_left (lt_length hrow), hrow]
  | @moved commitId _ row' hold _ _ h =>
    rw [h]
    by_cases hid : id = commitId
    · subst hid
      obtain rfl := some_unique hrow hold
      have hlt := lt_length hrow
      exact ⟨row', getElem?_set_self hlt, .inr (by omega)⟩
    · exact ⟨row, (getElem?_set_ne (Ne.symm hid)).trans hrow, .inl rfl⟩

theorem call_move (s : GateStore Proposal) (now : Instant) (c : GateCall Proposal) :
    IntentMove (c.rows hasRow) s (s.call now c) := by
  rcases call_cases s now hasRow c with hdoes | ⟨_, rfl, hrenews⟩
  · exact hdoes.intents
  · exact .kept hrenews.intents_eq

/-! ### A permit and its intent -/

/-- `authorize` grants the permit for an intent. -/
structure Granted (view : GateView Proposal) (s s' : GateStore Proposal) (now : Instant)
    (permit : CommitPermit) (row : IntentRow Proposal) : Prop where
  found : s.intents[permit.commitId]? = some row
  pending : row.state = .pending
  epoch : permit.epoch = row.epoch + 1
  gate : s.runPhaseBGate view row now =
    .ok (.ok ⟨permit.closureAuthorized, permit.evaluatedLeaseIds, permit.revalidatedEvidence⟩)
  intents : s'.intents =
    s.intents.set permit.commitId (authorizedRow view row permit.closureAuthorized)
  leases : s'.leases = s.leases
  appended : view.appendEvent = .ok ()

theorem authorize_granted (h : s.authorize view commitId now = .ok (.authorized permit, s')) :
    permit.commitId = commitId ∧ ∃ row, Granted view s s' now permit row := by
  simp only [authorize, bind_ok] at h
  obtain ⟨row, hread, gate, hgate, h⟩ := h
  obtain ⟨hrow, hpend⟩ := readPendingIntent_spec hread
  rcases gate with _ | _
  · simp only [bind_ok] at h
    obtain ⟨-, -, h⟩ := h
    cases h
  · simp only [finalizePhaseB, bind_ok] at h
    obtain ⟨_, -, _, happ, h⟩ := h
    cases h
    exact ⟨rfl, row, hrow, hpend, rfl, hgate, rfl, rfl, happ⟩

/-- An authorized intent with the columns `finalize` reads. -/
theorem readAuthorizedIntent_ok (hrow : s.intents[commitId]? = some row)
    (hst : row.state = .authorized) (hclosure : row.closureAuthorized = some closure)
    (hsnap : row.targetRowEpochs = some snapshot) :
    s.readAuthorizedIntent commitId row.epoch = .ok ⟨row, closure, snapshot⟩ := by
  rw [readAuthorizedIntent, bind_of_find hrow, bind_of_require hst, bind_of_require rfl,
    bind_of_find hclosure, bind_of_find hsnap]
  rfl

/-- As long as the intent has the epoch of the permit, `finalize` reads what `authorize`
wrote. -/
theorem Granted.read {t : GateStore Proposal} {intent : AuthorizedIntent Proposal}
    (h : Granted view s s' now permit row) (hadvances : Advances s' t)
    (hread : t.readAuthorizedIntent permit.commitId permit.epoch = .ok intent) :
    intent = ⟨authorizedRow view row permit.closureAuthorized, permit.closureAuthorized,
      snapshotTargetRowEpochs view permit.closureAuthorized⟩ := by
  have hwrit : s'.intents[permit.commitId]? =
      some (authorizedRow view row permit.closureAuthorized) := by
    rw [h.intents]
    exact getElem?_set_here h.found
  obtain ⟨_, hrow', hsame⟩ := hadvances _ _ hwrit
  simp only [readAuthorizedIntent, bind_ok, find_ok, require_ok, return_ok] at hread
  obtain ⟨_, hfound, -, -, -, _, _, hclosure, _, hsnap, rfl⟩ := hread
  obtain rfl := some_unique hrow' hfound
  rcases hsame with rfl | _
  · cases hclosure
    cases hsnap
    rfl
  · have hgrant : (authorizedRow view row permit.closureAuthorized).epoch = permit.epoch :=
      h.epoch.symm
    omega

/-- The snapshot has the epochs at the time it is taken. -/
theorem rowEpoch_of_snapshot {triple : TargetRowEpochTriple}
    (h : triple ∈ snapshotTargetRowEpochs view closure) :
    view.rowEpoch triple.kind triple.id = some triple.epoch := by
  rw [snapshotTargetRowEpochs, mem_filterMap] at h
  obtain ⟨⟨_, _⟩, -, hsome⟩ := h
  obtain ⟨_, hepoch, rfl⟩ := map_eq_some_iff.mp hsome
  exact hepoch

/-- Without drift, every member has a triple and the epoch of that. -/
theorem epoch_of_no_drift (h : perMemberEpochDrift view closure snapshot = .ok []) {id : Nat}
    (hmem : (kind, id) ∈ snapshotMembers closure) :
    ∃ triple ∈ snapshot, triple.kind = kind ∧ triple.id = id ∧
      (view.rowEpoch kind id).getD ((1 <<< 64) - 1) = triple.epoch := by
  simp only [perMemberEpochDrift, bind_ok, return_ok] at h
  obtain ⟨_, hchk, hnone⟩ := h
  obtain ⟨_, hdrift, hone⟩ := (mapM_ok_mem hchk).1 _ hmem
  simp only [bind_ok, find_ok, return_ok] at hone
  obtain ⟨triple, htriple, rfl⟩ := hone
  have hkey := find?_some htriple
  simp only [Bool.and_eq_true, decide_eq_true_eq] at hkey
  have hsame := filter_eq_nil_iff.mp hnone _ hdrift
  refine ⟨triple, ?_, hkey.1, hkey.2, by simpa using hsame⟩
  exact mem_reverse.mp (mem_of_find?_eq_some htriple)

end GateStore

/-! ## What the mutation does -/

/-- The new location of a commit that has one. -/
def CommitTarget.proposal? {Proposal : Type} : CommitTarget Proposal → Option Proposal
  | deleteFileLocation _ => none
  | replaceFileLocation _ new => some new
  | moveFileLocation _ new => some new

/-- The target location is retired, and its replacement is a new live location of the same
version. -/
structure Performed (target : CommitTarget FileLocationProposal) (before after : IdentityStore) :
    Prop where
  retired : ∃ row, before.locations[target.retired]? = some row ∧ row.retired = false ∧
    after.locations[target.retired]? = some (IdentityStore.retiredLocation row)
  replaced : ∀ new ∈ target.proposal?, ∃ row, ∃ id : FileLocationId,
    before.locations[target.retired]? = some row ∧ before.locations[id]? = none ∧
    after.locations[id]? = some (new.onVersion row.fileVersionId).row

section Mutation
variable {identity identity' : IdentityStore} {snapshot : List TargetRowEpochTriple}
  {target : CommitTarget FileLocationProposal} {retired : FileLocationId}
  {new : FileLocationProposal}

theorem dispatchReplacement_ok
    (h : dispatchReplacement identity snapshot retired new = .ok identity') :
    ∃ row, identity.locations[retired]? = some row ∧ row.retired = false ∧
      identity'.locations = identity.locations.set retired (IdentityStore.retiredLocation row) ++
        [(new.onVersion row.fileVersionId).row] := by
  simp only [dispatchReplacement, IdentityStore.replaceFileLocation, bind_ok, find_ok,
    return_ok] at h
  obtain ⟨_, -, row, hrow, ⟨_, t⟩, ⟨_, -, _, -, _, -, _, hfound, hins⟩, rfl⟩ := h
  obtain ⟨hfound, -, hlive⟩ := IdentityStore.findLive_ok hfound
  obtain rfl := some_unique hrow hfound
  simp only [IdentityStore.insertFileLocation, bind_ok] at hins
  obtain ⟨_, -, heq⟩ := hins
  cases heq
  exact ⟨row, hrow, hlive, rfl⟩

theorem performed_of_replacement (hret : target.retired = retired)
    (hnew : target.proposal? = some new)
    (h : dispatchReplacement identity snapshot retired new = .ok identity') :
    Performed target identity identity' := by
  obtain ⟨row, hrow, hlive, heq⟩ := dispatchReplacement_ok h
  have hlt := lt_length hrow
  subst hret
  constructor
  · refine ⟨row, hrow, hlive, ?_⟩
    rw [heq, List.getElem?_append_left (by simpa using hlt), List.getElem?_set_self hlt]
  · intro _ hother
    obtain rfl := some_unique hnew hother
    refine ⟨row, identity.locations.length, hrow, List.getElem?_eq_none (Nat.le_refl _), ?_⟩
    rw [heq]
    simp

theorem dispatchDurableMutation_performed
    (h : dispatchDurableMutation identity snapshot target = .ok identity') :
    Performed target identity identity' := by
  cases target with
  | deleteFileLocation =>
    simp only [dispatchDurableMutation, IdentityStore.retireFileLocation, bind_ok, return_ok] at h
    obtain ⟨_, -, row, hfind, rfl⟩ := h
    obtain ⟨hrow, -, hlive⟩ := IdentityStore.findLive_ok hfind
    have hlt := lt_length hrow
    refine ⟨⟨row, hrow, hlive, getElem?_set_self hlt⟩, ?_⟩
    intro _ hnew
    cases hnew
  | replaceFileLocation | moveFileLocation => exact performed_of_replacement rfl rfl h

theorem dispatchDurableMutation_extends
    (h : dispatchDurableMutation identity snapshot target = .ok identity') :
    IdentityStore.Extends identity identity' := by
  have hreplaced : ∀ {retired new},
      dispatchReplacement identity snapshot retired new = .ok identity' →
      IdentityStore.Extends identity identity' := by
    intro _ _ h
    simp only [dispatchReplacement, bind_ok, return_ok] at h
    obtain ⟨_, -, _, -, ⟨_, t⟩, hreplace, rfl⟩ := h
    exact (IdentityStore.replaceFileLocation_writes hreplace).changes.extends
  cases target with
  | deleteFileLocation =>
    simp only [dispatchDurableMutation, bind_ok] at h
    obtain ⟨_, -, hretire⟩ := h
    exact (IdentityStore.retireFileLocation_writes hretire).changes.extends
  | replaceFileLocation | moveFileLocation => exact hreplaced h

end Mutation

/-! ## The ends of an applied commit -/

namespace GateWorld
open GateStore

section Ends
variable {env : GateEnv} {w w' : GateWorld} {intent : AuthorizedIntent FileLocationProposal}
  {permit : CommitPermit} {observed : Option AffectedScopeClosure} {now : Instant}
  {closureFinal : AffectedScopeClosure} {answer : FinalizeOutcome}

/-- The checks after the file system has been changed all pass. -/
structure Passes (env : GateEnv) (w : GateWorld) (intent : AuthorizedIntent FileLocationProposal)
    (permit : CommitPermit) (observed : Option AffectedScopeClosure) (now : Instant)
    (closureFinal : AffectedScopeClosure) : Prop where
  walked : ∃ walked, (env.view w.identity).walk intent.row.target .authorize [] =
    .ok (.ok walked) ∧ closureFinal = walked.mergeObserved observed
  epochs : perMemberEpochDrift (env.view w.identity) permit.closureAuthorized
    intent.targetRowEpochs = .ok []
  members : (permit.closureAuthorized.idMemberDelta closureFinal).isEmpty = true
  leases : w.gate.firstBlockingOverlap closureFinal now = none

/-- The answer is neither that of a commit that was carried out nor that of one that was
cancelled. -/
def Refuses (result : CommitGateResult) : Prop :=
  result ≠ .allowed ∧ result ≠ .cancelledAfterAuthorize

/-- An applied commit is carried out or left to be recovered. -/
inductive Ends (env : GateEnv) (w : GateWorld) (intent : AuthorizedIntent FileLocationProposal)
    (permit : CommitPermit) (observed : Option AffectedScopeClosure) (now : Instant) :
    Applied → Prop where
  | performed {closureFinal : AffectedScopeClosure} {identity : IdentityStore}
      (hpasses : Passes env w intent permit observed now closureFinal)
      (hdispatch : dispatchDurableMutation w.identity intent.targetRowEpochs intent.row.target =
        .ok identity) :
      Ends env w intent permit observed now
        ⟨completedRow intent.row, identity, closureFinal, .allowed⟩
  | kept {reason : String} {closureFinal : AffectedScopeClosure} {result : CommitGateResult}
      (hresult : Refuses result) :
      Ends env w intent permit observed now
        ⟨recoveryRow intent.row reason, w.identity, closureFinal, result⟩

theorem runPhaseCTripWires_pass_iff :
    w.gate.runPhaseCTripWires (env.view w.identity) intent permit observed now =
      .ok (.pass closureFinal) ↔ Passes env w intent permit observed now closureFinal := by
  constructor
  · intro h
    simp only [runPhaseCTripWires, bind_ok] at h
    obtain ⟨walked, hwalk, h⟩ := h
    rcases walked with _ | walked
    · cases h
    simp only [bind_ok] at h
    obtain ⟨drift, hdrift, h⟩ := h
    split at h
    · cases h
    next hnone =>
    split at h
    · cases h
    · cases h
    · cases h
    next hdelta hquiet =>
    cases h
    have hnil : drift = [] := not_not.mp hnone
    exact ⟨⟨walked, hwalk, rfl⟩, hnil ▸ hdrift, hdelta, hquiet⟩
  · rintro ⟨⟨_, hwalk, rfl⟩, hepochs, hmems, hleases⟩
    simp only [runPhaseCTripWires, hwalk, bind_of_ok rfl, hepochs, ne_eq, not_true_eq_false,
      hmems, hleases]
    rfl

theorem runPhaseCTripWires_trip {reason : String} {result : CommitGateResult}
    (h : w.gate.runPhaseCTripWires (env.view w.identity) intent permit observed now =
      .ok (.trip reason closureFinal result)) : Refuses result := by
  simp only [runPhaseCTripWires, bind_ok] at h
  obtain ⟨walked, _, h⟩ := h
  rcases walked with _ | _
  · cases h
  simp only [bind_ok] at h
  obtain ⟨_, _, h⟩ := h
  split at h
  · cases h
    constructor <;> simp
  · split at h <;> cases h <;> constructor <;> simp

theorem finalizeApplied_ends {applied : Applied}
    (h : w.finalizeApplied env intent permit observed now = .ok applied) :
    Ends env w intent permit observed now applied := by
  unfold finalizeApplied at h
  split at h
  next hin =>
    cases h
    simp only [finalizeAppliedInner, bind_ok] at hin
    obtain ⟨recheck, hrecheck, hin⟩ := hin
    rcases recheck with _ | ⟨_, _, _⟩
    · simp only [bind_ok, return_ok] at hin
      obtain ⟨_, hdisp, -, -, rfl⟩ := hin
      exact .performed (runPhaseCTripWires_pass_iff.mp hrecheck) hdisp
    · simp only [bind_ok, return_ok] at hin
      obtain ⟨-, -, rfl⟩ := hin
      exact .kept (runPhaseCTripWires_trip hrecheck)
  · simp only [bind_ok, return_ok] at h
    obtain ⟨-, -, rfl⟩ := h
    exact .kept (by constructor <;> simp)

theorem finalize_applied_ok (h : w.finalize env permit (.applied observed) now = .ok (answer, w')) :
    ∃ intent applied, w.gate.readAuthorizedIntent permit.commitId permit.epoch = .ok intent ∧
      Ends env w intent permit observed now applied ∧
      answer = finalizeOutcome
        ⟨permit.commitId, intent.row.closureInitial, intent.closureAuthorized,
          applied.closureFinal, permit.evaluatedLeaseIds, permit.revalidatedEvidence,
          applied.result⟩ ∧
      w' = ⟨w.gate.setIntent permit.commitId applied.row, applied.identity⟩ := by
  simp only [finalize, bind_ok, return_ok] at h
  obtain ⟨intent, hread, applied, happ, rfl, rfl⟩ := h
  exact ⟨intent, applied, hread, finalizeApplied_ends happ, rfl, rfl⟩

/-! ### The gate alone -/

/-- **What the gate does here it does with some view of the identity tables.** -/
theorem finalize_refines {outcome : MutationOutcome}
    (h : w.finalize env permit outcome now = .ok (answer, w')) :
    ∃ view, w.gate.finalize view permit outcome now = .ok (answer, w'.gate) := by
  simp only [finalize, bind_ok, return_ok] at h
  obtain ⟨intent, hread, applied, happlied, rfl, rfl⟩ := h
  cases outcome with
  | notPerformed =>
    simp only [finalizeIntent, finalizeNotPerformed, bind_ok, return_ok] at happlied
    obtain ⟨_, happ, rfl⟩ := happlied
    refine ⟨env.view w.identity, ?_⟩
    rw [GateStore.finalize, hread]
    simp only [GateEnv.view, happ]
    rfl
  | applied observed =>
    dsimp only [finalizeIntent, finalizeApplied] at happlied
    split at happlied
    next inner hin =>
      cases happlied
      refine ⟨env.view w.identity, ?_⟩
      have hsame : env.appendEvent = .ok () ∧
          w.gate.finalizeAppliedInner (env.view w.identity) intent permit observed now =
            .ok (applied.row, applied.closureFinal, applied.result) := by
        simp only [finalizeAppliedInner, bind_ok] at hin
        obtain ⟨recheck, hrecheck, hin⟩ := hin
        rw [GateStore.finalizeAppliedInner, hrecheck]
        rcases recheck with _ | ⟨_, _, _⟩
        · simp only [bind_ok, return_ok] at hin
          obtain ⟨_, hdisp, _, happ, rfl⟩ := hin
          refine ⟨happ, ?_⟩
          simp only [GateEnv.view, hdisp, happ]
          rfl
        · simp only [bind_ok, return_ok] at hin
          obtain ⟨_, happ, rfl⟩ := hin
          refine ⟨happ, ?_⟩
          simp only [GateEnv.view, happ]
          rfl
      obtain ⟨happ, hin'⟩ := hsame
      rw [GateStore.finalize, hread]
      simp only [bind_of_ok rfl, finalizeRow, hin']
      rw [show (env.view w.identity).appendEvent = .ok () from happ]
      rfl
    next inner _ =>
    -- a view whose walk fails in the same way
    simp only [bind_ok, return_ok] at happlied
    obtain ⟨-, -, rfl⟩ := happlied
    refine ⟨{ env.view w.identity with
      walk := fun _ _ _ => .error inner, appendEvent := .ok () }, ?_⟩
    rw [GateStore.finalize, hread]
    rfl

/-! ### Runs -/

theorem step_move {e : Event} (h : w.step e = some w') :
    IntentMove w.identity.hasRow w.gate w'.gate := by
  obtain rfl := some.inj h
  suffices hcall : IntentMove w.identity.hasRow w.gate (w.call e.now e.call).gate by
    cases hcall with
    | kept h => exact .kept h
    | added row hrows h => exact .added row hrows h
    | moved hrow hepoch hst h => exact .moved hrow hepoch hst h
  have hgate (c : GateCall FileLocationProposal)
      (hrows : c.rows w.identity.hasRow = w.identity.hasRow) :
      IntentMove w.identity.hasRow w.gate (w.onGate e.now c).gate :=
    hrows ▸ call_move w.gate e.now c
  cases hc : e.call with
  | finalize =>
    rw [call]
    split
    next hfin =>
      obtain ⟨_, hview⟩ := finalize_refines hfin
      exact (finalize_does hview).intents
    · exact .kept rfl
  | identity c =>
    rw [call]
    split <;> exact .kept rfl
  | _ => exact hgate _ rfl

theorem step_extends {e : Event} (h : w.step e = some w') :
    IdentityStore.Extends w.identity w'.identity := by
  obtain rfl := some.inj h
  have hsame : IdentityStore.Extends w.identity w.identity := IdentityStore.Changes.extends .refl
  suffices hcall : IdentityStore.Extends w.identity (w.call e.now e.call).identity from hcall
  cases hc : e.call with
  | finalize _ _ outcome =>
    rw [call]
    split
    next hfin =>
      simp only [finalize, bind_ok, return_ok] at hfin
      obtain ⟨_, -, applied, happ, -, rfl⟩ := hfin
      cases outcome with
      | notPerformed =>
        simp only [finalizeIntent, finalizeNotPerformed, bind_ok, return_ok] at happ
        obtain ⟨_, -, rfl⟩ := happ
        exact hsame
      | applied =>
        cases finalizeApplied_ends happ with
        | performed _ hdisp => exact dispatchDurableMutation_extends hdisp
        | kept => exact hsame
    · exact hsame
  | identity c =>
    rw [call]
    split
    next hcall => exact (IdentityStore.call_changes hcall).extends
    · exact hsame
  | _ => exact hsame

/-- Along a run, intents keep their rows and identity rows stay. -/
theorem run_keeps {events : List Event} (h : Run step always w events w') :
    Advances w.gate w'.gate ∧ IdentityStore.Extends w.identity w'.identity := by
  refine h.invariant (I := fun u => Advances w.gate u.gate ∧
    IdentityStore.Extends w.identity u.identity) ?_ ⟨.refl _, IdentityStore.Changes.extends .refl⟩
  rintro u e _ ⟨hgate, hident⟩ - hstep
  have hnext := step_extends hstep
  exact ⟨hgate.trans (step_move hstep).advances, ⟨hident.assets.trans hnext.assets,
    hident.versions.trans hnext.versions, hident.locations.trans hnext.locations,
    hident.bundles.trans hnext.bundles⟩⟩

end Ends

/-! ## All or nothing -/

end GateWorld

/-- The same rows, whatever was warned of on the way. -/
structure AffectedScopeClosure.SameMembers (c other : AffectedScopeClosure) : Prop where
  fileAssets : other.fileAssets = c.fileAssets
  fileVersions : other.fileVersions = c.fileVersions
  fileLocations : other.fileLocations = c.fileLocations
  bundles : other.bundles = c.bundles

namespace GateWorld
open GateStore

/-- A commit that was authorized in `w₀` is carried out from `w` to `w'`. -/
structure CarriedOut (w₀ w w' : GateWorld) (env : GateEnv) (permit : CommitPermit)
    (observed : Option AffectedScopeClosure) (now : Instant) (closureFinal : AffectedScopeClosure) :
    Prop where
  /-- The closure as it is now, joined with what the caller saw, is the authorized one. -/
  members : ∃ row walked, w.gate.intents[permit.commitId]? = some row ∧
    (env.view w.identity).walk row.target .authorize [] = .ok (.ok walked) ∧
    closureFinal = walked.mergeObserved observed ∧
    permit.closureAuthorized.SameMembers closureFinal
  leases : ∀ lease ∈ w.gate.leases, lease.blocks now = true → lease.scope ∉ closureFinal.scopes
  epochs : ∀ kind id, (kind, id) ∈ snapshotMembers permit.closureAuthorized →
    ∃ epoch, w₀.identity.rowEpoch kind id = some epoch ∧ w.identity.rowEpoch kind id = some epoch
  performed : ∃ row, w.gate.intents[permit.commitId]? = some row ∧
    Performed row.target w.identity w'.identity

section Theorem
variable {env env₀ : GateEnv} {w₀ w₁ w w' : GateWorld} {permit : CommitPermit}
  {observed : Option AffectedScopeClosure} {now now₀ : Instant} {commitId : CommitId}
  {events : List Event} {outcome : MutationOutcome} {answer : FinalizeOutcome}
  {kind : TargetMemberKind}

theorem authorize_ok {outcome : AuthorizeOutcome}
    (h : w₀.authorize env₀ commitId now₀ = .ok (outcome, w₁)) :
    w₀.gate.authorize (env₀.view w₀.identity) commitId now₀ = .ok (outcome, w₁.gate) ∧
      w₁.identity = w₀.identity := by
  simp only [authorize, bind_ok, return_ok] at h
  obtain ⟨⟨_, _⟩, hgate, rfl, rfl⟩ := h
  exact ⟨hgate, rfl⟩

/-- A member that had the epoch of the snapshot when it was taken has it still. -/
theorem epochs_of_passes {intent : AuthorizedIntent FileLocationProposal}
    {closureFinal : AffectedScopeClosure} (hext : IdentityStore.Extends w₀.identity w.identity)
    (hsnap : intent.targetRowEpochs =
      snapshotTargetRowEpochs (env₀.view w₀.identity) permit.closureAuthorized)
    (hpasses : Passes env w intent permit observed now closureFinal) {id : Nat}
    (hmem : (kind, id) ∈ snapshotMembers permit.closureAuthorized) :
    ∃ epoch, w₀.identity.rowEpoch kind id = some epoch ∧
      w.identity.rowEpoch kind id = some epoch := by
  obtain ⟨triple, htriple, rfl, rfl, hepoch⟩ := epoch_of_no_drift hpasses.epochs hmem
  rw [hsnap] at htriple
  have hbef : w₀.identity.rowEpoch triple.kind triple.id = some triple.epoch :=
    rowEpoch_of_snapshot htriple
  have hstays : (w.identity.rowEpoch triple.kind triple.id).isSome := by
    have hrow := IdentityStore.rowEpoch_isSome_iff.mp (isSome_of_mem hbef)
    refine IdentityStore.rowEpoch_isSome_iff.mpr (Nat.lt_of_lt_of_le hrow ?_)
    cases triple.kind
    · exact hext.assets
    · exact hext.versions
    · exact hext.locations
    · exact hext.bundles
  obtain ⟨epoch, hafter⟩ := isSome_iff_exists.mp hstays
  -- the row is there, so the epoch compared is its own and not the one of a missing row
  change (w.identity.rowEpoch triple.kind triple.id).getD _ = triple.epoch at hepoch
  rw [hafter] at hepoch
  exact ⟨triple.epoch, hbef, hepoch ▸ hafter⟩

/-- An answered finalize finds the epoch of its permit and leaves the next one. -/
theorem finalize_epochs (h : w.finalize env permit outcome now = .ok (answer, w')) :
    (∃ row, w.gate.intents[permit.commitId]? = some row ∧ row.epoch = permit.epoch) ∧
      ∃ row, w'.gate.intents[permit.commitId]? = some row ∧ row.epoch = permit.epoch + 1 := by
  obtain ⟨view, hgate⟩ := finalize_refines h
  simp only [GateStore.finalize, bind_ok, return_ok, Prod.mk.injEq] at hgate
  obtain ⟨intent, hread, -, -, -, hend⟩ := hgate
  have hrow := readAuthorizedIntent_spec hread
  simp only [readAuthorizedIntent, bind_ok, require_ok, return_ok] at hread
  obtain ⟨_, -, -, -, -, hepoch, _, -, _, -, rfl⟩ := hread
  rw [← hend, ← hepoch]
  exact ⟨⟨_, hrow, rfl⟩, _, getElem?_set_here hrow, (finalizeRow_ended _ permit outcome).2⟩

/-- **A permit is good for one finalize.** Whatever is called after the answer, it is refused. -/
theorem permit_spent (h : w.finalize env permit outcome now = .ok (answer, w'))
    {v : GateWorld} (hrun : Run step always w' events v) (env' : GateEnv)
    (outcome' : MutationOutcome) (now' : Instant) :
    ∃ e, v.finalize env' permit outcome' now' = .error e := by
  cases hagain : v.finalize env' permit outcome' now' with
  | error e => exact ⟨e, rfl⟩
  | ok =>
    obtain ⟨-, row, hrow, hnext⟩ := finalize_epochs h
    obtain ⟨⟨later, hlater, hepoch⟩, -⟩ := finalize_epochs hagain
    obtain ⟨row', hrow', hadvanced⟩ := (run_keeps hrun).1 _ row hrow
    obtain rfl := some_unique hlater hrow'
    rcases hadvanced with rfl | hlt <;> omega

end Theorem

/-- One file at two places. -/
def linkedFile : IdentityStore where
  assets := [⟨false, 0⟩]
  versions := [⟨0, "h", 5, .ingest, none, false, 0⟩]
  locations := [⟨0, .rooted 0 "a.mkv", none, false, none, 0⟩,
    ⟨0, .rooted 0 "b.mkv", none, false, none, 0⟩]
  bundles := []
  members := []
  roots := [0]

/-- Nothing but the tables, and no failure. -/
def quietEnv : GateEnv where
  aliases _ := .ok []
  revalidate _ := .ok []
  appendEvent := .ok ()
  appendRecovery := .ok ()

/-- The world after `prepare` of a commit on the linked file. -/
def prepared (env : GateEnv) (input : DestructiveCommit FileLocationProposal) : GateWorld :=
  (⟨.empty 0, linkedFile⟩ : GateWorld).call 0 (.prepare env input)

/-- Move the first of the two locations. -/
def moveFirst : DestructiveCommit FileLocationProposal :=
  ⟨.moveFileLocation 0 ⟨0, "c.mkv", none⟩, [], none⟩

def isCompleted : FinalizeOutcome → Bool
  | .completed _ => true
  | _ => false

/-- What finalizing an authorized commit answers, `meanwhile` something else, passes the test. -/
def finalizesTo (test : FinalizeOutcome → Bool) (env : GateEnv) (meanwhile : GateWorld → GateWorld)
    (now : Instant) : AuthorizeOutcome × GateWorld → Bool
  | (.authorized permit, w) =>
      succeedsWith ((meanwhile w).finalize env permit (.applied none) now) fun done =>
        decide (test done.1 = true)
  | (.blocked _ _, _) => false

theorem exists_finalized (test : FinalizeOutcome → Bool) (env : GateEnv)
    (meanwhile : GateWorld → GateWorld) (w : GateWorld)
    (now₀ now : Instant) (h : succeedsWith (w.authorize env 0 now₀)
      (fun r => decide (finalizesTo test env meanwhile now r = true)) = true) :
    ∃ permit w₁ answer w', w.authorize env 0 now₀ = .ok (.authorized permit, w₁) ∧
      (meanwhile w₁).finalize env permit (.applied none) now = .ok (answer, w') ∧
        test answer = true := by
  obtain ⟨⟨granted, w₁⟩, hauth, hfinal⟩ := exists_ok h
  cases granted with
  | blocked => cases hfinal
  | authorized permit =>
    obtain ⟨⟨answer, w'⟩, hfin, htest⟩ := exists_ok hfinal
    exact ⟨permit, w₁, answer, w', hauth, hfin, htest⟩

theorem moveFirst_once : ∃ permit answer, ∃ w w' v : GateWorld,
    w.finalize quietEnv permit (.applied none) 2 = .ok (answer, w') ∧
    Run step always w' [⟨3, .prepare quietEnv moveFirst⟩, ⟨4, .authorize quietEnv 1⟩] v ∧
    ∃ e, v.finalize quietEnv permit (.applied none) 5 = .error e := by
  obtain ⟨permit, w, answer, w', -, h, -⟩ := exists_finalized isCompleted quietEnv id
    (prepared quietEnv moveFirst) 1 2 (by decide +kernel)
  have hrun : Run step always w' [⟨3, .prepare quietEnv moveFirst⟩, ⟨4, .authorize quietEnv 1⟩] _ :=
    .cons trivial rfl (.cons trivial rfl (.nil _))
  exact ⟨permit, answer, w, w', _, h, hrun, permit_spent h hrun quietEnv _ 5⟩

/-- The same commit is prepared once more. -/
def preparedAgain (w : GateWorld) : GateWorld := (w.step ⟨1, .prepare quietEnv moveFirst⟩).getD w

end GateWorld

end Voom
