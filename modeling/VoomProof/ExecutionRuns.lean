import VoomProof.MediaPublication
import VoomProof.RemoteAcquire
import VoomProof.Runs

/-!
# Runs of the control plane

The calls of the modules before as events of one system: nodes acquire, heartbeat,
complete and fail, commits are driven, leases expire, commits are recovered, and the
clock moves on between calls. A run starts with tickets only.

Every operation on record has been dispatched, because a row is made by the acquire that
dispatches it. And once the claim of a row has run out nothing touches it again: every update
asks for the live claim, an acquire refuses a row dispatched for its current generation, and no
call moves a row to its next generation.
-/

namespace Voom
open Fallible AudioOperation ControlPlane Runs Option

inductive ExecutionEvent where
  | tick (seconds : Nat)
  /-- A ticket is created and made ready. -/
  | submit (ticket : Ticket TicketWork)
  | setOpenJobs (jobs : List JobId)
  | remoteAcquire (call : RemoteAcquire)
  | remoteLeaseHeartbeat (leaseId : LeaseId) (workerId : WorkerId) (ttl : Int)
  | remoteComplete (context : CompletionContext) (evidence : OwnerEvidence)
      (unblocked : List TicketId)
  | remoteFail (leaseId : LeaseId) (workerId : WorkerId) (failureClass : FailureClass)
      (rng : UInt32)
  | expireDueLeases
  | forceReleaseLease (leaseId : LeaseId) (alsoRequeue : Bool)
  | authorizeCommitIntent (id : CommitId) (scope : PinnedScope) (gate : Except VoomError Unit)
      (incarnation : NodeIncarnationId) (fence : CommitFence)
  | reportApplying (id : CommitId) (scope : PinnedScope)
  | reportOutcome (id : CommitId) (evidence : CommitOutcomeEvidence) (scope : PinnedScope)
  | completeCommitIntent (id : CommitId) (fence : CommitFence) (scope : PinnedScope)
      (unblocked : List TicketId)
  | completeCommitGroup (proof : CommitGroupProof) (incarnation : NodeIncarnationId)
      (scope : PinnedScope) (unblocked : List TicketId)
  | recoverCommit (handle : CommitId) (checks : RecoveryChecks)

namespace ControlPlane

/-- The tables before the first call. -/
def initial (now : Instant) (tickets : List (Ticket TicketWork)) : ControlPlane where
  now := now
  store := ⟨tickets, [], []⟩
  operations := []
  commits := []

def submit (cp : ControlPlane) (ticket : Ticket TicketWork) : ControlPlane :=
  let row := { ticket with state := .ready, attempt := 0 }
  { cp with store := { cp.store with tickets := cp.store.tickets ++ [row] } }

/-- The state after an event; a call that fails leaves what its transactions wrote. -/
def after (cp : ControlPlane) : ExecutionEvent → ControlPlane
  | .tick seconds => { cp with now := cp.now + seconds }
  | .submit ticket => cp.submit ticket
  | .setOpenJobs jobs => { cp with store := { cp.store with openJobs := jobs } }
  | .remoteAcquire call => cp.transact ((call.run cp).map Prod.snd)
  | .remoteLeaseHeartbeat leaseId workerId ttl =>
      cp.transact (cp.remoteLeaseHeartbeat leaseId workerId ttl)
  | .remoteComplete context evidence unblocked =>
      cp.transact (cp.remoteComplete context evidence unblocked)
  | .remoteFail leaseId workerId failureClass rng =>
      cp.transact (cp.remoteFail leaseId workerId failureClass rng)
  | .expireDueLeases => cp.transact cp.expireDueLeases
  | .forceReleaseLease leaseId alsoRequeue =>
      cp.transact (cp.forceReleaseLease leaseId alsoRequeue)
  | .authorizeCommitIntent id scope gate incarnation fence =>
      cp.authorizeCommitIntent id scope gate incarnation fence
  | .reportApplying id scope => cp.transact (cp.reportApplying id scope)
  | .reportOutcome id evidence scope => cp.transact (cp.reportOutcome id evidence scope)
  | .completeCommitIntent id fence scope unblocked =>
      cp.transact (cp.completeCommitIntent id fence scope unblocked)
  | .completeCommitGroup proof incarnation scope unblocked =>
      cp.transact (cp.completeCommitGroup proof incarnation scope unblocked)
  | .recoverCommit handle checks => cp.recoverCommit handle checks

def step (cp : ControlPlane) (event : ExecutionEvent) : Option ControlPlane :=
  some (cp.after event)

/-- The states runs lead to. -/
def Reachable (cp : ControlPlane) : Prop :=
  ∃ now tickets es, Run step always (initial now tickets) es cp

/-! ## What an event leaves of the ledgers -/

/-- Time does not go back, and the operations on record make steps. -/
structure Evolves (cp cp' : ControlPlane) : Prop where
  now : cp.now ≤ cp'.now
  operations : AudioLedger.Step cp.now cp.operations cp'.operations

theorem Keeps.evolves {cp cp' : ControlPlane} (h : Keeps cp cp') : Evolves cp cp' :=
  ⟨Int.le_of_eq h.now.symm, h.operations⟩

theorem remoteAcquire_keeps (cp : ControlPlane) (call : RemoteAcquire) :
    Keeps cp (cp.transact ((call.run cp).map Prod.snd)) := by
  refine .transact fun h => ?_
  cases hrun : call.run cp with
  | error e => rw [hrun] at h; cases h
  | ok =>
    rw [hrun] at h
    cases h
    exact RemoteAcquire.run_keeps hrun

theorem after_evolves (cp : ControlPlane) (event : ExecutionEvent) :
    Evolves cp (cp.after event) := by
  cases event with
  | tick seconds => exact ⟨Int.le_add_of_nonneg_right (Int.natCast_nonneg seconds), .refl _⟩
  | submit | setOpenJobs => exact Keeps.evolves (.of_eq rfl rfl)
  | remoteAcquire call => exact (cp.remoteAcquire_keeps call).evolves
  | remoteLeaseHeartbeat => exact Keeps.evolves (.transact remoteLeaseHeartbeat_keeps)
  | remoteComplete => exact Keeps.evolves (.transact remoteComplete_keeps)
  | remoteFail => exact Keeps.evolves (.transact remoteFail_keeps)
  | expireDueLeases | forceReleaseLease => exact Keeps.evolves (.transact withStore_keeps)
  | authorizeCommitIntent => exact Keeps.evolves authorizeCommitIntent_keeps
  | reportApplying => exact Keeps.evolves (.transact reportApplying_keeps)
  | reportOutcome => exact Keeps.evolves (.transact reportOutcome_keeps)
  | completeCommitIntent => exact Keeps.evolves (.transact completeCommitIntent_keeps)
  | completeCommitGroup => exact Keeps.evolves (.transact completeCommitGroup_keeps)
  | recoverCommit => exact Keeps.evolves recoverCommit_keeps

/-! ## Whole runs -/

section Whole
variable {cp cp' : ControlPlane} {es : List ExecutionEvent} {id : OperationId} {op : AudioOperation}

theorem reachable_dispatched (h : Reachable cp) : AudioLedger.AllDispatched cp.operations := by
  obtain ⟨_, _, _, hrun⟩ := h
  refine hrun.invariant (I := fun cp => AudioLedger.AllDispatched cp.operations) ?_ ?_
  · intro s e t hs _ hstep
    cases hstep
    exact hs.step (s.after_evolves e).operations
  · exact fun _ hop => nomatch hop

theorem lapsed_of_le {now now' : Instant} (h : op.Lapsed now) (hle : now ≤ now') :
    op.Lapsed now' := by
  refine ⟨h.1, Bool.eq_false_iff.mpr fun hlive => ?_⟩
  obtain ⟨claim, hclaim, hlater⟩ := (any_eq_true _ _).mp hlive
  have hbef : now < claim.expiresAt := Int.lt_of_le_of_lt hle (of_decide_eq_true hlater)
  have hdead : op.live now = false := h.2
  rw [live, hclaim] at hdead
  exact of_decide_eq_false hdead hbef

/-- A row whose claim has run out is the same in every later state. -/
theorem run_keeps_lapsed (hrun : Run step always cp es cp')
    (hall : AudioLedger.AllDispatched cp.operations) (hop : cp.operations[id]? = some op)
    (hlapsed : op.Lapsed cp.now) :
    AudioLedger.AllDispatched cp'.operations ∧ cp'.operations[id]? = some op ∧
      op.Lapsed cp'.now := by
  refine hrun.invariant (I := fun cp => AudioLedger.AllDispatched cp.operations ∧
    cp.operations[id]? = some op ∧ op.Lapsed cp.now) ?_ ⟨hall, hop, hlapsed⟩
  rintro s e t ⟨hs, hsop, hslapsed⟩ _ hstep
  cases hstep
  have hevolves : Evolves s (s.after e) := s.after_evolves e
  exact ⟨hs.step hevolves.operations, hevolves.operations.keeps_lapsed hs hsop hslapsed,
    lapsed_of_le hslapsed hevolves.now⟩

end Whole

/-! ## Stranded operations -/

/-- Every output of the operation is bound to a file that is proven applied. -/
def AllApplied (cp : ControlPlane) (op : AudioOperation) : Prop :=
  op.commits.length = op.descriptor.outputCount ∧
    ∀ handle ∈ op.commits, ∃ c ∈ cp.commits, c.handle = handle ∧ c.commit.provenApplied

instance (cp : ControlPlane) (op : AudioOperation) : Decidable (AllApplied cp op) :=
  inferInstanceAs (Decidable (_ ∧ _))

/-- Some file of the operation has been reported applied. -/
def AnyApplied (cp : ControlPlane) (op : AudioOperation) : Prop :=
  ∃ c ∈ cp.commits, c.handle ∈ op.commits ∧ appliedFacts c.commit ≠ none

/-- At some later time an acquire dispatches the operation again. -/
def Redispatchable (cp : ControlPlane) (id : OperationId) : Prop :=
  ∃ es cp' call op op', Run step always cp es cp' ∧ cp'.operations[id]? = some op ∧
    (cp'.after (.remoteAcquire call)).operations[id]? = some op' ∧
    op.attempts.length < op'.attempts.length

/-- Recovery of one of the operation's files, with nothing in its way, commits it. -/
def Recoverable (cp : ControlPlane) (id : OperationId) (op : AudioOperation) : Prop :=
  ∃ handle ∈ op.commits, ∃ unblocked op',
    (cp.recoverCommit handle (.clear unblocked)).operations[id]? = some op' ∧
      op'.state = .committed

/-- The ways out of an operation that is not committed. -/
inductive NotStranded (cp : ControlPlane) (id : OperationId) (op : AudioOperation) : Prop where
  | claimed (h : op.live cp.now = true)
  | dispatchedAgain (hnone : ¬ AnyApplied cp op) (h : Redispatchable cp id)
  | recovered (hall : AllApplied cp op) (h : Recoverable cp id op)

section Stranded
variable {cp : ControlPlane} {id : OperationId} {op : AudioOperation}

section
variable (hop : cp.operations[id]? = some op) (hlapsed : op.Lapsed cp.now)
include hop hlapsed

theorem not_redispatchable_of_lapsed (hall : AudioLedger.AllDispatched cp.operations) :
    ¬ Redispatchable cp id := by
  rintro ⟨_, cp', call, _, _, hrun, hrow, hrow', hmore⟩
  obtain ⟨hall', hop', hlapsed'⟩ := run_keeps_lapsed hrun hall hop hlapsed
  have hevolves : Evolves cp' (cp'.after (.remoteAcquire call)) := cp'.after_evolves _
  have hsame := hevolves.operations.keeps_lapsed hall' hop' hlapsed'
  rw [hop'] at hrow
  rw [hsame] at hrow'
  cases hrow
  cases hrow'
  exact Nat.lt_irrefl _ hmore

theorem not_recoverable_of_lapsed (hall : AudioLedger.AllDispatched cp.operations) :
    ¬ Recoverable cp id op := by
  rintro ⟨handle, -, unblocked, _, hrow, hcommit⟩
  have hevolves : Evolves cp (cp.recoverCommit handle (.clear unblocked)) :=
    cp.after_evolves (.recoverCommit handle (.clear unblocked))
  rw [hevolves.operations.keeps_lapsed hall hop hlapsed] at hrow
  cases hrow
  exact hlapsed.1 hcommit

theorem stranded_of_lapsed (hreach : Reachable cp) : ¬ NotStranded cp id op := by
  have hall := reachable_dispatched hreach
  rintro (hlive | ⟨-, hagain⟩ | ⟨-, hrecovered⟩)
  · rw [hlapsed.2] at hlive
    cases hlive
  · exact not_redispatchable_of_lapsed hop hlapsed hall hagain
  · exact not_recoverable_of_lapsed hop hlapsed hall hrecovered

end

/-- An operation that is not committed is stranded as soon as its claim has run out,
whatever its state and its receipts are. -/
theorem not_stranded_iff_live (hreach : Reachable cp) (hop : cp.operations[id]? = some op)
    (hopen : op.state ≠ .committed) : NotStranded cp id op ↔ op.live cp.now = true := by
  refine ⟨fun h => ?_, .claimed⟩
  cases hlive : op.live cp.now with
  | true => rfl
  | false => exact absurd h (stranded_of_lapsed hop ⟨hopen, hlive⟩ hreach)

end Stranded

/-! ### An extraction that is stranded -/

def extractionRequest : AudioRequest where
  descriptor := .extraction ⟨"key", none, 0, 0, 1⟩
    [⟨none, "stream", 1, "external_audio", "/out.mka"⟩]
  sourcePath := "film.mkv"
  valid := rfl

def extractionTicket : Ticket TicketWork :=
  ⟨none, .known .extractAudio true, .ready, 1, .audio extractionRequest, 0, 3, 0⟩

def remuxTicket : Ticket TicketWork :=
  ⟨none, .known .remux true, .ready, 0, .media, 0, 3, 0⟩

/-- One file, the primary file of its bundle. -/
def filmIdentity : IdentityStore where
  assets := [⟨false, 0⟩]
  versions := [⟨0, "hash", 1, .ingest, none, false, 0⟩]
  locations := []
  bundles := [⟨"film", 0⟩]
  members := [⟨0, 0, .primaryVideo⟩]
  roots := []

/-- A worker that may execute everything asks for both operations. -/
def acquireCall (claimToken : ClaimToken) : RemoteAcquire where
  workerId := 1
  nodeId := 1
  leaseTtlSeconds := 10
  claimToken := claimToken
  registry := {
    eligibility := fun _ _ => ⟨some .active, some .remote, true, true, false, [.sharedMount]⟩
    maxParallel := fun _ _ => 4
    acceleratorCapacity := fun _ => none }
  candidateOperations := [.known .extractAudio true, .known .remux true]
  nodeOf := id
  nodeLimit := 4
  ownerLocal := fun _ => true
  reuse := fun _ _ => .ok ()
  identity := filmIdentity
  unblocks := fun _ => []
  registered := fun _ => ⟨rfl, rfl⟩
  limits := ⟨fun _ => Nat.zero_lt_succ 3, fun _ h => (nomatch h), Nat.zero_lt_succ 3⟩

def firstToken : ClaimToken := ⟨"first", by decide⟩
def secondToken : ClaimToken := ⟨"second", by decide⟩

/-- The lease expires before the worker reports. -/
def workerLost : List ExecutionEvent :=
  [.remoteAcquire (acquireCall firstToken), .tick 11, .expireDueLeases]

def fileFacts : FileFacts := ⟨1, "hash"⟩

def completionContext : CompletionContext := ⟨0, 1, "request"⟩

/-- The node is lost after it has put the file in place. -/
def nodeLost : List ExecutionEvent :=
  [.remoteAcquire (acquireCall firstToken),
    .remoteComplete completionContext ⟨[fileFacts], .holds, .ok ()⟩ [],
    .authorizeCommitIntent 0 .holds (.ok ()) 1 7,
    .reportApplying 0 .holds,
    .reportOutcome 0 (.applied fileFacts) .holds,
    .tick 10]

instance (now : Instant) (op : AudioOperation) : Decidable (op.Lapsed now) :=
  inferInstanceAs (Decidable (_ ∧ _))

instance (cp : ControlPlane) (op : AudioOperation) : Decidable (AnyApplied cp op) :=
  inferInstanceAs (Decidable (∃ c ∈ _, _))

/-- A run computed to a state whose first operation has lapsed. -/
theorem exists_stranded {p : ControlPlane → AudioOperation → Prop}
    [∀ cp op, Decidable (p cp op)] (tickets : List (Ticket TicketWork)) (es : List ExecutionEvent)
    (h : (exec step always (initial 0 tickets) es).any (fun cp => decide
      ((cp.operations[0]?).any (fun op => op.Lapsed cp.now ∧ p cp op) = true)) = true) :
    ∃ cp op, Reachable cp ∧ cp.operations[0]? = some op ∧ op.state ≠ .committed ∧ p cp op ∧
      ¬ NotStranded cp 0 op := by
  obtain ⟨cp, hrun, hany⟩ := exists_run step always h
  obtain ⟨op, hop, hlapsed⟩ := (any_eq_true _ _).mp hany
  obtain ⟨hlapsed, hp⟩ := of_decide_eq_true hlapsed
  have hreach : Reachable cp := ⟨0, tickets, es, hrun⟩
  exact ⟨cp, op, hreach, hop, hlapsed.1, hp, stranded_of_lapsed hop hlapsed hreach⟩

/-- Either a ready ticket has an operation that no acquire dispatches any more, or every
file is in place and no recovery finishes the operation. -/
theorem extraction_stranded :
    (∃ cp op, Reachable cp ∧ cp.operations[0]? = some op ∧ op.state ≠ .committed ∧
      (¬ AnyApplied cp op ∧ (cp.store.tickets[0]?).map (·.state) = some .ready) ∧
      ¬ NotStranded cp 0 op) ∧
    (∃ cp op, Reachable cp ∧ cp.operations[0]? = some op ∧ op.state ≠ .committed ∧
      AllApplied cp op ∧ ¬ NotStranded cp 0 op) := by
  constructor
  · apply exists_stranded [extractionTicket] workerLost
    decide
  · apply exists_stranded [extractionTicket] nodeLost
    decide

/-- While its worker is at it, the operation is not stranded. -/
theorem dispatched_extraction_not_stranded :
    ∃ cp op, Reachable cp ∧ cp.operations[0]? = some op ∧ op.state ≠ .committed ∧
      NotStranded cp 0 op := by
  obtain ⟨cp, hrun, hany⟩ : ∃ cp, Run step always (initial 0 [extractionTicket])
      [.remoteAcquire (acquireCall firstToken)] cp ∧ (cp.operations[0]?).any
        (fun op => op.state ≠ .committed ∧ op.live cp.now = true) = true := by
    apply exists_run step always
    decide
  obtain ⟨op, hop, hcond⟩ := (any_eq_true _ _).mp hany
  obtain ⟨hopen, hlive⟩ := of_decide_eq_true hcond
  have hreach : Reachable cp := ⟨0, _, _, hrun⟩
  exact ⟨cp, op, hreach, hop, hopen, (not_stranded_iff_live hreach hop hopen).mpr hlive⟩

/-! ## Acquires that fail -/

/-- The worker reports a crash, and the ticket is ready for its next attempt. -/
def workerCrashed : List ExecutionEvent :=
  [.remoteAcquire (acquireCall firstToken), .remoteFail 0 1 .workerCrash 0]

/-- **An acquire returns an outcome exactly if no ticket that it chooses and leases is blocked**, in
this round or, after tickets were retired with recorded results, in a later one.  So it does if no
waiting ticket is blocked at all. -/
theorem remoteAcquire_ok_unless_blocked (call : RemoteAcquire) (cp : ControlPlane)
    (httl : 0 < call.leaseTtlSeconds) :
    ((∀ op ∈ cp.operations, ∀ claim ∈ op.claim, claim.token ≠ call.claimToken.val) →
      ((∃ outcome cp', call.run cp = .ok (outcome, cp')) ↔ call.NoneTakenBlocked cp)) ∧
    (call.NoneBlocked cp → ∃ outcome cp', call.run cp = .ok (outcome, cp')) := by
  refine ⟨fun hfresh => ⟨?_, RemoteAcquire.run_ok httl⟩, fun hfree => ?_⟩
  · rintro ⟨_, _, hrun⟩
    exact RemoteAcquire.loop_not_blocked hrun hfresh
  · exact RemoteAcquire.run_ok httl (hfree.noneTaken httl)

/-- The extraction is blocked, and a remux that goes before it is leased. -/
theorem blocked_extraction_passed_over :
    ∃ cp, Run step always (initial 0 [extractionTicket])
        (workerCrashed ++ [.submit { remuxTicket with priority := 2 }]) cp ∧
      cp.operations.any (fun op => op.state = .planned && op.currentAttempt.isSome) = true ∧
      (acquireCall secondToken).NoneTakenBlocked cp := by
  obtain ⟨cp, hrun, hrecorded, hfresh, hok⟩ : ∃ cp, Run step always (initial 0 [extractionTicket])
      (workerCrashed ++ [.submit { remuxTicket with priority := 2 }]) cp ∧
      cp.operations.any (fun op => op.state = .planned && op.currentAttempt.isSome) = true ∧
      (∀ op ∈ cp.operations, ∀ claim ∈ op.claim, claim.token ≠ secondToken.val) ∧
      succeedsWith ((acquireCall secondToken).run cp) (fun result =>
        decide (result.1 = .leased 1 1)) = true := by
    apply exists_run step always
    decide
  obtain ⟨⟨outcome, cp'⟩, hacquired, -⟩ := exists_ok hok
  exact ⟨cp, hrun, hrecorded, ((remoteAcquire_ok_unless_blocked _ cp (by decide)).1 hfresh).mp
    ⟨outcome, cp', hacquired⟩⟩

/-- The next acquire finds the extraction dispatched already and fails, with a remux
ready beside it. -/
theorem remoteAcquire_fails_with_remux_ready :
    ∃ cp, Run step always (initial 0 [extractionTicket, remuxTicket]) workerCrashed cp ∧
      cp.store.tickets.map (·.state) = [.ready, .ready] ∧
      (acquireCall secondToken).run cp = .error (RemoteAcquire.alreadyDispatched .extraction) := by
  apply exists_run step always
  decide

end ControlPlane
end Voom
