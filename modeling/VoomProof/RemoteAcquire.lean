import Mathlib.Data.Int.Order.Basic
import Mathlib.Data.List.Lex
import Mathlib.Data.List.Sort
import VoomProof.ControlPlane
import VoomProof.ScanPublication
import VoomProof.Scheduler

/-!
# Remote acquire

`remote_acquire` of `voom-control-plane`: the ready tickets a worker may execute are
scored, the best one is leased, and an audio ticket is admitted by its operation ledger,
all in one transaction. A ticket whose operation is committed is retired with the
recorded result and the choice is made again.

Authentication, the idempotency row, and the decisions and access plans recorded on the way are
left out: the call has a valid fence, a live node and a fresh key. The scheduler's choice does
not depend on the rest.

An audio ticket is `Blocked` when its source has been superseded, when another operation publishes
at one of its paths, or when the operation on record for it does not admit it. The scorer knows
nothing of that, and an admission that fails takes the whole call with it.
-/

namespace Voom
open ListUpdate Fallible AudioOperation List Option

/-- The random token of a claim. -/
def ClaimToken : Type := { token : String // token ≠ "" }

/-- A call, with the rows it reads and the modelled calls never write. -/
structure RemoteAcquire where
  workerId : WorkerId
  nodeId : NodeId
  leaseTtlSeconds : Int
  claimToken : ClaimToken
  registry : Registry
  candidateOperations : List TicketOperation
  /-- The node of each worker. -/
  nodeOf : WorkerId → NodeId
  nodeLimit : Nat
  /-- The tickets whose declared artifacts are the node's own, or that declare none. -/
  ownerLocal : TicketId → Bool
  /-- Whether the result of a committed operation is still good for a ticket. -/
  reuse : TicketId → OperationId → Except VoomError Unit
  /-- The files, versions and bundles. -/
  identity : IdentityStore
  /-- The dependents a ticket's success unblocks. -/
  unblocks : TicketId → List TicketId
  /-- The worker's row is there. -/
  registered : ∀ operation, (registry.eligibility workerId operation).workerKind.isSome ∧
    (registry.eligibility workerId operation).workerStatus.isSome
  /-- Limits are stored only when positive, and default to one. -/
  limits : (∀ operation, 0 < registry.maxParallel workerId operation) ∧
    (∀ c ∈ registry.acceleratorCapacity workerId, 0 < c.maxParallel) ∧ 0 < nodeLimit

inductive RemoteAcquireOutcome where
  | idle
  | noCandidate
  | leased (leaseId : LeaseId) (ticketId : TicketId)
  deriving DecidableEq

inductive RemoteAcquirePrepared where
  | idle
  | noCandidate
  | leased (ticketId : TicketId) (ticket : Ticket TicketWork)
  deriving DecidableEq

namespace RemoteAcquire
variable (call : RemoteAcquire)

/-! ## The choice -/

/-- `ORDER BY priority DESC, next_eligible_at ASC, id ASC`. -/
def readyOrder (a b : TicketId × Ticket TicketWork) : Prop :=
  [-a.2.priority, a.2.nextEligibleAt, (a.1 : Int)] ≤
    [-b.2.priority, b.2.nextEligibleAt, (b.1 : Int)]

instance : DecidableRel readyOrder := fun _ _ => inferInstanceAs (Decidable (_ ≤ _))

def readyForOperations (s : LeaseStore TicketWork) (now : Instant) :
    List (TicketId × Ticket TicketWork) :=
  let tokens := call.candidateOperations.flatMap (·.matchingTokens)
  let rows := (List.range s.tickets.length).filterMap fun id => (s.tickets[id]?).map (id, ·)
  (rows.filter fun row => s.leasable row.2 now && row.2.kind ∈ tokens).insertionSort readyOrder

/-- A workflow ticket without a media dispatch stays with the bundled adapter. -/
def legacyWorkflowMediaTicket (ticket : Ticket TicketWork) : Bool :=
  match ticket.kind with
  | .known kind true => kind.isNodeLocalMediaDispatch && !ticket.payload.mediaDispatch
  | _ => false

/-- The tickets that are scored. -/
def gatedTickets (s : LeaseStore TicketWork) (now : Instant) :
    List (TicketId × Ticket TicketWork) :=
  (call.readyForOperations s now).filter fun row =>
    !legacyWorkflowMediaTicket row.2 && call.ownerLocal row.1

def nodeActive (s : LeaseStore TicketWork) : Nat :=
  s.leases.countP fun lease => lease.state = .held && call.nodeOf lease.workerId = call.nodeId

def capacityFor (s : LeaseStore TicketWork) (ticket : Ticket TicketWork) :
    WorkerOperationCapacity :=
  s.operationCapacity call.registry call.workerId ticket.kind

/-- A ready ticket as the scorer sees it. -/
def candidate (s : LeaseStore TicketWork) (row : TicketId × Ticket TicketWork) :
    SchedulerCandidate :=
  let eligibility := call.registry.eligibility call.workerId row.2.kind.matchingToken
  let capacity := call.capacityFor s row.2
  { ticket := ⟨row.1, row.2.kind, row.2.priority, row.2.nextEligibleAt⟩
    worker := {
      workerId := call.workerId
      nodeId := call.nodeId
      executable := true
      hasCapability := eligibility.hasCapability
      hasGrant := eligibility.hasGrant
      denied := eligibility.isDenied
      activeLeases := capacity.activeLeases
      maxParallel := capacity.maxParallel
      artifactAccess := eligibility.artifactAccess }
    node := ⟨call.nodeId, true, true, call.nodeActive s, call.nodeLimit⟩ }

def candidateFromTicket (s : LeaseStore TicketWork) (row : TicketId × Ticket TicketWork) :
    Except VoomError SchedulerCandidate := do
  require ((call.capacityFor s row.2).maxParallel ≠ 0 ∧ call.nodeLimit ≠ 0)
    (.config "scheduler candidate limits must be positive")
  return call.candidate s row

def isSelected (selected : SelectedCandidate) (candidate : SchedulerCandidate) : Bool :=
  candidate.ticket.ticketId = selected.ticketId &&
    candidate.worker.workerId = selected.workerId && candidate.node.nodeId = selected.nodeId

def selectedInTx (s : LeaseStore TicketWork) (tickets : List (TicketId × Ticket TicketWork))
    (candidates : List SchedulerCandidate) (score : ScoreDecision) :
    Except VoomError RemoteAcquirePrepared := do
  let selected ← find score.selected (.internal "remote acquire selected score missing tuple")
  let _ ← find (candidates.find? (isSelected selected))
    (.internal s!"remote acquire selected candidate vanished ticket={selected.ticketId}")
  let row ← find (tickets.find? (·.1 = selected.ticketId))
    (.internal s!"remote acquire selected ticket vanished id={selected.ticketId}")
  -- the capacity is read again before the lease is made
  if (call.capacityFor s row.2).hasCapacity ∧ call.nodeActive s < call.nodeLimit then
    return .leased row.1 row.2
  else return .noCandidate

def preflight (s : LeaseStore TicketWork) (now : Instant) :
    Except VoomError RemoteAcquirePrepared := do
  require (0 < call.leaseTtlSeconds)
    (.config s!"lease ttl must be positive, got {call.leaseTtlSeconds}s")
  let tickets := call.gatedTickets s now
  if tickets = [] then return .idle
  else
    let candidates ← tickets.mapM (call.candidateFromTicket s)
    let score ← RemoteScore.scoreRemoteCandidates candidates
    match score.outcome with
    | .idle =>
        .error (.internal "remote acquire scorer returned idle for non-empty candidates")
    | .noEligibleCandidate => return .noCandidate
    | .selected => call.selectedInTx s tickets candidates score

/-! ## The admission of audio tickets -/

def alreadyDispatched : AudioKind → VoomError
  | .extraction => .conflict
      "extraction already dispatched; reconcile exact prior generation before another encoder"
  | .synthesis => .conflict
      "synthesis already dispatched; reconcile exact prior generation before another encoder"

inductive AudioAdmission where
  | dispatch (operations : List AudioOperation)
  | committed
  deriving DecidableEq

/-- The row of the ticket's operation is reused, or claimed for its first dispatch. -/
def admitRow (operations : List AudioOperation) (now : Instant) (ticketId : TicketId)
    (leaseId : LeaseId) (lease : Lease) (id : OperationId) (op : AudioOperation) :
    Except VoomError AudioAdmission := do
  if op.state = .committed then
    call.reuse ticketId id
    return .committed
  else
    require (op.state = .planned ∧ op.currentAttempt = none) (alreadyDispatched op.kind)
    let op ← op.acquireClaim ⟨leaseId, call.claimToken.val, lease.expiresAt⟩ now
    let op ← op.recordDispatchAttempt (AudioLedger.nextAttemptId operations op.kind) leaseId
      lease.workerId now
    return .dispatch (operations.set id op)

/-- What a request is planned from.  An extraction belongs to the bundle of its source, which must
be the active version of its asset.  A bundle made here is new, so it is never that of an
operation on record, and the call goes on to dispatch or fails. -/
def plannedDescriptor (request : AudioRequest) : Except VoomError AudioDescriptor :=
  match request.descriptor with
  | .extraction operation outputs => do
      let (bundleId, _) ← call.identity.resolveOrCreatePrimaryBundle
        operation.sourceFileVersionId request.sourcePath
      return .extraction { operation with sourceBundleId := bundleId } outputs
  | .synthesis operation companions => return .synthesis operation companions

/-- `admit_extraction_in_tx` and `admit_synthesis_in_tx`. -/
def admitOperation (operations : List AudioOperation) (now : Instant) (ticketId : TicketId)
    (leaseId : LeaseId) (lease : Lease) (request : AudioRequest) :
    Except VoomError AudioAdmission := do
  let descriptor ← call.plannedDescriptor request
  let (id, op, operations) ← AudioLedger.createPlanned operations descriptor
  call.admitRow operations now ticketId leaseId lease id op

/-- The request of a ticket that has to be admitted. -/
def audioRequest? (ticket : Ticket TicketWork) : Option AudioRequest :=
  match ticket.kind, ticket.payload with
  | .known .extractAudio true, .audio request => some request
  | .known .transcodeAudio true, .audio request => some request
  | _, _ => none

def admitInTx (operations : List AudioOperation) (now : Instant) (ticketId : TicketId)
    (ticket : Ticket TicketWork) (leaseId : LeaseId) (lease : Lease) :
    Except VoomError AudioAdmission :=
  match audioRequest? ticket with
  | some request => call.admitOperation operations now ticketId leaseId lease request
  | none => .ok (.dispatch operations)

/-! ## The call -/

def newLease (cp : ControlPlane) (ticketId : TicketId) : NewLease :=
  ⟨ticketId, call.workerId, call.leaseTtlSeconds, cp.now⟩

/-- No outcome yet when the ticket was retired with a recorded result. -/
def leasedInTx (cp : ControlPlane) (ticketId : TicketId) (ticket : Ticket TicketWork) :
    Except VoomError (Option RemoteAcquireOutcome × ControlPlane) := do
  match ← cp.store.tryAcquire call.registry (call.newLease cp ticketId) with
  | (.acquired leaseId lease, store) =>
      match ← call.admitInTx cp.operations cp.now ticketId ticket leaseId lease with
      | .dispatch operations =>
          return (some (.leased leaseId ticketId),
            { cp with store := store, operations := operations })
      | .committed =>
          let cp ← { cp with store := store }.releaseLease leaseId (call.unblocks ticketId)
          return (none, cp)
  | (.workerIneligible workerId _ .workerMissing, _) =>
      .error (.internal
        s!"remote acquire selected worker {workerId} vanished before lease creation")
  | _ => return (some .noCandidate, cp)

/-- The loop over reused results.  Every round but the last retires a ticket, so a round
for each ticket and one more are enough. -/
def loop : Nat → List TicketId → ControlPlane →
    Except VoomError (RemoteAcquireOutcome × ControlPlane)
  | 0, _, _ => .error (.internal "remote acquire did not end")
  | rounds + 1, reused, cp => do
      match ← call.preflight cp.store cp.now with
      | .idle => return (.idle, cp)
      | .noCandidate => return (.noCandidate, cp)
      | .leased ticketId ticket =>
          match ← call.leasedInTx cp ticketId ticket with
          | (some outcome, cp) => return (outcome, cp)
          | (none, cp) =>
              if ticketId ∈ reused then
                .error (.database "audio reuse did not retire its selected ticket")
              else loop rounds (ticketId :: reused) cp

def run (cp : ControlPlane) : Except VoomError (RemoteAcquireOutcome × ControlPlane) :=
  call.loop (cp.store.tickets.length + 1) [] cp

/-! ## What is chosen -/

section Choice
variable {call} {s : LeaseStore TicketWork} {now : Instant}

/-- A scored ticket may be leased now, and its kind names an operation. -/
theorem mem_gatedTickets {row : TicketId × Ticket TicketWork} (h : row ∈ call.gatedTickets s now) :
    s.tickets[row.1]? = some row.2 ∧ s.leasable row.2 now ∧
      row.2.kind.isUnknownNamespaced = false := by
  have hready : row ∈ call.readyForOperations s now := (mem_filter.mp h).1
  unfold readyForOperations at hready
  rw [mem_insertionSort] at hready
  obtain ⟨hrow, hcond⟩ := mem_filter.mp hready
  obtain ⟨hleasable, hkind⟩ := Bool.and_eq_true_iff.mp hcond
  refine ⟨?_, of_decide_eq_true hleasable, ?_⟩
  · obtain ⟨_, -, hid⟩ := mem_filterMap.mp hrow
    obtain ⟨_, htick, rfl⟩ := map_eq_some_iff.mp hid
    exact htick
  · -- unknown reserved tokens are nobody's token
    obtain ⟨operation, -, htoken⟩ := mem_flatMap.mp (of_decide_eq_true hkind)
    rcases operation with ⟨_, _⟩ | _ | _
    · rcases mem_pair.mp htoken with heq | heq <;> rw [heq] <;> rfl
    · rw [mem_singleton.mp htoken]; rfl
    · cases htoken

theorem capacityFor_pos (ticket : Ticket TicketWork) :
    (call.capacityFor s ticket).maxParallel ≠ 0 := by
  unfold capacityFor LeaseStore.operationCapacity
  obtain ⟨hmax, haccelerator, -⟩ := call.limits
  dsimp only
  split
  · cases hc : call.registry.acceleratorCapacity call.workerId with
    | none => exact Nat.pos_iff_ne_zero.mp (hmax _)
    | some c => exact Nat.pos_iff_ne_zero.mp (haccelerator c hc)
  · exact Nat.pos_iff_ne_zero.mp (hmax _)

theorem candidateFromTicket_eq (row : TicketId × Ticket TicketWork) :
    call.candidateFromTicket s row = .ok (call.candidate s row) := by
  have hlimit : call.nodeLimit ≠ 0 := Nat.pos_iff_ne_zero.mp call.limits.2.2
  exact bind_ok.mpr ⟨(), require_ok.mpr ⟨capacityFor_pos row.2, hlimit⟩, rfl⟩

/-- The ticket a decision selects is found again. -/
theorem selectedInTx_decides {tickets : List (TicketId × Ticket TicketWork)} {score : ScoreDecision}
    (h : RemoteScore.Chooses (tickets.map (call.candidate s)) score) :
    ∃ prepared, call.selectedInTx s tickets (tickets.map (call.candidate s)) score = .ok prepared ∧
      ∀ id ticket, prepared = .leased id ticket → (id, ticket) ∈ tickets := by
  obtain ⟨-, c, hc, -, selected, hsel, htick, hworker, hnode⟩ := h
  have hfound : ((tickets.map (call.candidate s)).find? (isSelected selected)).isSome := by
    rw [find?_isSome]
    exact ⟨c, hc, by simp [isSelected, htick, hworker, hnode]⟩
  have hrow : (tickets.find? (·.1 = selected.ticketId)).isSome := by
    obtain ⟨row, hmem, hcand⟩ := mem_map.mp hc
    rw [find?_isSome]
    refine ⟨row, hmem, ?_⟩
    rw [htick, ← hcand]
    exact decide_eq_true rfl
  obtain ⟨_, hc'⟩ := isSome_iff_exists.mp hfound
  obtain ⟨row, hrow⟩ := isSome_iff_exists.mp hrow
  unfold selectedInTx
  rw [bind_of_find hsel, bind_of_find hc', bind_of_find hrow]
  by_cases hfree : (call.capacityFor s row.2).hasCapacity ∧ call.nodeActive s < call.nodeLimit
  · refine ⟨.leased row.1 row.2, if_pos hfree, fun _ _ heq => ?_⟩
    cases heq
    exact mem_of_find?_eq_some hrow
  · exact ⟨.noCandidate, if_neg hfree, fun _ _ heq => nomatch heq⟩

/-- A call with a positive ttl always chooses: nothing, or a ticket that may be leased. -/
theorem preflight_decides (httl : 0 < call.leaseTtlSeconds) :
    ∃ prepared, call.preflight s now = .ok prepared ∧
      ∀ id ticket, prepared = .leased id ticket →
        s.tickets[id]? = some ticket ∧ s.leasable ticket now ∧
          ticket.kind.isUnknownNamespaced = false := by
  have hcands : (call.gatedTickets s now).mapM (call.candidateFromTicket s) =
      .ok ((call.gatedTickets s now).map (call.candidate s)) :=
    mapM_ok fun row _ => candidateFromTicket_eq row
  unfold preflight
  rw [bind_of_require httl]
  by_cases hempty : call.gatedTickets s now = []
  · exact ⟨.idle, if_pos hempty, fun _ _ heq => nomatch heq⟩
  have hne : (call.gatedTickets s now).map (call.candidate s) ≠ [] :=
    fun hnil => hempty (map_eq_nil_iff.mp hnil)
  have hnode : ∀ c ∈ (call.gatedTickets s now).map (call.candidate s),
      c.worker.nodeId = c.node.nodeId := by
    intro c hc
    obtain ⟨_, -, rfl⟩ := mem_map.mp hc
    rfl
  obtain ⟨_, hscore, hdecision⟩ := RemoteScore.scoreRemoteCandidates_decides hne hnode
  rw [if_neg hempty, bind_of_ok hcands, bind_of_ok hscore]
  rcases hdecision with hchooses | hnone
  · rw [hchooses.1]
    obtain ⟨prepared, hprep, hmem⟩ := selectedInTx_decides hchooses
    exact ⟨prepared, hprep, fun id ticket heq => mem_gatedTickets (hmem id ticket heq)⟩
  · rw [hnone]
    exact ⟨.noCandidate, rfl, fun _ _ heq => nomatch heq⟩

end Choice

/-! ## What is admitted -/

/-- The ticket cannot be admitted. -/
inductive Blocked (operations : List AudioOperation) (now : Instant) (ticketId : TicketId)
    (request : AudioRequest) : Prop where
  /-- The source is not the active version of its asset, or not of a primary file. -/
  | source (h : ∀ d, call.plannedDescriptor request ≠ .ok d)
  /-- The operation is new, and an output of it cannot be recorded: its path is that of another. -/
  | taken {d : AudioDescriptor} (planned : call.plannedDescriptor request = .ok d)
      (new : AudioLedger.lookup operations d = none)
      (h : AudioLedger.insertPlanned operations d ≠ .ok ())
  /-- The operation on record was planned from other descriptors, or its result cannot be reused,
  or it is under way. -/
  | recorded {d : AudioDescriptor} {id : OperationId} {op : AudioOperation}
      (planned : call.plannedDescriptor request = .ok d)
      (known : AudioLedger.lookup operations d = some id) (row : operations[id]? = some op)
      (h : op.descriptor ≠ d ∨ (op.state = .committed ∧ call.reuse ticketId id ≠ .ok ()) ∨
        (op.state ≠ .committed ∧ (op.state ≠ .planned ∨ op.Dispatched ∨ op.live now)))

section Admission
variable {call} {operations operations' : List AudioOperation} {now : Instant}
  {ticketId : TicketId} {leaseId : LeaseId} {lease : Lease} {request : AudioRequest}
  {id : OperationId} {op : AudioOperation}

/-- The row a first dispatch leaves. -/
def dispatchedRow (op : AudioOperation) (attemptId : Nat) (claim : AudioClaim)
    (workerId : WorkerId) : AudioOperation :=
  { op with
    claim := some claim
    attempts := ⟨attemptId, op.generation, claim.leaseId, workerId, .active⟩ :: op.attempts }

theorem dispatchedRow_dispatched (op : AudioOperation) (attemptId : Nat) (claim : AudioClaim)
    (workerId : WorkerId) : (dispatchedRow op attemptId claim workerId).Dispatched :=
  ⟨_, mem_cons_self, rfl⟩

theorem admitRow_dispatch (h : call.admitRow operations now ticketId leaseId lease id op =
      .ok (.dispatch operations')) :
    ¬ op.Dispatched ∧ ∃ attemptId claim, operations' =
      operations.set id (dispatchedRow op attemptId claim lease.workerId) := by
  unfold admitRow at h
  split at h
  · simp only [bind_ok] at h
    obtain ⟨_, -, hcommit⟩ := h
    cases hcommit
  · simp only [acquireClaim, recordDispatchAttempt, bind_ok, require_ok, return_ok] at h
    obtain ⟨_, ⟨-, hnone⟩, _, ⟨_, -, _, -, rfl⟩, _, ⟨_, -, rfl⟩, heq⟩ := h
    cases heq
    refine ⟨fun hdisp => ?_, _, ⟨leaseId, call.claimToken.val, lease.expiresAt⟩, rfl⟩
    have hsome : op.currentAttempt.isSome := currentAttempt_isSome.mpr hdisp
    rw [hnone] at hsome
    cases hsome

theorem admitRow_ok (hreuse : op.state = .committed → call.reuse ticketId id = .ok ())
    (hidle : op.state ≠ .committed →
      op.state = .planned ∧ ¬ op.Dispatched ∧ op.live now = false) (hexp : now < lease.expiresAt) :
    ∃ admission, call.admitRow operations now ticketId leaseId lease id op = .ok admission := by
  unfold admitRow
  by_cases hcommit : op.state = .committed
  · rw [if_pos hcommit, bind_of_ok (hreuse hcommit)]
    exact ⟨_, rfl⟩
  obtain ⟨hplan, hfirst, hdead⟩ := hidle hcommit
  have hnone : op.currentAttempt = none := by
    rw [← not_isSome_iff_eq_none, currentAttempt_isSome]
    exact hfirst
  have hclaim : op.acquireClaim ⟨leaseId, call.claimToken.val, lease.expiresAt⟩ now =
      .ok { op with claim := some ⟨leaseId, call.claimToken.val, lease.expiresAt⟩ } := by
    unfold acquireClaim
    rw [bind_of_require ⟨call.claimToken.property, hexp⟩, bind_of_require]
    · rfl
    · refine ⟨hcommit, fun _ hheld => .inl ?_⟩
      rw [live, mem_def.mp hheld] at hdead
      simpa using hdead
  rw [if_neg hcommit, bind_of_require ⟨hplan, hnone⟩, bind_of_ok hclaim]
  unfold recordDispatchAttempt
  rw [bind_of_require]
  · exact ⟨_, rfl⟩
  · exact ⟨hplan, by simpa [live] using hexp⟩

theorem admitRow_error (hblock : (op.state = .committed ∧ call.reuse ticketId id ≠ .ok ()) ∨
      (op.state ≠ .committed ∧ (op.state ≠ .planned ∨ op.Dispatched ∨ op.live now)))
    (hfresh : ∀ claim ∈ op.claim, claim.token ≠ call.claimToken.val) :
    ∃ e, call.admitRow operations now ticketId leaseId lease id op = .error e := by
  refine error_of_not_ok fun _ h => ?_
  unfold admitRow at h
  rcases hblock with ⟨hcommit, hreuse⟩ | ⟨hopen, hbusy⟩
  · rw [if_pos hcommit] at h
    obtain ⟨_, hok, -⟩ := bind_ok.mp h
    exact hreuse hok
  · rw [if_neg hopen] at h
    simp only [acquireClaim, bind_ok, require_ok, return_ok] at h
    obtain ⟨_, ⟨hplan, hnone⟩, _, ⟨_, -, _, ⟨-, hclaim⟩, rfl⟩, -⟩ := h
    rcases hbusy with hst | hdisp | hlive
    · exact hst hplan
    · rw [← currentAttempt_isSome, hnone] at hdisp
      cases hdisp
    · obtain ⟨held, hheld, hlater⟩ := (any_eq_true _ _).mp hlive
      rcases hclaim held hheld with hdue | ⟨-, htoken⟩
      · exact Int.not_le.mpr (of_decide_eq_true hlater) hdue
      · exact hfresh held hheld htoken

theorem lookup_some {d : AudioDescriptor} (h : AudioLedger.lookup operations d = some id) :
    ∃ op, operations[id]? = some op := by
  obtain ⟨hlt, -⟩ := findIdx?_eq_some_iff_getElem.mp h
  exact ⟨_, getElem?_eq_getElem hlt⟩

theorem plannedDescriptor_valid {d : AudioDescriptor}
    (h : call.plannedDescriptor request = .ok d) : d.validateNewOperation = .ok () := by
  have hvalid := request.valid
  unfold plannedDescriptor at h
  split at h
  next heq =>
    rw [heq] at hvalid
    obtain ⟨_, -, h⟩ := bind_ok.mp h
    cases h
    exact hvalid
  next heq =>
    rw [heq] at hvalid
    cases h
    exact hvalid

section Created
variable {d : AudioDescriptor} (hvalid : d.validateNewOperation = .ok ())
include hvalid

/-- The row of an operation key is the one on record, which must have the same
descriptors. -/
theorem createPlanned_of_lookup (hid : AudioLedger.lookup operations d = some id)
    (hop : operations[id]? = some op) :
    AudioLedger.createPlanned operations d =
      op.requireExactReplay d >>= fun _ => .ok (id, op, operations) := by
  unfold AudioLedger.createPlanned
  rw [bind_of_ok hvalid, hid]
  exact bind_of_find hop _

/-- With none on record it is a new one. -/
theorem createPlanned_of_none (hnone : AudioLedger.lookup operations d = none) :
    AudioLedger.createPlanned operations d = AudioLedger.insertPlanned operations d >>= fun _ =>
      .ok (operations.length, planned d, operations ++ [planned d]) := by
  unfold AudioLedger.createPlanned
  rw [bind_of_ok hvalid, hnone]
  rfl

end Created

/-- An admission that dispatches is the first one of its row. -/
theorem admitOperation_step (h : call.admitOperation operations now ticketId leaseId lease request =
      .ok (.dispatch operations')) : AudioLedger.Step now operations operations' := by
  obtain ⟨d, hplanned, h⟩ := bind_ok.mp h
  obtain ⟨⟨_, op, _⟩, hcreate, hrow⟩ := bind_ok.mp h
  have hvalid := plannedDescriptor_valid hplanned
  obtain ⟨hfirst, attemptId, claim, rfl⟩ := admitRow_dispatch hrow
  have hdisp := dispatchedRow_dispatched op attemptId claim lease.workerId
  cases hid : AudioLedger.lookup operations d with
  | some =>
    obtain ⟨_, hop'⟩ := lookup_some hid
    rw [createPlanned_of_lookup hvalid hid hop'] at hcreate
    obtain ⟨_, -, heq⟩ := bind_ok.mp hcreate
    cases heq
    exact .set hop' ⟨rfl, fun _ => hdisp, fun hd => absurd hd hfirst⟩
  | none =>
    rw [createPlanned_of_none hvalid hid] at hcreate
    obtain ⟨_, -, heq⟩ := bind_ok.mp hcreate
    cases heq
    rw [set_append_right _ _ (Nat.le_refl _), Nat.sub_self]
    exact .concat hdisp

theorem admitOperation_ok (hfree : ¬ call.Blocked operations now ticketId request)
    (hexp : now < lease.expiresAt) :
    ∃ admission, call.admitOperation operations now ticketId leaseId lease request =
      .ok admission := by
  obtain ⟨d, hplanned⟩ : ∃ d, call.plannedDescriptor request = .ok d := by
    by_contra hnone
    exact hfree (.source (not_exists.mp hnone))
  have hvalid := plannedDescriptor_valid hplanned
  unfold admitOperation
  rw [bind_of_ok hplanned]
  cases hid : AudioLedger.lookup operations d with
  | some id =>
    obtain ⟨op, hop⟩ := lookup_some hid
    have hnot := fun h => hfree (.recorded hplanned hid hop h)
    have hdesc : op.descriptor = d := Decidable.byContradiction fun hne => hnot (.inl hne)
    rw [createPlanned_of_lookup hvalid hid hop, requireExactReplay, bind_of_require hdesc]
    refine admitRow_ok (fun hcommit => ?_) (fun hopen => ⟨?_, ?_, ?_⟩) hexp
    · exact Decidable.byContradiction fun hne => hnot (.inr (.inl ⟨hcommit, hne⟩))
    · exact Decidable.byContradiction fun hne => hnot (.inr (.inr ⟨hopen, .inl hne⟩))
    · exact fun hd => hnot (.inr (.inr ⟨hopen, .inr (.inl hd)⟩))
    · exact Bool.eq_false_iff.mpr fun hl => hnot (.inr (.inr ⟨hopen, .inr (.inr hl)⟩))
  | none =>
    have hinsert : AudioLedger.insertPlanned operations d = .ok () :=
      Decidable.byContradiction fun hne => hfree (.taken hplanned hid hne)
    rw [createPlanned_of_none hvalid hid, bind_of_ok hinsert, bind_of_ok rfl]
    refine admitRow_ok (fun hcommit => ?_) (fun _ => ⟨?_, ?_, ?_⟩) hexp
    · cases hcommit
    · rfl
    · rintro ⟨_, hmem, -⟩
      cases hmem
    · rfl

theorem admitOperation_error (hblock : call.Blocked operations now ticketId request)
    (hfresh : ∀ op ∈ operations, ∀ claim ∈ op.claim, claim.token ≠ call.claimToken.val) :
    ∃ e, call.admitOperation operations now ticketId leaseId lease request = .error e := by
  refine error_of_not_ok fun admission h => ?_
  obtain ⟨d, hplanned, h⟩ := bind_ok.mp h
  obtain ⟨⟨_, _, _⟩, hcreate, hrow⟩ := bind_ok.mp h
  have hvalid := plannedDescriptor_valid hplanned
  cases hblock with
  | source hnone => exact hnone d hplanned
  | taken hplanned' hnew hrefused =>
    cases ok_unique hplanned hplanned'
    rw [createPlanned_of_none hvalid hnew] at hcreate
    obtain ⟨_, hinsert, -⟩ := bind_ok.mp hcreate
    exact hrefused hinsert
  | recorded hplanned' hid hop hwhy =>
    cases ok_unique hplanned hplanned'
    rw [createPlanned_of_lookup hvalid hid hop, requireExactReplay] at hcreate
    obtain ⟨_, hdesc, heq⟩ := bind_ok.mp hcreate
    cases heq
    obtain ⟨_, herror⟩ : ∃ e, call.admitRow _ now ticketId leaseId lease _ _ = .error e :=
      admitRow_error (hwhy.resolve_left (not_not.mpr (require_ok.mp hdesc)))
        (hfresh _ (mem_of_getElem? hop))
    cases herror.symm.trans hrow

end Admission

/-! ## The whole call -/

/-- Not yet leased for the last time. -/
def Waiting (ticket : Ticket TicketWork) : Prop :=
  ticket.state = .pending ∨ ticket.state = .ready

/-- No waiting ticket is blocked. -/
def NoneBlocked (cp : ControlPlane) : Prop :=
  ∀ id ticket, cp.store.tickets[id]? = some ticket → Waiting ticket →
    ∀ request ∈ audioRequest? ticket, ¬ call.Blocked cp.operations cp.now id request

/-- The ticket is chosen, and leased by the repository. -/
def Takes (cp : ControlPlane) (ticketId : TicketId) (ticket : Ticket TicketWork) : Prop :=
  call.preflight cp.store cp.now = .ok (.leased ticketId ticket) ∧
    ∃ leaseId lease store, cp.store.tryAcquire call.registry (call.newLease cp ticketId) =
      .ok (.acquired leaseId lease, store)

/-- Rounds that each retire a ticket with a recorded result. -/
inductive Rounds : ControlPlane → ControlPlane → Prop where
  | refl (cp : ControlPlane) : Rounds cp cp
  | reuse {cp cp' cp'' : ControlPlane} {ticketId : TicketId} {ticket : Ticket TicketWork}
      (chosen : call.preflight cp.store cp.now = .ok (.leased ticketId ticket))
      (retired : call.leasedInTx cp ticketId ticket = .ok (none, cp')) (rest : Rounds cp' cp'') :
      Rounds cp cp''

/-- No ticket that a round chooses and leases is blocked. -/
def NoneTakenBlocked (cp : ControlPlane) : Prop :=
  ∀ cp' ticketId ticket, call.Rounds cp cp' → call.Takes cp' ticketId ticket →
    ∀ request ∈ audioRequest? ticket, ¬ call.Blocked cp'.operations cp'.now ticketId request

/-- A ticket that has succeeded. -/
def Succeeded (s : LeaseStore TicketWork) (id : TicketId) : Prop :=
  ∃ ticket, s.tickets[id]? = some ticket ∧ ticket.state = .succeeded

/-- A round that reuses a result retires its ticket; of the others, some may become
ready. -/
structure Retires (ticketId : TicketId) (cp cp' : ControlPlane) : Prop where
  now : cp'.now = cp.now
  operations : cp'.operations = cp.operations
  length : cp'.store.tickets.length = cp.store.tickets.length
  retired : Succeeded cp'.store ticketId
  succeeded : ∀ {id : TicketId}, Succeeded cp.store id → Succeeded cp'.store id
  waiting : ∀ {id : TicketId} {ticket' : Ticket TicketWork},
    cp'.store.tickets[id]? = some ticket' → Waiting ticket' →
    ∃ ticket, cp.store.tickets[id]? = some ticket ∧ Waiting ticket ∧
      audioRequest? ticket = audioRequest? ticket'

section Whole
variable {call} {cp cp' : ControlPlane} {ticketId : TicketId} {ticket : Ticket TicketWork}
  {reused : List TicketId}

theorem NoneBlocked.retires (h : call.NoneBlocked cp) (hr : Retires ticketId cp cp') :
    call.NoneBlocked cp' := by
  intro id _ htick' hwait request hreq
  obtain ⟨ticket, htick, hbef, hsame⟩ := hr.waiting htick' hwait
  rw [hr.now, hr.operations]
  exact h id ticket htick hbef request (hsame ▸ hreq)

/-- A ticket that is leased and released at once is retired. -/
theorem lease_release_retires {input : NewLease} (unblocked : List TicketId)
    (htick : cp.store.tickets[input.ticketId]? = some ticket) :
    ∃ cp', ({ cp with store := cp.store.lease ticket input } : ControlPlane).releaseLease
        cp.store.leases.length unblocked = .ok cp' ∧ Retires input.ticketId cp cp' := by
  refine ⟨_, bind_of_ok (LeaseStore.release_lease htick) _, ?_⟩
  let done : Ticket TicketWork := { ticket with state := .succeeded, attempt := ticket.attempt + 1 }
  have hset : ∀ id, (cp.store.tickets.set input.ticketId done)[id]? =
      if id = input.ticketId then some done else cp.store.tickets[id]? :=
    getElem?_set_at htick
  have hret : (cp.store.tickets.set input.ticketId done)[input.ticketId]? = some done := by
    rw [hset, if_pos rfl]
  refine ⟨rfl, rfl, by simp [LeaseStore.markReady],
    ⟨done, LeaseStore.markReady_of_not_pending hret (nomatch ·), rfl⟩, ?_, ?_⟩
  · rintro id ⟨old, hold, hst⟩
    by_cases hid : id = input.ticketId
    · subst hid
      exact ⟨done, LeaseStore.markReady_of_not_pending hret (nomatch ·), rfl⟩
    · have hkept : (cp.store.tickets.set input.ticketId done)[id]? = some old := by
        rw [hset, if_neg hid, hold]
      exact ⟨old, LeaseStore.markReady_of_not_pending hkept (by rw [hst]; decide), hst⟩
  · intro id ticket' htick' hwait
    obtain ⟨before, hbef, hsame⟩ := LeaseStore.markReady_row htick'
    have hopen : Waiting before ∧ audioRequest? before = audioRequest? ticket' := by
      rcases hsame with rfl | ⟨hpend, rfl⟩
      · exact ⟨hwait, rfl⟩
      · exact ⟨.inl hpend, rfl⟩
    have hrow : (cp.store.tickets.set input.ticketId done)[id]? = some before := hbef
    rw [hset] at hrow
    split at hrow
    · cases hrow
      rcases hopen.1 with hst | hst <;> cases hst
    · exact ⟨before, hrow, hopen⟩

/-- Without an outcome the ticket was retired. -/
theorem leasedInTx_retires (h : call.leasedInTx cp ticketId ticket = .ok (none, cp')) :
    Retires ticketId cp cp' := by
  obtain ⟨⟨acquired, store⟩, hacquire, h⟩ := bind_ok.mp h
  split at h
  next heq =>
    cases heq
    obtain ⟨admission, -, h⟩ := bind_ok.mp h
    cases admission with
    | dispatch => cases h
    | committed =>
      obtain ⟨_, hreleased, h⟩ := bind_ok.mp h
      cases h
      obtain ⟨rfl, rfl, _, htick, -, -, rfl⟩ := LeaseStore.tryAcquire_acquired hacquire
      obtain ⟨_, hreleased', hret⟩ := lease_release_retires (call.unblocks ticketId) htick
      exact ok_unique hreleased' hreleased ▸ hret
  · cases h
  · cases h

/-- The ticket chosen is leased, or passed over, or retired. -/
theorem leasedInTx_ok (httl : 0 < call.leaseTtlSeconds)
    (htick : cp.store.tickets[ticketId]? = some ticket)
    (hkind : ticket.kind.isUnknownNamespaced = false)
    (hfree : (∃ leaseId lease store, cp.store.tryAcquire call.registry (call.newLease cp ticketId) =
        .ok (.acquired leaseId lease, store)) → ∀ request ∈ audioRequest? ticket,
      ¬ call.Blocked cp.operations cp.now ticketId request) :
    ∃ outcome cp', call.leasedInTx cp ticketId ticket = .ok (outcome, cp') := by
  obtain ⟨_, store, hacquire, hpresent⟩ := LeaseStore.tryAcquire_decides
    (call.newLease cp ticketId) httl htick hkind (call.registered _)
  unfold leasedInTx
  rw [bind_of_ok hacquire]
  split
  next store heq =>
    cases heq
    obtain ⟨rfl, rfl, _, htick', -, -, rfl⟩ := LeaseStore.tryAcquire_acquired hacquire
    have hexp : cp.now < (LeaseStore.newLease (call.newLease cp ticketId)).expiresAt :=
      Int.lt_add_of_pos_right _ httl
    obtain ⟨admission, hadmission⟩ :
      ∃ admission, call.admitInTx cp.operations cp.now ticketId ticket
        cp.store.leases.length (LeaseStore.newLease (call.newLease cp ticketId)) =
        .ok admission := by
      unfold admitInTx
      split
      next request hreq => exact admitOperation_ok (hfree ⟨_, _, _, hacquire⟩ request hreq) hexp
      · exact ⟨_, rfl⟩
    rw [bind_of_ok hadmission]
    cases admission with
    | dispatch => exact ⟨_, _, rfl⟩
    | committed =>
      obtain ⟨cp', hreleased, -⟩ := lease_release_retires (call.unblocks ticketId) htick'
      exact ⟨none, cp', bind_of_ok hreleased _⟩
  next workerId operation _ heq =>
    cases heq
    exact absurd rfl (hpresent workerId operation)
  · exact ⟨_, _, rfl⟩

/-- The tickets retired so far. -/
structure Reused (reused : List TicketId) (cp : ControlPlane) : Prop where
  nodup : reused.Nodup
  succeeded : ∀ id ∈ reused, Succeeded cp.store id

theorem Reused.length_le (h : Reused reused cp) : reused.length ≤ cp.store.tickets.length := by
  have hsub : reused ⊆ List.range cp.store.tickets.length := by
    intro id hid
    obtain ⟨_, htick, -⟩ := h.succeeded id hid
    exact List.mem_range.mpr (lt_length htick)
  simpa using (List.subperm_of_subset h.nodup hsub).length_le

/-- Enough rounds and none that takes a blocked ticket: the loop ends with an outcome. -/
theorem loop_ok (httl : 0 < call.leaseTtlSeconds) {rounds : Nat} (hfree : call.NoneTakenBlocked cp)
    (hreused : Reused reused cp) (hrounds : cp.store.tickets.length < rounds + reused.length) :
    ∃ outcome cp', call.loop rounds reused cp = .ok (outcome, cp') := by
  induction rounds generalizing reused cp with
  | zero =>
    have := hreused.length_le
    omega
  | succ _ ih =>
    obtain ⟨prepared, hprep, hchosen⟩ := preflight_decides httl
    rw [loop, bind_of_ok hprep]
    cases prepared with
    | idle | noCandidate => exact ⟨_, _, rfl⟩
    | leased ticketId ticket =>
      obtain ⟨htick, hready, hkind⟩ := hchosen ticketId ticket rfl
      obtain ⟨outcome, _, hleased⟩ := leasedInTx_ok httl htick hkind fun hacquire =>
        hfree cp ticketId ticket (.refl cp) ⟨hprep, hacquire⟩
      dsimp only
      rw [bind_of_ok hleased]
      cases outcome with
      | some => exact ⟨_, _, rfl⟩
      | none =>
        have hr := leasedInTx_retires hleased
        -- a ready ticket is not one of those retired before
        have hnew : ticketId ∉ reused := by
          intro hmem
          obtain ⟨_, hdone, hst⟩ := hreused.succeeded ticketId hmem
          rw [htick] at hdone
          cases hdone
          rw [hready.1] at hst
          cases hst
        dsimp only
        rw [if_neg hnew]
        refine ih (fun _ _ _ hrounds => hfree _ _ _ (.reuse hprep hleased hrounds))
          ⟨nodup_cons.mpr ⟨hnew, hreused.nodup⟩, ?_⟩ ?_
        · intro id hid
          rcases mem_cons.mp hid with rfl | hid
          · exact hr.retired
          · exact hr.succeeded (hreused.succeeded id hid)
        · rw [hr.length, length_cons]
          omega

theorem run_ok (httl : 0 < call.leaseTtlSeconds) (hfree : call.NoneTakenBlocked cp) :
    ∃ outcome cp', call.run cp = .ok (outcome, cp') :=
  loop_ok httl hfree ⟨.nil, fun _ h => nomatch h⟩ (by simp)

/-- A blocked ticket that is chosen and leased takes the call with it, in whatever round. -/
theorem loop_not_blocked {rounds : Nat} {result : RemoteAcquireOutcome × ControlPlane}
    (h : call.loop rounds reused cp = .ok result)
    (hfresh : ∀ op ∈ cp.operations, ∀ claim ∈ op.claim, claim.token ≠ call.claimToken.val) :
    call.NoneTakenBlocked cp := by
  intro cp' ticketId ticket hrounds htakes request hreq hblock
  induction hrounds generalizing rounds reused with
  | refl cp =>
    obtain ⟨hprep, leaseId, lease, _, hacquire⟩ := htakes
    obtain ⟨_, herror⟩ : ∃ e, call.admitInTx cp.operations cp.now ticketId ticket leaseId lease =
        .error e := by
      rw [admitInTx, mem_def.mp hreq]
      exact admitOperation_error hblock hfresh
    cases rounds with
    | zero => cases h
    | succ =>
      rw [loop, bind_of_ok hprep] at h
      dsimp only at h
      rw [leasedInTx, bind_of_ok hacquire] at h
      dsimp only at h
      rw [herror] at h
      cases h
  | reuse hprep hleased _ ih =>
    cases rounds with
    | zero => cases h
    | succ =>
      rw [loop, bind_of_ok hprep] at h
      dsimp only at h
      rw [bind_of_ok hleased] at h
      dsimp only at h
      split at h
      · cases h
      · exact ih h ((leasedInTx_retires hleased).operations ▸ hfresh) htakes hblock

/-- What is chosen was waiting, and what is waiting after a round was waiting before. -/
theorem NoneBlocked.noneTaken (httl : 0 < call.leaseTtlSeconds) (h : call.NoneBlocked cp) :
    call.NoneTakenBlocked cp := by
  intro cp' ticketId ticket hrounds htakes
  induction hrounds with
  | refl cp =>
    obtain ⟨_, hprep, hchosen⟩ := preflight_decides httl
    obtain ⟨htick, hready, -⟩ := hchosen ticketId ticket (ok_unique hprep htakes.1)
    exact h ticketId ticket htick (.inr hready.1)
  | reuse _ hleased _ ih => exact ih (h.retires (leasedInTx_retires hleased)) htakes

/-! ## What the call leaves of the ledgers -/

theorem admitInTx_step {operations operations' : List AudioOperation} {now : Instant}
    {leaseId : LeaseId} {lease : Lease}
    (h : call.admitInTx operations now ticketId ticket leaseId lease =
      .ok (.dispatch operations')) : AudioLedger.Step now operations operations' := by
  unfold admitInTx at h
  split at h
  · exact admitOperation_step h
  · cases h; exact .refl _

theorem leasedInTx_keeps {outcome : Option RemoteAcquireOutcome}
    (h : call.leasedInTx cp ticketId ticket = .ok (outcome, cp')) : cp.Keeps cp' := by
  obtain ⟨⟨_, _⟩, -, h⟩ := bind_ok.mp h
  split at h
  · obtain ⟨admission, hadmission, h⟩ := bind_ok.mp h
    cases admission with
    | dispatch =>
      cases h
      exact ⟨rfl, admitInTx_step hadmission⟩
    | committed =>
      obtain ⟨_, hreleased, h⟩ := bind_ok.mp h
      cases h
      have hrel := ControlPlane.releaseLease_keeps hreleased
      exact ⟨hrel.now, hrel.operations⟩
  · cases h
  · cases h
    exact .refl cp

theorem loop_keeps {rounds : Nat} {outcome : RemoteAcquireOutcome}
    (h : call.loop rounds reused cp = .ok (outcome, cp')) : cp.Keeps cp' := by
  induction rounds generalizing reused cp with
  | zero => cases h
  | succ _ ih =>
    obtain ⟨prepared, -, h⟩ := bind_ok.mp h
    cases prepared with
    | idle | noCandidate => cases h; exact .refl _
    | leased =>
      obtain ⟨⟨next, cp₁⟩, hleased, h⟩ := bind_ok.mp h
      have hkeeps : cp.Keeps cp₁ := leasedInTx_keeps hleased
      cases next with
      | some => cases h; exact hkeeps
      | none =>
        dsimp only at h
        split at h
        · cases h
        · exact hkeeps.trans (ih h)

theorem run_keeps {outcome : RemoteAcquireOutcome} (h : call.run cp = .ok (outcome, cp')) :
    cp.Keeps cp' :=
  loop_keeps h

end Whole

end RemoteAcquire
end Voom
