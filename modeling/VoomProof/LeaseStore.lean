import Mathlib.Logic.Relation
import VoomProof.Fallible
import VoomProof.ListUpdate
import VoomProof.Taxonomy
import VoomProof.WireEnvelope

/-!
# Tickets and leases

The ticket and lease tables of `voom-store` and the calls of `SqliteLeaseRepo`
(`repo/execution/leases.rs`): acquiring a lease on a ready ticket, heartbeats, the
four ways a lease ends (release, failure, expiry, forced release), and what each
leaves of the ticket.

A table is the list of its rows and a row's id is its index; rows are never deleted. A call that
fails is rolled back and returns the error alone. The worker tables are only read, through a
`Registry`; two calls may see different ones.

`Change` says what one call can do to the two tables, and every invariant is derived
from it: `Sound` (a held lease's ticket is leased, and no later lease is on it), and
`Extends` (a lease stays on its ticket and is never held again).
-/

namespace Voom
open Option

/-- Whole seconds. -/
abbrev Instant := Int

inductive TicketState where
  | pending
  | ready
  | leased
  | succeeded
  | failed
  deriving DecidableEq

/-- A ticket row; `Payload` is the type of ticket payloads. -/
structure Ticket (Payload : Type) where
  jobId : Option JobId
  kind : TicketOperation
  state : TicketState
  priority : Int
  payload : Payload
  attempt : Nat
  maxAttempts : Nat
  nextEligibleAt : Instant
  deriving DecidableEq

inductive LeaseState where
  | held
  | released
  | expired
  | forceReleased
  deriving DecidableEq

def LeaseState.asStr : LeaseState → String
  | held => "held"
  | released => "released"
  | expired => "expired"
  | forceReleased => "force_released"

structure Lease where
  ticketId : TicketId
  workerId : WorkerId
  state : LeaseState
  expiresAt : Instant
  ttlSeconds : Int
  deriving DecidableEq

/-! ## Workers -/

inductive WorkerKind where
  | «local»
  | remote
  | synthetic
  deriving DecidableEq

inductive WorkerStatus where
  | registered
  | active
  | stale
  | retired
  deriving DecidableEq

inductive ArtifactAccessMode where
  | sharedMount
  | controlPlanePlaceholder
  | stagedOutputPlaceholder
  deriving DecidableEq

structure WorkerOperationEligibility where
  workerStatus : Option WorkerStatus
  workerKind : Option WorkerKind
  hasCapability : Bool
  hasGrant : Bool
  isDenied : Bool
  artifactAccess : List ArtifactAccessMode
  deriving DecidableEq

def workerAcceptsNewWork : WorkerKind → WorkerStatus → Bool
  | .remote, .active => true
  | .local, .registered | .local, .active => true
  | .synthetic, .registered | .synthetic, .active => true
  | _, _ => false

/-- Whether the worker may execute the operation now. -/
def WorkerOperationEligibility.isEligible (e : WorkerOperationEligibility) : Bool :=
  match e.workerKind, e.workerStatus with
  | some kind, some status =>
      workerAcceptsNewWork kind status && e.hasCapability && e.hasGrant && !e.isDenied
  | _, _ => false

inductive LeaseIneligibilityReason where
  | workerMissing
  | workerNotReady
  | workerStale
  | workerRetired
  | operationDenied
  | missingCapability
  | missingGrant
  deriving DecidableEq

/-- Why the worker is not eligible: lifecycle first, then denial, capability, grant. -/
def ineligibilityReason (e : WorkerOperationEligibility) : Option LeaseIneligibilityReason :=
  if e.isEligible then none
  else
    match e.workerKind, e.workerStatus with
    | some .remote, some .registered => some .workerNotReady
    | some _, some .stale => some .workerStale
    | some _, some .retired => some .workerRetired
    | some _, some _ =>
        if e.isDenied then some .operationDenied
        else if !e.hasCapability then some .missingCapability
        else if !e.hasGrant then some .missingGrant
        else none
    | _, _ => some .workerMissing

/-- A worker whose row is there is not missing. -/
theorem ineligibilityReason_present {e : WorkerOperationEligibility} (hkind : e.workerKind.isSome)
    (hstat : e.workerStatus.isSome) : ineligibilityReason e ≠ some .workerMissing := by
  obtain ⟨kind, hkind⟩ := isSome_iff_exists.mp hkind
  obtain ⟨status, hstat⟩ := isSome_iff_exists.mp hstat
  intro h
  unfold ineligibilityReason at h
  rw [hkind, hstat] at h
  split at h
  · cases h
  split at h
  · cases h
  · cases h
  · cases h
  · repeat' split at h
    all_goals cases h
  next hno => exact hno kind status rfl rfl

structure WorkerOperationCapacity where
  activeLeases : Nat
  maxParallel : Nat
  deriving DecidableEq

def WorkerOperationCapacity.hasCapacity (c : WorkerOperationCapacity) : Bool :=
  c.activeLeases < c.maxParallel

/-- The worker, capability and grant tables as one call sees them. -/
structure Registry where
  eligibility : WorkerId → TicketOperation → WorkerOperationEligibility
  maxParallel : WorkerId → TicketOperation → Nat
  /-- The capacity of a worker's accelerator, for video transcodes. -/
  acceleratorCapacity : WorkerId → Option WorkerOperationCapacity

/-! ## The tables and the calls -/

structure LeaseStore (Payload : Type) where
  tickets : List (Ticket Payload)
  leases : List Lease
  openJobs : List JobId
  deriving DecidableEq

structure NewLease where
  ticketId : TicketId
  workerId : WorkerId
  ttl : Int
  now : Instant
  deriving DecidableEq

inductive LeaseAcquireOutcome where
  | acquired (id : LeaseId) (lease : Lease)
  | capacityFull (workerId : WorkerId) (operation : TicketOperation)
      (capacity : WorkerOperationCapacity)
  | ticketNotReady (ticketId : TicketId)
  | workerIneligible (workerId : WorkerId) (operation : TicketOperation)
      (reason : LeaseIneligibilityReason)
  deriving DecidableEq

/-- How many due leases one call of `expireDue` settles at most. -/
def LEASE_BATCH_LIMIT : Nat := 1000

def DEFAULT_BACKOFF_BASE_SECS : Nat := 5
def DEFAULT_BACKOFF_CAP_SECS : Nat := 300

/-- A random delay between zero and the capped exponential backoff. -/
def defaultBackoff (attempt : Nat) (rng : UInt32) : Nat :=
  let cap := min (DEFAULT_BACKOFF_BASE_SECS * (1 <<< attempt)) DEFAULT_BACKOFF_CAP_SECS
  (rng.toNat * (cap + 1)) >>> 32

namespace LeaseStore
variable {Payload : Type}

/-- The condition of the acquiring update, and of the scheduler's ready list. -/
def leasable (s : LeaseStore Payload) (ticket : Ticket Payload) (now : Instant) : Prop :=
  ticket.state = .ready ∧ ticket.nextEligibleAt ≤ now ∧ ticket.attempt < ticket.maxAttempts ∧
    ∀ j ∈ ticket.jobId, j ∈ s.openJobs

instance (s : LeaseStore Payload) (ticket : Ticket Payload) (now : Instant) :
    Decidable (s.leasable ticket now) :=
  inferInstanceAs (Decidable (_ ∧ _ ∧ _ ∧ ∀ j ∈ ticket.jobId, _))

/-- Held leases of a worker on tickets of an operation, in either encoding. -/
def activeLeases (s : LeaseStore Payload) (workerId : WorkerId) (operation : TicketOperation) :
    Nat :=
  s.leases.countP fun lease =>
    lease.state = .held && lease.workerId = workerId &&
      (s.tickets[lease.ticketId]?).any fun ticket =>
        ticket.kind = operation || ticket.kind = operation.workflowOperation

def operationCapacity (registry : Registry) (s : LeaseStore Payload) (workerId : WorkerId)
    (operation : TicketOperation) : WorkerOperationCapacity :=
  let operation := operation.matchingToken
  let accelerator :=
    if operation = .known .transcodeVideo false then registry.acceleratorCapacity workerId
    else none
  accelerator.getD
    ⟨s.activeLeases workerId operation, registry.maxParallel workerId operation⟩

/-- The row a successful acquisition inserts. -/
def newLease (input : NewLease) : Lease where
  ticketId := input.ticketId
  workerId := input.workerId
  state := .held
  expiresAt := input.now + input.ttl
  ttlSeconds := input.ttl

/-- The tables after a successful acquisition of `ticket`. -/
def lease (s : LeaseStore Payload) (ticket : Ticket Payload) (input : NewLease) :
    LeaseStore Payload :=
  { s with
    tickets := s.tickets.set input.ticketId
      { ticket with state := .leased, attempt := ticket.attempt + 1 }
    leases := s.leases ++ [newLease input] }

def acquireGuarded (registry : Registry) (s : LeaseStore Payload) (input : NewLease) :
    Except VoomError (LeaseAcquireOutcome × LeaseStore Payload) :=
  match s.tickets[input.ticketId]? with
  | none => .error (.notFound s!"ticket {input.ticketId}")
  | some ticket =>
    match ticket.kind with
    | .unknownNamespaced token =>
        .error (.database ("ticket kind " ++ token.quote ++ " names no known operation"))
    | kind =>
      let operation := kind.matchingToken
      if s.leasable ticket input.now then
        match ineligibilityReason (registry.eligibility input.workerId operation) with
        | some reason => .ok (.workerIneligible input.workerId operation reason, s)
        | none =>
          let capacity := s.operationCapacity registry input.workerId operation
          if capacity.hasCapacity then
            .ok (.acquired s.leases.length (newLease input), s.lease ticket input)
          else .ok (.capacityFull input.workerId operation capacity, s)
      else .ok (.ticketNotReady input.ticketId, s)

/-- `try_acquire_in_tx`: every rejection rolls the savepoint back. -/
def tryAcquire (registry : Registry) (s : LeaseStore Payload) (input : NewLease) :
    Except VoomError (LeaseAcquireOutcome × LeaseStore Payload) :=
  if input.ttl ≤ 0 then .error (.config s!"ttl must be positive, got {input.ttl}s")
  else acquireGuarded registry s input

def getHeldForWorker (s : LeaseStore Payload) (id : LeaseId) (workerId : WorkerId) :
    Except VoomError Lease :=
  match s.leases[id]? with
  | none => .error (.notFound s!"lease {id}")
  | some lease =>
    if lease.workerId = workerId then
      if lease.state = .held then .ok lease
      else .error (.conflict s!"lease {id} is {lease.state.asStr}, not held")
    else
      .error (.conflict s!"lease {id} is held by worker {lease.workerId}, not worker {workerId}")

/-- Extend a held lease that is not due; its deadline never moves back. -/
def heartbeat (s : LeaseStore Payload) (id : LeaseId) (ttl : Int) (now : Instant) :
    Except VoomError (LeaseStore Payload) :=
  match s.leases[id]? with
  | none => .error (.conflict s!"heartbeat rejected: lease {id} not found")
  | some lease =>
    if lease.state = .held then
      if now < lease.expiresAt then
        .ok { s with
          leases := s.leases.set id { lease with expiresAt := max lease.expiresAt (now + ttl) } }
      else
        .error (.conflict s!"heartbeat rejected: lease {id} expired at {lease.expiresAt}")
    else .error (.conflict s!"heartbeat rejected: lease {id} not held")

/-- The two updates every settlement makes: a lease leaves `held` for `state`, and its
ticket leaves `leased` for what `next` makes of it. -/
def settle (s : LeaseStore Payload) (id : LeaseId) (state : LeaseState)
    (next : Ticket Payload → Ticket Payload) (notHeld : VoomError)
    (notLeased : TicketId → VoomError) : Except VoomError (LeaseStore Payload) :=
  match s.leases[id]? with
  | none => .error notHeld
  | some lease =>
    if lease.state = .held then
      match s.tickets[lease.ticketId]? with
      | none => .error (notLeased lease.ticketId)
      | some ticket =>
        if ticket.state = .leased then
          .ok { s with
            leases := s.leases.set id { lease with state := state }
            tickets := s.tickets.set lease.ticketId (next ticket) }
        else .error (notLeased lease.ticketId)
    else .error notHeld

def succeed (ticket : Ticket Payload) : Ticket Payload := { ticket with state := .succeeded }

def requeue (now : Instant) (ticket : Ticket Payload) : Ticket Payload :=
  { ticket with state := .ready, nextEligibleAt := now }

def giveUp (ticket : Ticket Payload) : Ticket Payload := { ticket with state := .failed }

def release (s : LeaseStore Payload) (id : LeaseId) : Except VoomError (LeaseStore Payload) :=
  s.settle id .released succeed
    (.conflict s!"release rejected: lease {id} not held or not found")
    fun ticketId => .conflict s!"release rejected: ticket {ticketId} not in expected state"

/-- `mark_ready_if_unblocked_in_tx` of tickets whose dependencies have all succeeded: those
that are pending become ready. -/
def markReady (s : LeaseStore Payload) (unblocked : List TicketId) : LeaseStore Payload :=
  { s with
    tickets := s.tickets.mapIdx fun id ticket =>
      if id ∈ unblocked ∧ ticket.state = .pending then { ticket with state := .ready }
      else ticket }

/-- The ticket of a lease, gated on the lease being held. -/
def heldTicket (s : LeaseStore Payload) (id : LeaseId) : Option (TicketId × Ticket Payload) :=
  match s.leases[id]? with
  | some lease =>
    if lease.state = .held then (s.tickets[lease.ticketId]?).map (lease.ticketId, ·) else none
  | none => none

def fail (s : LeaseStore Payload) (id : LeaseId) (failureClass : FailureClass) (now : Instant)
    (rng : UInt32) : Except VoomError (LeaseStore Payload) :=
  match s.heldTicket id with
  | none => .error (.conflict s!"fail rejected: lease {id} not held or not found")
  | some (_, ticket) =>
    let notHeld := .conflict s!"fail rejected: lease {id} not held or not found"
    if failureClass.isRetriable ∧ ticket.attempt < ticket.maxAttempts then
      s.settle id .released (requeue (now + defaultBackoff ticket.attempt rng)) notHeld
        fun ticketId =>
          .conflict s!"fail rejected (retriable): ticket {ticketId} not in expected state"
    else
      s.settle id .released giveUp notHeld
        fun ticketId =>
          .conflict s!"fail rejected (terminal): ticket {ticketId} not in expected state"

/-- One due lease of `expireDue`. -/
def expireLease (now : Instant) (s : LeaseStore Payload) (id : LeaseId) :
    Except VoomError (LeaseStore Payload) :=
  let notHeld := .conflict s!"expire_due aborted: lease {id} no longer held"
  match s.heldTicket id with
  | none => .error notHeld
  | some (_, ticket) =>
    if ticket.attempt < ticket.maxAttempts then
      s.settle id .expired (requeue now) notHeld
        fun ticketId => .conflict s!"expire_due aborted: ticket {ticketId} not leased on requeue"
    else
      s.settle id .expired giveUp notHeld
        fun ticketId => .conflict s!"expire_due aborted: ticket {ticketId} not leased on fail"

/-- The due leases, by id. -/
def dueLeases (s : LeaseStore Payload) (now : Instant) : List LeaseId :=
  (List.range s.leases.length).filter fun id =>
    (s.leases[id]?).any fun lease => lease.state = .held && lease.expiresAt < now

def expireDue (s : LeaseStore Payload) (now : Instant) : Except VoomError (LeaseStore Payload) :=
  ((s.dueLeases now).take LEASE_BATCH_LIMIT).foldlM (expireLease now) s

def forceRelease (s : LeaseStore Payload) (id : LeaseId) (alsoRequeue : Bool) (now : Instant) :
    Except VoomError (LeaseStore Payload) :=
  let notHeld := .conflict s!"force_release rejected: lease {id} not held or not found"
  let notLeased := fun ticketId =>
    .conflict s!"force_release rejected: ticket {ticketId} not in expected state"
  match s.heldTicket id with
  | none => .error notHeld
  | some (ticketId, ticket) =>
    if alsoRequeue then
      if ticket.attempt < ticket.maxAttempts then
        s.settle id .forceReleased (requeue now) notHeld notLeased
      else
        .error (.conflict (s!"force_release requeue rejected: ticket {ticketId} " ++
          s!"attempt {ticket.attempt} >= max_attempts {ticket.maxAttempts}; " ++
          "use also_requeue = false"))
    else s.settle id .forceReleased giveUp notHeld notLeased

/-! ## What a call can do -/

/-- What a settlement can make of a ticket. -/
inductive TicketFate (ticket : Ticket Payload) : Ticket Payload → Prop where
  | succeed : TicketFate ticket (succeed ticket)
  | giveUp : TicketFate ticket (giveUp ticket)
  | requeue (at_ : Instant) (h : ticket.attempt < ticket.maxAttempts) :
      TicketFate ticket (requeue at_ ticket)

theorem TicketFate.kind {ticket next : Ticket Payload} (h : TicketFate ticket next) :
    ticket.kind = next.kind := by
  rcases h with _ | _ | _ <;> rfl

/-- A ticket is requeued only with attempts left. -/
theorem TicketFate.attempts_left {ticket next : Ticket Payload} (h : TicketFate ticket next)
    (hready : next.state = .ready) : next.attempt < next.maxAttempts := by
  rcases h with _ | _ | ⟨_, hleft⟩
  · cases hready
  · cases hready
  · exact hleft

/-- The held lease `id` is settled: it leaves `held`, and its ticket leaves `leased`. -/
inductive Settles (s : LeaseStore Payload) (id : LeaseId) : LeaseStore Payload → Prop where
  | intro {lease : Lease} {ticket next : Ticket Payload} {state : LeaseState}
      (hlease : s.leases[id]? = some lease) (hheld : lease.state = .held)
      (hticket : s.tickets[lease.ticketId]? = some ticket) (hleased : ticket.state = .leased)
      (hstate : state ≠ .held) (hfate : TicketFate ticket next) :
      Settles s id
        { s with
          leases := s.leases.set id { lease with state := state }
          tickets := s.tickets.set lease.ticketId next }

/-- Everything a call can do to the tables. -/
inductive Change (s : LeaseStore Payload) : LeaseStore Payload → Prop where
  | leased {ticket : Ticket Payload} (input : NewLease)
      (hticket : s.tickets[input.ticketId]? = some ticket)
      (hkind : ticket.kind.isUnknownNamespaced = false)
      (hready : s.leasable ticket input.now) : Change s (s.lease ticket input)
  | renewed {lease : Lease} (id : LeaseId) (expiresAt : Instant)
      (hlease : s.leases[id]? = some lease) :
      Change s { s with leases := s.leases.set id { lease with expiresAt := expiresAt } }
  | settled {s' : LeaseStore Payload} (id : LeaseId) (h : Settles s id s') : Change s s'

/-- A sequence of changes. -/
abbrev Changes : LeaseStore Payload → LeaseStore Payload → Prop := Relation.ReflTransGen Change

section Calls
variable {registry : Registry} {s s' : LeaseStore Payload} {id : LeaseId} {now : Instant}
  {input : NewLease} {outcome : LeaseAcquireOutcome} {unblocked : List TicketId}
  {ticket : Ticket Payload}

/-- A successful acquisition inserts the next lease, on a leasable ticket of a kind
that names an operation. -/
theorem tryAcquire_acquired {l : Lease}
    (h : tryAcquire registry s input = .ok (.acquired id l, s')) :
    id = s.leases.length ∧ l = newLease input ∧
      ∃ ticket, s.tickets[input.ticketId]? = some ticket ∧
        ticket.kind.isUnknownNamespaced = false ∧ s.leasable ticket input.now ∧
        s' = s.lease ticket input := by
  unfold tryAcquire at h
  split at h
  · cases h
  unfold acquireGuarded at h
  split at h
  · cases h
  next ticket htick =>
  split at h
  · cases h
  next hknown =>
  dsimp only at h
  split at h
  next hready =>
    split at h
    · cases h
    split at h
    · cases h
      refine ⟨rfl, rfl, ticket, htick, ?_, hready, rfl⟩
      cases hkind : ticket.kind with
      | unknownNamespaced token => exact absurd hkind (hknown token)
      | known => rfl
      | customLocal => rfl
    · cases h
  · cases h

/-- An acquisition that does not succeed changes nothing. -/
theorem tryAcquire_rejected (h : tryAcquire registry s input = .ok (outcome, s'))
    (hnot : ∀ id l, outcome ≠ .acquired id l) : s' = s := by
  unfold tryAcquire at h
  split at h
  · cases h
  unfold acquireGuarded at h
  split at h
  · cases h
  split at h
  · cases h
  dsimp only at h
  split at h
  · split at h
    · cases h; rfl
    · split at h
      · cases h
        exact absurd rfl (hnot _ _)
      · cases h; rfl
  · cases h; rfl

/-- The conditions under which an acquisition succeeds. -/
theorem tryAcquire_eq_acquired (httl : 0 < input.ttl)
    (htick : s.tickets[input.ticketId]? = some ticket)
    (hkind : ticket.kind.isUnknownNamespaced = false) (hready : s.leasable ticket input.now)
    (heligible : ineligibilityReason
      (registry.eligibility input.workerId ticket.kind.matchingToken) = none)
    (hcap : (s.operationCapacity registry input.workerId
      ticket.kind.matchingToken).hasCapacity) : tryAcquire registry s input =
      .ok (.acquired s.leases.length (newLease input), s.lease ticket input) := by
  unfold tryAcquire acquireGuarded
  rw [if_neg (Int.not_le.mpr httl), htick]
  dsimp only
  split
  next hk => rw [hk] at hkind; cases hkind
  · rw [if_pos hready, heligible]; exact if_pos hcap

/-- The worker's row is there, and so is the ticket, of a kind that names an operation: the
call decides. -/
theorem tryAcquire_decides (input : NewLease) (httl : 0 < input.ttl)
    (htick : s.tickets[input.ticketId]? = some ticket)
    (hkind : ticket.kind.isUnknownNamespaced = false)
    (hworker : (registry.eligibility input.workerId ticket.kind.matchingToken).workerKind.isSome ∧
      (registry.eligibility input.workerId ticket.kind.matchingToken).workerStatus.isSome) :
    ∃ outcome s', tryAcquire registry s input = .ok (outcome, s') ∧
      ∀ workerId operation, outcome ≠ .workerIneligible workerId operation .workerMissing := by
  unfold tryAcquire acquireGuarded
  rw [if_neg (Int.not_le.mpr httl), htick]
  dsimp only
  split
  next hk => rw [hk] at hkind; cases hkind
  · split
    · split
      next hreason =>
        refine ⟨_, _, rfl, fun _ _ heq => ?_⟩
        cases heq
        exact ineligibilityReason_present hworker.1 hworker.2 hreason
      · split
        · exact ⟨_, _, rfl, fun _ _ heq => nomatch heq⟩
        · exact ⟨_, _, rfl, fun _ _ heq => nomatch heq⟩
    · exact ⟨_, _, rfl, fun _ _ heq => nomatch heq⟩

/-- A lease that has just been acquired can be released. -/
theorem release_lease (htick : s.tickets[input.ticketId]? = some ticket) :
    (s.lease ticket input).release s.leases.length = .ok
      { s with
        tickets := s.tickets.set input.ticketId
          { ticket with state := .succeeded, attempt := ticket.attempt + 1 }
        leases := (s.leases ++ [newLease input]).set s.leases.length
          { newLease input with state := .released } } := by
  have hlease : (s.lease ticket input).leases[s.leases.length]? = some (newLease input) := by
    simp [lease]
  have hleased : (s.lease ticket input).tickets[(newLease input).ticketId]? =
      some { ticket with state := .leased, attempt := ticket.attempt + 1 } := by
    simp [lease, newLease, ListUpdate.getElem?_set_at htick]
  unfold release settle
  rw [hlease]
  dsimp only
  rw [hleased]
  dsimp only
  simp [lease, newLease, succeed]

/-- A ticket after `markReady`: as before, or pending before and ready now. -/
theorem markReady_row {ticketId : TicketId} {ticket' : Ticket Payload}
    (h : (s.markReady unblocked).tickets[ticketId]? = some ticket') :
    ∃ ticket, s.tickets[ticketId]? = some ticket ∧
      (ticket' = ticket ∨ (ticket.state = .pending ∧
        ticket' = { ticket with state := .ready })) := by
  rw [markReady, List.getElem?_mapIdx] at h
  obtain ⟨ticket, htick, rfl⟩ := map_eq_some_iff.mp h
  refine ⟨ticket, htick, ?_⟩
  split
  next hpend => exact .inr ⟨hpend.2, rfl⟩
  · exact .inl rfl

theorem markReady_of_not_pending {ticketId : TicketId}
    (htick : s.tickets[ticketId]? = some ticket) (hst : ticket.state ≠ .pending) :
    (s.markReady unblocked).tickets[ticketId]? = some ticket := by
  rw [markReady, List.getElem?_mapIdx, htick]
  exact congrArg some (if_neg fun h => hst h.2)

theorem settle_settles {state : LeaseState} {next : Ticket Payload → Ticket Payload}
    {notHeld : VoomError} {notLeased : TicketId → VoomError} (hst : state ≠ .held)
    (hfate : ∀ ticketId ticket, s.heldTicket id = some (ticketId, ticket) →
      TicketFate ticket (next ticket))
    (h : s.settle id state next notHeld notLeased = .ok s') : Settles s id s' := by
  unfold settle at h
  split at h
  · cases h
  next lease hlease =>
  split at h
  next hheld =>
    split at h
    · cases h
    next ticket htick =>
    split at h
    next hleased =>
      cases h
      refine .intro hlease hheld htick hleased hst (hfate lease.ticketId ticket ?_)
      simp [heldTicket, hlease, hheld, htick]
    · cases h
  · cases h

theorem release_settles (h : s.release id = .ok s') : Settles s id s' :=
  settle_settles (by decide) (fun _ _ _ => .succeed) h

theorem fail_settles {failureClass : FailureClass} {rng : UInt32}
    (h : s.fail id failureClass now rng = .ok s') : Settles s id s' := by
  unfold fail at h
  split at h
  · cases h
  next hheld =>
  split at h
  next hretry =>
    refine settle_settles (by decide) ?_ h
    intro _ t ht
    rw [hheld] at ht
    cases ht
    exact .requeue _ hretry.2
  · exact settle_settles (by decide) (fun _ _ _ => .giveUp) h

theorem expireLease_settles (h : s.expireLease now id = .ok s') : Settles s id s' := by
  unfold expireLease at h
  split at h
  · cases h
  next hheld =>
  split at h
  next hleft =>
    refine settle_settles (by decide) ?_ h
    intro _ t ht
    rw [hheld] at ht
    cases ht
    exact .requeue _ hleft
  · exact settle_settles (by decide) (fun _ _ _ => .giveUp) h

theorem forceRelease_settles {alsoRequeue : Bool}
    (h : s.forceRelease id alsoRequeue now = .ok s') : Settles s id s' := by
  unfold forceRelease at h
  split at h
  · cases h
  next hheld =>
  split at h
  · split at h
    next hleft =>
      refine settle_settles (by decide) ?_ h
      intro _ t ht
      rw [hheld] at ht
      cases ht
      exact .requeue _ hleft
    · cases h
  · exact settle_settles (by decide) (fun _ _ _ => .giveUp) h

theorem heartbeat_change {ttl : Int} (h : s.heartbeat id ttl now = .ok s') : Change s s' := by
  unfold heartbeat at h
  split at h
  · cases h
  next hlease =>
  split at h
  · split at h
    · cases h
      exact .renewed id _ hlease
    · cases h
  · cases h

theorem tryAcquire_changes (h : tryAcquire registry s input = .ok (outcome, s')) :
    Changes s s' := by
  by_cases hacq : ∃ id l, outcome = .acquired id l
  · obtain ⟨_, l, rfl⟩ := hacq
    obtain ⟨-, -, _, htick, hkind, hready, rfl⟩ := tryAcquire_acquired h
    exact .single (.leased input htick hkind hready)
  · rw [tryAcquire_rejected h fun id l heq => hacq ⟨id, l, heq⟩]

theorem expireDue_changes (h : s.expireDue now = .ok s') : Changes s s' :=
  Fallible.foldlM_invariant (P := Changes s)
    (fun _ id _ hone hs => hs.tail (.settled id (expireLease_settles hone))) h .refl

end Calls

/-! ## What the tables keep -/

/-- The lease is held. -/
def Held (s : LeaseStore Payload) (id : LeaseId) : Prop :=
  (s.leases[id]?).any (fun lease => lease.state = .held) = true

instance (s : LeaseStore Payload) (id : LeaseId) : Decidable (s.Held id) :=
  inferInstanceAs (Decidable (_ = true))

theorem held_iff {s : LeaseStore Payload} {id : LeaseId} :
    s.Held id ↔ ∃ lease, s.leases[id]? = some lease ∧ lease.state = .held := by
  simp [Held, any_eq_true]

/-- Every lease has its ticket, which names an operation and has attempts left when it is
ready; a held lease's ticket is leased, and the lease is the newest on its ticket. -/
structure Sound (s : LeaseStore Payload) : Prop where
  ticket : ∀ {id : LeaseId} {lease : Lease}, s.leases[id]? = some lease →
    ∃ ticket : Ticket Payload, s.tickets[lease.ticketId]? = some ticket ∧
      ticket.kind.isUnknownNamespaced = false ∧ (lease.state = .held → ticket.state = .leased) ∧
      (ticket.state = .ready → ticket.attempt < ticket.maxAttempts)
  newest : ∀ {id id' : LeaseId} {lease lease' : Lease}, s.leases[id]? = some lease →
    lease.state = .held → s.leases[id']? = some lease' → lease'.ticketId = lease.ticketId →
    id' ≤ id

section Invariants
variable {s s' : LeaseStore Payload} {id : LeaseId}

open ListUpdate

/-- Two held leases on one ticket are one lease. -/
theorem Sound.held_unique (hs : s.Sound) {id' : LeaseId} {l l' : Lease}
    (hl : s.leases[id]? = some l) (hheld : l.state = .held) (hl' : s.leases[id']? = some l')
    (hheld' : l'.state = .held) (htick : l'.ticketId = l.ticketId) : id' = id :=
  Nat.le_antisymm (hs.newest hl hheld hl' htick) (hs.newest hl' hheld' hl htick.symm)

/-- The rows after an acquisition: those before it, and the new one. -/
theorem lease_row {ticket : Ticket Payload} {input : NewLease} {l : Lease}
    (h : (s.lease ticket input).leases[id]? = some l) :
    s.leases[id]? = some l ∨ (id = s.leases.length ∧ l = newLease input) :=
  getElem?_concat_cases h

section
variable (hs : s.Sound)
include hs

theorem Sound.lease {ticket : Ticket Payload} {input : NewLease}
    (htick : s.tickets[input.ticketId]? = some ticket)
    (hkind : ticket.kind.isUnknownNamespaced = false) (hready : s.leasable ticket input.now) :
    (s.lease ticket input).Sound := by
  have hnew : (s.lease ticket input).tickets[input.ticketId]? =
      some { ticket with state := .leased, attempt := ticket.attempt + 1 } := by
    rw [LeaseStore.lease, getElem?_set_at htick]
    exact if_pos rfl
  -- no lease held so far is on this ticket, which is ready
  have hother : ∀ (id : LeaseId) (l : Lease), s.leases[id]? = some l → l.state = .held →
      l.ticketId ≠ input.ticketId := by
    intro _ l hl hheld heq
    obtain ⟨t, ht, -, hleased, -⟩ := hs.ticket hl
    rw [heq, htick] at ht
    cases ht
    have := hready.1.symm.trans (hleased hheld)
    cases this
  refine ⟨?_, ?_⟩
  · intro _ l hl
    by_cases heq : l.ticketId = input.ticketId
    · rw [heq]
      exact ⟨{ ticket with state := .leased, attempt := ticket.attempt + 1 }, hnew, hkind,
        fun _ => rfl, fun h => nomatch h⟩
    · rcases lease_row hl with hold | ⟨-, rfl⟩
      · obtain ⟨t, ht, hfacts⟩ := hs.ticket hold
        refine ⟨t, ?_, hfacts⟩
        rw [LeaseStore.lease, getElem?_set_at htick, if_neg heq, ht]
      · exact absurd rfl heq
  · intro id _ l _ hl hheld hl' hsame
    rcases lease_row hl with hold | ⟨hid, rfl⟩
    · rcases lease_row hl' with hold' | ⟨-, rfl⟩
      · exact hs.newest hold hheld hold' hsame
      · exact absurd hsame.symm (hother id l hold hheld)
    · rcases lease_row hl' with hold' | ⟨hid', -⟩
      · have hlt := lt_length hold'
        exact hid ▸ Nat.le_of_lt hlt
      · exact Nat.le_of_eq (hid'.trans hid.symm)

theorem Sound.renew {lease : Lease} (expiresAt : Instant) (hlease : s.leases[id]? = some lease) :
    Sound { s with leases := s.leases.set id { lease with expiresAt := expiresAt } } := by
  have hrow : ∀ (j : LeaseId) (l : Lease),
      (s.leases.set id { lease with expiresAt := expiresAt })[j]? = some l →
      ∃ l₀, s.leases[j]? = some l₀ ∧ l₀.state = l.state ∧ l₀.ticketId = l.ticketId := by
    intro j l hl
    rcases getElem?_set_cases hlease hl with ⟨rfl, rfl⟩ | ⟨-, hl⟩
    · exact ⟨lease, hlease, rfl, rfl⟩
    · exact ⟨l, hl, rfl, rfl⟩
  refine ⟨?_, ?_⟩
  · intro j l hl
    obtain ⟨_, hl₀, hst, htk⟩ := hrow j l hl
    rw [← htk, ← hst]
    exact hs.ticket hl₀
  · intro j k l l' hl hheld hl' hsame
    obtain ⟨_, hl₀, hst, htk⟩ := hrow j l hl
    obtain ⟨_, hl₁, -, htk'⟩ := hrow k l' hl'
    exact hs.newest hl₀ (hst.trans hheld) hl₁ (by rw [htk', hsame, htk])

theorem Sound.settle (h : Settles s id s') : s'.Sound := by
  obtain ⟨hlease, hheld₀, htick, -, hst, hfate⟩ := h
  rename_i lease ticket next state
  have hrow : ∀ (j : LeaseId) (l : Lease),
      (s.leases.set id { lease with state := state })[j]? = some l →
      ∃ l₀, s.leases[j]? = some l₀ ∧ l₀.ticketId = l.ticketId ∧
        (l.state = .held → l₀ = l ∧ j ≠ id) := by
    intro j l hl
    rcases getElem?_set_cases hlease hl with ⟨rfl, rfl⟩ | ⟨hj, hl⟩
    · exact ⟨lease, hlease, rfl, fun hh => absurd hh hst⟩
    · exact ⟨l, hl, rfl, fun _ => ⟨rfl, hj⟩⟩
  refine ⟨?_, ?_⟩
  · intro j l hl
    obtain ⟨_, hl₀, htk, hsame⟩ := hrow j l hl
    obtain ⟨t, ht, hknown, hleased, hleft⟩ := hs.ticket hl₀
    rw [getElem?_set_at htick]
    by_cases heq : l.ticketId = lease.ticketId
    · -- another lease still held would be on another ticket
      have hnot : l.state ≠ .held := by
        intro hh
        obtain ⟨rfl, hj⟩ := hsame hh
        exact hj (hs.held_unique hlease hheld₀ hl₀ hh heq)
      rw [htk, heq, htick] at ht
      cases ht
      exact ⟨next, if_pos heq, hfate.kind ▸ hknown, fun hh => absurd hh hnot, hfate.attempts_left⟩
    · refine ⟨t, by rw [if_neg heq, ← htk, ht], hknown, ?_, hleft⟩
      intro hh
      obtain ⟨rfl, -⟩ := hsame hh
      exact hleased hh
  · intro j k l l' hl hheld hl' hsame
    obtain ⟨_, hl₀, -, hkeep⟩ := hrow j l hl
    obtain ⟨rfl, -⟩ := hkeep hheld
    obtain ⟨_, hl₁, htk', -⟩ := hrow k l' hl'
    exact hs.newest hl₀ hheld hl₁ (htk'.trans hsame)

theorem Sound.change (h : Change s s') : s'.Sound := by
  rcases h with ⟨_, htick, hkind, hready⟩ | ⟨_, expiresAt, hlease⟩ | ⟨_, h⟩
  · exact hs.lease htick hkind hready
  · exact hs.renew expiresAt hlease
  · exact hs.settle h

theorem Sound.changes (h : Changes s s') : s'.Sound := by
  induction h with
  | refl => exact hs
  | tail _ hone ih => exact ih.change hone

end

end Invariants

end LeaseStore
end Voom
