import VoomProof.LeaseStore
import VoomProof.Reachability
import VoomProof.Runs

/-!
# Tickets, their dependencies and their attempts

The calls of `SqliteTicketRepo` (`repo/execution/tickets.rs` of `voom-store`) beside those of
the lease tables: a ticket is created pending, may be given dependencies as long as it is
pending, and becomes ready when all of them have succeeded. A failure to find a worker is
recorded before a lease exists (`record_pre_lease_ticket_failure` of `voom-control-plane`),
and the release of a lease promotes the dependents of its ticket in the same transaction
(`release_lease_in_tx`).

`TicketCall` is any of these calls; a rejected one leaves the store as it was. `Change` says
what a call can do to the tables, and two invariants follow: `Consistent`, between tickets and
leases, and `Ordered`, between tickets and their dependencies.

Events, results and epochs are left out.
-/

namespace Voom
open ListUpdate Fallible Reachability Relation List

/-- The tables, and the tickets of the failures recorded before a lease. -/
structure TicketStore (Payload : Type) where
  store : LeaseStore Payload
  /-- A ticket and one it depends on. -/
  dependencies : List (TicketId × TicketId)
  preLeaseFailures : List TicketId
  deriving DecidableEq

structure NewTicket (Payload : Type) where
  jobId : Option JobId
  kind : TicketOperation
  priority : Int
  payload : Payload
  maxAttempts : Nat
  createdAt : Instant
  deriving DecidableEq

namespace TicketState

def asStr : TicketState → String
  | pending => "pending"
  | ready => "ready"
  | leased => "leased"
  | succeeded => "succeeded"
  | failed => "failed"

/-- The name in the source, as `Debug` writes it. -/
def name : TicketState → String
  | pending => "Pending"
  | ready => "Ready"
  | leased => "Leased"
  | succeeded => "Succeeded"
  | failed => "Failed"

end TicketState

namespace TicketStore
variable {Payload : Type} {input : NewTicket Payload} {store : LeaseStore Payload}

def empty : TicketStore Payload := ⟨⟨[], [], []⟩, [], []⟩

/-! ## Calls -/

def newTicket (input : NewTicket Payload) : Ticket Payload where
  jobId := input.jobId
  kind := input.kind
  state := .pending
  priority := input.priority
  payload := input.payload
  attempt := 0
  maxAttempts := input.maxAttempts
  nextEligibleAt := input.createdAt

/-- `create_in_tx`, with the constraints of the table: the job is there, and one attempt at
least is allowed. -/
def create (jobs : List JobId) (s : TicketStore Payload) (input : NewTicket Payload) :
    Except VoomError (TicketStore Payload) := do
  require (∀ j ∈ input.jobId, j ∈ jobs) (.database "tickets insert")
  require (1 ≤ input.maxAttempts) (.database "tickets insert")
  return { s with
    store := { s.store with tickets := s.store.tickets ++ [newTicket input] } }

/-- The tickets a ticket depends on. -/
def dependsOn (dependencies : List (TicketId × TicketId)) (ticketId : TicketId) :
    List TicketId :=
  (dependencies.filter (·.1 = ticketId)).map (·.2)

def addDependency (s : TicketStore Payload) (ticketId dependsOnId : TicketId) :
    Except VoomError (TicketStore Payload) := do
  require (ticketId ≠ dependsOnId)
    (.dependencyCycle s!"ticket {ticketId} cannot depend on itself")
  let ticket ← find s.store.tickets[ticketId]? (.notFound s!"ticket {ticketId}")
  require (ticket.state = .pending)
    (.conflict (s!"add_dependency rejected: ticket {ticketId} is {ticket.state.asStr}, " ++
      "not pending"))
  -- what `dependsOnId` depends on, over any number of steps
  require (ticketId ∉ reach (dependsOn s.dependencies) s.dependencies.length dependsOnId)
    (.dependencyCycle s!"adding {ticketId} -> {dependsOnId} would create a cycle")
  require (dependsOnId < s.store.tickets.length) (.database "ticket_dependencies insert")
  require ((ticketId, dependsOnId) ∉ s.dependencies) (.database "ticket_dependencies insert")
  return { s with dependencies := s.dependencies ++ [(ticketId, dependsOnId)] }

/-- How many dependencies of the ticket have not succeeded. -/
def unsucceeded (s : TicketStore Payload) (ticketId : TicketId) : Nat :=
  (dependsOn s.dependencies ticketId).countP fun dependsOnId =>
    (s.store.tickets[dependsOnId]?).any (·.state ≠ .succeeded)

def setTicket (s : TicketStore Payload) (ticketId : TicketId) (ticket : Ticket Payload) :
    TicketStore Payload :=
  { s with store := { s.store with tickets := s.store.tickets.set ticketId ticket } }

/-- `mark_ready_if_unblocked_in_tx`: a ticket that is not pending, or that waits for
another, is left as it is. -/
def markReadyIfUnblocked (s : TicketStore Payload) (ticketId : TicketId) :
    Except VoomError (TicketStore Payload) := do
  let ticket ← find s.store.tickets[ticketId]? (.notFound s!"ticket {ticketId}")
  if ticket.state = .pending ∧ s.unsucceeded ticketId = 0 then
    return s.setTicket ticketId { ticket with state := .ready }
  else return s

/-- The tickets that depend on a ticket, by id. -/
def dependents (s : TicketStore Payload) (dependsOnId : TicketId) : List TicketId :=
  (List.range s.store.tickets.length).filter fun ticketId =>
    (ticketId, dependsOnId) ∈ s.dependencies

/-- `release_lease_in_tx`: the ticket has succeeded, and its dependents are promoted. -/
def releaseLease (s : TicketStore Payload) (leaseId : LeaseId) :
    Except VoomError (TicketStore Payload) := do
  let store ← s.store.release leaseId
  let lease ← find s.store.leases[leaseId]?
    (.conflict s!"release rejected: lease {leaseId} not held or not found")
  let s := { s with store := store }
  (s.dependents lease.ticketId).foldlM markReadyIfUnblocked s

def preLeaseFailureReason : FailureClass → Except VoomError String
  | .noEligibleWorker => .ok "no eligible worker before lease acquisition"
  | .ambiguousWorkerSelection => .ok "ambiguous worker selection before lease acquisition"
  | other => .error
      (.config s!"failure class {other.name} is not supported for pre-lease ticket failure")

def hasHeldLease (s : TicketStore Payload) (ticketId : TicketId) : Bool :=
  s.store.leases.any fun lease => lease.ticketId = ticketId && lease.state = .held

/-- A failure before a lease counts as an attempt; the last one ends the ticket, and so does
an ambiguous selection. -/
def recordPreLeaseFailure (s : TicketStore Payload) (ticketId : TicketId)
    (failureClass : FailureClass) (now : Instant) (rng : UInt32) :
    Except VoomError (TicketStore Payload) := do
  let _ ← preLeaseFailureReason failureClass
  let ticket ← find s.store.tickets[ticketId]? (.notFound s!"ticket {ticketId}")
  require (s.hasHeldLease ticketId = false)
    (.conflict s!"pre-lease failure rejected: ticket {ticketId} has an active lease")
  require (ticket.state = .ready)
    (.conflict (s!"pre-lease failure rejected: ticket {ticketId} is {ticket.state.name}, " ++
      "not ready"))
  require (ticket.nextEligibleAt ≤ now)
    (.conflict (s!"pre-lease failure rejected: ticket {ticketId} is not eligible until " ++
      s!"{ticket.nextEligibleAt}"))
  let nextAttempt := ticket.attempt + 1
  require (nextAttempt < 1 <<< 32)
    (.internal s!"pre-lease failure: ticket {ticketId} attempt overflow")
  let terminal := failureClass = .ambiguousWorkerSelection ∨ ticket.maxAttempts ≤ nextAttempt
  let next :=
    if terminal then { ticket with state := .failed, attempt := nextAttempt }
    else
      { ticket with
        attempt := nextAttempt
        nextEligibleAt := now + defaultBackoff nextAttempt rng }
  return { s.setTicket ticketId next with preLeaseFailures := s.preLeaseFailures ++ [ticketId] }

/-! ## Runs -/

inductive TicketCall (Payload : Type) where
  | create (jobs : List JobId) (input : NewTicket Payload)
  | addDependency (ticketId dependsOnId : TicketId)
  | markReady (ticketId : TicketId)
  | acquire (registry : Registry) (input : NewLease)
  | heartbeat (leaseId : LeaseId) (ttl : Int) (now : Instant)
  | release (leaseId : LeaseId)
  /-- The release of the lease tables alone. -/
  | releaseAlone (leaseId : LeaseId)
  | fail (leaseId : LeaseId) (failureClass : FailureClass) (now : Instant) (rng : UInt32)
  | expireDue (now : Instant)
  | forceRelease (leaseId : LeaseId) (alsoRequeue : Bool) (now : Instant)
  | preLeaseFailure (ticketId : TicketId) (failureClass : FailureClass) (now : Instant)
      (rng : UInt32)
  /-- Jobs are opened and closed elsewhere. -/
  | jobs (openJobs : List JobId)

/-- A call of the lease tables. -/
def onLeases (s : TicketStore Payload) (result : Except VoomError (LeaseStore Payload)) :
    Except VoomError (TicketStore Payload) := do
  let store ← result
  return { s with store := store }

def call (s : TicketStore Payload) : TicketCall Payload → Except VoomError (TicketStore Payload)
  | .create jobs input => create jobs s input
  | .addDependency ticketId dependsOnId => s.addDependency ticketId dependsOnId
  | .markReady ticketId => s.markReadyIfUnblocked ticketId
  | .acquire registry input => s.onLeases do
      let (_, store) ← s.store.tryAcquire registry input
      return store
  | .heartbeat leaseId ttl now => s.onLeases (s.store.heartbeat leaseId ttl now)
  | .release leaseId => s.releaseLease leaseId
  | .releaseAlone leaseId => s.onLeases (s.store.release leaseId)
  | .fail leaseId failureClass now rng => s.onLeases (s.store.fail leaseId failureClass now rng)
  | .expireDue now => s.onLeases (s.store.expireDue now)
  | .forceRelease leaseId alsoRequeue now =>
      s.onLeases (s.store.forceRelease leaseId alsoRequeue now)
  | .preLeaseFailure ticketId failureClass now rng =>
      s.recordPreLeaseFailure ticketId failureClass now rng
  | .jobs openJobs => .ok { s with store := { s.store with openJobs := openJobs } }

/-- A call that is rejected is rolled back. -/
def step (s : TicketStore Payload) (c : TicketCall Payload) : Option (TicketStore Payload) :=
  match s.call c with
  | .ok s' => some s'
  | .error _ => some s

/-! ## What a call can do -/

/-- The states a ticket goes through; `unblocked` says that its dependencies have all
succeeded. -/
inductive Moves (unblocked : Prop) : TicketState → TicketState → Prop where
  | promoted (h : unblocked) : Moves unblocked .pending .ready
  | leased : Moves unblocked .ready .leased
  | retried : Moves unblocked .ready .ready
  | abandoned : Moves unblocked .ready .failed
  | requeued : Moves unblocked .leased .ready
  | succeeded : Moves unblocked .leased .succeeded
  | failed : Moves unblocked .leased .failed

/-- Everything a call can do to the tables, in one step or more. -/
inductive Change (s : TicketStore Payload) : TicketStore Payload → Prop where
  | created (input : NewTicket Payload) (hmax : 1 ≤ input.maxAttempts) :
      Change s { s with
        store := { s.store with tickets := s.store.tickets ++ [newTicket input] } }
  | linked {ticketId dependsOnId : TicketId} {ticket : Ticket Payload}
    (hne : ticketId ≠ dependsOnId)
      (hticket : s.store.tickets[ticketId]? = some ticket) (hpending : ticket.state = .pending)
      (hreach : ticketId ∉ reach (dependsOn s.dependencies) s.dependencies.length dependsOnId)
      (hrow : dependsOnId < s.store.tickets.length) :
      Change s { s with dependencies := s.dependencies ++ [(ticketId, dependsOnId)] }
  | promoted {ticketId : TicketId} {ticket : Ticket Payload}
      (hticket : s.store.tickets[ticketId]? = some ticket) (hpending : ticket.state = .pending)
      (hunblocked : s.unsucceeded ticketId = 0) :
      Change s (s.setTicket ticketId { ticket with state := .ready })
  | leases {store : LeaseStore Payload} (h : LeaseStore.Change s.store store) :
      Change s { s with store := store }
  | failedEarly {ticketId : TicketId} {ticket next : Ticket Payload}
      (hticket : s.store.tickets[ticketId]? = some ticket) (hready : ticket.state = .ready)
      (hattempt : next.attempt = ticket.attempt + 1) (hmax : next.maxAttempts = ticket.maxAttempts)
      (hnext : next.state = .failed ∨ (next.state = .ready ∧ next.attempt < next.maxAttempts)) :
      Change s { s.setTicket ticketId next with
        preLeaseFailures := s.preLeaseFailures ++ [ticketId] }
  | jobs (openJobs : List JobId) :
      Change s { s with store := { s.store with openJobs := openJobs } }

abbrev Changes : TicketStore Payload → TicketStore Payload → Prop := ReflTransGen Change

section Calls
variable {s s' : TicketStore Payload} {ticketId : TicketId} {c : TicketCall Payload}

theorem create_change {jobs : List JobId} (h : create jobs s input = .ok s') : Change s s' := by
  simp only [create, bind_ok, require_ok, return_ok] at h
  obtain ⟨-, -, -, hmax, rfl⟩ := h
  exact .created input hmax

theorem addDependency_change {dependsOnId : TicketId}
    (h : s.addDependency ticketId dependsOnId = .ok s') : Change s s' := by
  simp only [addDependency, bind_ok, require_ok, find_ok, return_ok] at h
  obtain ⟨-, hne, _, htick, -, hpend, -, hreach, -, hrow, -, -, rfl⟩ := h
  exact .linked hne htick hpend hreach hrow

/-- A ticket that is promoted was pending and unblocked; any other stays as it is. -/
theorem markReadyIfUnblocked_cases (h : s.markReadyIfUnblocked ticketId = .ok s') :
    ∃ ticket, s.store.tickets[ticketId]? = some ticket ∧
      ((ticket.state = .pending ∧ s.unsucceeded ticketId = 0 ∧
          s' = s.setTicket ticketId { ticket with state := .ready }) ∨
        (s' = s ∧ (ticket.state = .pending → s.unsucceeded ticketId ≠ 0))) := by
  simp only [markReadyIfUnblocked, bind_ok, find_ok] at h
  obtain ⟨ticket, htick, h⟩ := h
  refine ⟨ticket, htick, ?_⟩
  split at h
  next hready => exact .inl ⟨hready.1, hready.2, (return_ok.mp h).symm⟩
  next hnot =>
    exact .inr ⟨(return_ok.mp h).symm, fun hpend hnone => hnot ⟨hpend, hnone⟩⟩

theorem markReadyIfUnblocked_changes (h : s.markReadyIfUnblocked ticketId = .ok s') :
    Changes s s' := by
  obtain ⟨_, htick, ⟨hpend, hunblocked, rfl⟩ | ⟨rfl, -⟩⟩ := markReadyIfUnblocked_cases h
  · exact .single (.promoted htick hpend hunblocked)
  · exact .refl

theorem foldlM_markReady_changes {ids : List TicketId}
    (h : ids.foldlM markReadyIfUnblocked s = .ok s') : Changes s s' :=
  foldlM_invariant (P := Changes s)
    (fun _ _ _ hone hs => hs.trans (markReadyIfUnblocked_changes hone)) h .refl

/-- The release of a lease, and the store in which its dependents are promoted. -/
theorem releaseLease_cases {leaseId : LeaseId} (h : s.releaseLease leaseId = .ok s') :
    ∃ store lease, LeaseStore.Settles s.store leaseId store ∧
      s.store.leases[leaseId]? = some lease ∧
      (({ s with store := store } : TicketStore Payload).dependents lease.ticketId).foldlM
        markReadyIfUnblocked { s with store := store } = .ok s' := by
  simp only [releaseLease, bind_ok, find_ok] at h
  obtain ⟨store, hrelease, lease, hlease, h⟩ := h
  exact ⟨store, lease, LeaseStore.release_settles hrelease, hlease, h⟩

theorem recordPreLeaseFailure_change {failureClass : FailureClass} {now : Instant} {rng : UInt32}
    (h : s.recordPreLeaseFailure ticketId failureClass now rng = .ok s') : Change s s' := by
  simp only [recordPreLeaseFailure, bind_ok, require_ok, find_ok, return_ok] at h
  obtain ⟨-, -, _, htick, -, -, -, hready, -, -, -, -, rfl⟩ := h
  refine .failedEarly htick hready ?_ ?_ ?_
  · split <;> rfl
  · split <;> rfl
  · split
    · exact .inl rfl
    next hnot => exact .inr ⟨hready, Nat.lt_of_not_le fun hle => hnot (.inr hle)⟩

theorem changes_of_leases (h : LeaseStore.Changes s.store store) :
    Changes s { s with store := store } :=
  h.lift (fun store => ({ s with store := store } : TicketStore Payload)) fun _ _ hone =>
    .leases hone

theorem onLeases_changes {result : Except VoomError (LeaseStore Payload)}
    (hresult : ∀ store, result = .ok store → LeaseStore.Changes s.store store)
    (h : s.onLeases result = .ok s') : Changes s s' := by
  simp only [onLeases, bind_ok, return_ok] at h
  obtain ⟨store, hstore, rfl⟩ := h
  exact changes_of_leases (hresult store hstore)

theorem call_changes (h : s.call c = .ok s') : Changes s s' := by
  cases c with
  | create _ => exact .single (create_change h)
  | addDependency => exact .single (addDependency_change h)
  | markReady => exact markReadyIfUnblocked_changes h
  | acquire =>
    refine onLeases_changes (fun _ hstore => ?_) h
    simp only [bind_ok, return_ok] at hstore
    obtain ⟨⟨_, _⟩, hacquire, rfl⟩ := hstore
    exact LeaseStore.tryAcquire_changes hacquire
  | heartbeat _ =>
    exact onLeases_changes (fun _ hstore => .single (LeaseStore.heartbeat_change hstore)) h
  | release leaseId =>
    obtain ⟨_, _, hsettles, -, hpromote⟩ := releaseLease_cases h
    exact (changes_of_leases (.single (.settled leaseId hsettles))).trans
      (foldlM_markReady_changes hpromote)
  | releaseAlone leaseId =>
    exact onLeases_changes
      (fun _ hstore => .single (.settled leaseId (LeaseStore.release_settles hstore))) h
  | fail leaseId =>
    exact onLeases_changes
      (fun _ hstore => .single (.settled leaseId (LeaseStore.fail_settles hstore))) h
  | expireDue => exact onLeases_changes (fun _ hstore => LeaseStore.expireDue_changes hstore) h
  | forceRelease leaseId =>
    exact onLeases_changes
      (fun _ hstore => .single (.settled leaseId (LeaseStore.forceRelease_settles hstore))) h
  | preLeaseFailure =>
    exact .single (recordPreLeaseFailure_change h)
  | jobs openJobs =>
    cases h
    exact .single (.jobs openJobs)

theorem step_changes (h : s.step c = some s') : Changes s s' := by
  unfold step at h
  split at h
  next hcall =>
    cases h
    exact call_changes hcall
  · cases h
    exact .refl

end Calls

/-! ## The states of a ticket -/

section States
variable {s s' : TicketStore Payload} {ticketId : TicketId} {ticket : Ticket Payload}

/-- What a change does to the tickets: one more, one that moves, or nothing. -/
theorem Change.tickets_cases (h : Change s s') :
    (∃ input, s'.store.tickets = s.store.tickets ++ [newTicket input]) ∨
      s'.store.tickets = s.store.tickets ∨
      ∃ ticketId ticket next, s.store.tickets[ticketId]? = some ticket ∧
        s'.store.tickets = s.store.tickets.set ticketId next ∧
        Moves (s.unsucceeded ticketId = 0) ticket.state next.state := by
  cases h with
  | created input => exact .inl ⟨input, rfl⟩
  | linked | jobs => exact .inr (.inl rfl)
  | promoted htick hpend hunblocked =>
    refine .inr (.inr ⟨_, _, _, htick, rfl, ?_⟩)
    rw [hpend]
    exact .promoted hunblocked
  | leases h =>
    cases h with
    | leased _ htick _ hready =>
      refine .inr (.inr ⟨_, _, _, htick, rfl, ?_⟩)
      rw [hready.1]
      exact .leased
    | renewed _ => exact .inr (.inl rfl)
    | settled _ h =>
      obtain ⟨_, _, htick, hleased, _, hfate⟩ := h
      refine .inr (.inr ⟨_, _, _, htick, rfl, ?_⟩)
      rw [hleased]
      cases hfate with
      | succeed => exact .succeeded
      | giveUp => exact .failed
      | requeue => exact .requeued
  | failedEarly htick hready _ _ hnext =>
    refine .inr (.inr ⟨_, _, _, htick, rfl, ?_⟩)
    rw [hready]
    rcases hnext with hfailed | ⟨hagain, -⟩
    · rw [hfailed]
      exact .abandoned
    · rw [hagain]
      exact .retried

/-- A ticket stays in its row, and its state moves or stays. -/
theorem Change.kept (h : Change s s') (htick : s.store.tickets[ticketId]? = some ticket) :
    ∃ ticket', s'.store.tickets[ticketId]? = some ticket' ∧
      (ticket'.state = ticket.state ∨
        Moves (s.unsucceeded ticketId = 0) ticket.state ticket'.state) := by
  obtain ⟨_, hticks⟩ | hticks | ⟨id, _, next, hold, hticks, hmoves⟩ := h.tickets_cases
  all_goals rw [hticks]
  · refine ⟨ticket, ?_, .inl rfl⟩
    rw [List.getElem?_append_left (lt_length htick), htick]
  · exact ⟨ticket, htick, .inl rfl⟩
  · rw [getElem?_set_at hold]
    by_cases hid : ticketId = id
    · subst hid
      rw [hold] at htick
      cases htick
      exact ⟨next, if_pos rfl, .inr hmoves⟩
    · exact ⟨ticket, by rw [if_neg hid, htick], .inl rfl⟩

/-- Where a ticket comes from: it is new, or its state moved or stayed. -/
theorem Change.origin (h : Change s s') (htick : s'.store.tickets[ticketId]? = some ticket) :
    ticket.state = .pending ∨
      ∃ old, s.store.tickets[ticketId]? = some old ∧
        (ticket.state = old.state ∨
          Moves (s.unsucceeded ticketId = 0) old.state ticket.state) := by
  obtain ⟨_, hticks⟩ | hticks | ⟨_, old, _, hold, hticks, hmoves⟩ := h.tickets_cases
  all_goals rw [hticks] at htick
  · rcases getElem?_concat_cases htick with hrow | ⟨-, rfl⟩
    · exact .inr ⟨ticket, hrow, .inl rfl⟩
    · exact .inl rfl
  · exact .inr ⟨ticket, htick, .inl rfl⟩
  · rcases getElem?_set_cases hold htick with ⟨rfl, rfl⟩ | ⟨-, hrow⟩
    · exact .inr ⟨old, hold, .inr hmoves⟩
    · exact .inr ⟨ticket, hrow, .inl rfl⟩

/-- The ticket has ended, in this state. -/
def Ended (s : TicketStore Payload) (ticketId : TicketId) (state : TicketState) : Prop :=
  (state = .succeeded ∨ state = .failed) ∧
    ∃ ticket, s.store.tickets[ticketId]? = some ticket ∧ ticket.state = state

theorem Ended.change {state : TicketState} (hended : s.Ended ticketId state) (h : Change s s') :
    s'.Ended ticketId state := by
  obtain ⟨hfin, ticket, htick, rfl⟩ := hended
  obtain ⟨ticket', htick', hsame | hmoves⟩ := h.kept htick
  · exact ⟨hfin, ticket', htick', hsame⟩
  · -- no move leaves `succeeded` or `failed`
    generalize ticket.state = state at hfin hmoves
    rcases hfin with rfl | rfl
    · cases hmoves
    · cases hmoves

end States

/-! ## Tickets and leases -/

/-- What the tables hold about a ticket beside its row. -/
@[ext] structure Tally where
  /-- Leases acquired on the ticket. -/
  acquired : Nat
  /-- Those that are held. -/
  held : Nat
  /-- Failures recorded before a lease. -/
  preLeaseFailures : Nat
  deriving DecidableEq

def tally (s : TicketStore Payload) (ticketId : TicketId) : Tally where
  acquired := s.store.leases.countP fun lease => lease.ticketId = ticketId
  held := s.store.leases.countP fun lease => lease.ticketId = ticketId && lease.state = .held
  preLeaseFailures := s.preLeaseFailures.count ticketId

/-- A ticket is leased exactly when one lease on it is held, its attempts are counted, and
it is not left waiting with none to spend. -/
structure Balanced (ticket : Ticket Payload) (tally : Tally) : Prop where
  held : tally.held = if ticket.state = .leased then 1 else 0
  attempt : ticket.attempt = tally.acquired + tally.preLeaseFailures
  bounded : ticket.attempt ≤ ticket.maxAttempts
  waiting : ticket.state = .pending ∨ ticket.state = .ready → ticket.attempt < ticket.maxAttempts

structure Consistent (s : TicketStore Payload) : Prop where
  balanced : ∀ {ticketId : TicketId} {ticket : Ticket Payload},
    s.store.tickets[ticketId]? = some ticket → Balanced ticket (s.tally ticketId)
  lease : ∀ lease ∈ s.store.leases, lease.ticketId < s.store.tickets.length
  failure : ∀ ticketId ∈ s.preLeaseFailures, ticketId < s.store.tickets.length

section Tallies
variable {s s' : TicketStore Payload} {ticketId : TicketId} {ticket : Ticket Payload}
  {leaseId : LeaseId} {lease lease' : Lease}

theorem consistent_empty : (empty : TicketStore Payload).Consistent where
  balanced h := nomatch h
  lease _ h := nomatch h
  failure _ h := nomatch h

section
variable (hs : s.Consistent)
include hs

/-- Nothing is counted of a ticket that is not there. -/
theorem Consistent.tally_new : s.tally s.store.tickets.length = ⟨0, 0, 0⟩ := by
  have hlease : ∀ lease ∈ s.store.leases, lease.ticketId ≠ s.store.tickets.length :=
    fun lease hmem => Nat.ne_of_lt (hs.lease lease hmem)
  have hacq : s.store.leases.countP (fun lease => lease.ticketId = s.store.tickets.length) = 0 :=
    countP_eq_zero.mpr fun lease hmem => by simpa using hlease lease hmem
  have hheld : s.store.leases.countP
      (fun lease => lease.ticketId = s.store.tickets.length && lease.state = .held) = 0 :=
    countP_eq_zero.mpr fun lease hmem => by simp [hlease lease hmem]
  have hfailures : s.preLeaseFailures.count s.store.tickets.length = 0 :=
    count_eq_zero.mpr fun hmem => Nat.lt_irrefl _ (hs.failure _ hmem)
  simp only [tally, hacq, hheld, hfailures]

/-- One ticket is rewritten, and nothing is counted of the others. -/
theorem Consistent.of_set {next : Ticket Payload} (htick : s.store.tickets[ticketId]? = some ticket)
    (hticks : s'.store.tickets = s.store.tickets.set ticketId next)
    (hnext : Balanced next (s'.tally ticketId)) (hother : ∀ id ≠ ticketId, s'.tally id = s.tally id)
    (hlease : ∀ lease ∈ s'.store.leases, lease.ticketId < s.store.tickets.length)
    (hfailure : ∀ id ∈ s'.preLeaseFailures, id < s.store.tickets.length) : s'.Consistent where
  balanced := by
    intro id _ hrow
    rw [hticks] at hrow
    rcases getElem?_set_cases htick hrow with ⟨rfl, rfl⟩ | ⟨hid, hrow⟩
    · exact hnext
    · rw [hother id hid]
      exact hs.balanced hrow
  lease := by rwa [hticks, length_set]
  failure := by rwa [hticks, length_set]

theorem Consistent.created (hmax : 1 ≤ input.maxAttempts) :
    ({ s with store := { s.store with tickets := s.store.tickets ++ [newTicket input] } } :
      TicketStore Payload).Consistent where
  balanced := by
    intro id row hrow
    show Balanced row (s.tally id)
    rcases getElem?_concat_cases hrow with hold | ⟨rfl, rfl⟩
    · exact hs.balanced hold
    · rw [hs.tally_new]
      exact ⟨rfl, rfl, Nat.zero_le _, fun _ => hmax⟩
  lease lease hmem := by
    rw [length_append]
    exact Nat.lt_add_right _ (hs.lease lease hmem)
  failure id hmem := by
    rw [length_append]
    exact Nat.lt_add_right _ (hs.failure id hmem)

theorem Consistent.promoted (htick : s.store.tickets[ticketId]? = some ticket)
    (hpend : ticket.state = .pending) :
    (s.setTicket ticketId { ticket with state := .ready }).Consistent := by
  have hold := hs.balanced htick
  refine hs.of_set htick rfl ?_ (fun _ _ => rfl) hs.lease hs.failure
  refine ⟨?_, hold.attempt, hold.bounded, fun _ => hold.waiting (.inl hpend)⟩
  show (s.tally ticketId).held = 0
  rw [hold.held, hpend]
  rfl

theorem Consistent.failedEarly {next : Ticket Payload}
    (htick : s.store.tickets[ticketId]? = some ticket) (hready : ticket.state = .ready)
    (hatt : next.attempt = ticket.attempt + 1) (hmax : next.maxAttempts = ticket.maxAttempts)
    (hnext : next.state = .failed ∨ (next.state = .ready ∧ next.attempt < next.maxAttempts)) :
    ({ s.setTicket ticketId next with
      preLeaseFailures := s.preLeaseFailures ++ [ticketId] } : TicketStore Payload).Consistent := by
  have hold := hs.balanced htick
  have hleft := hold.waiting (.inr hready)
  have hnone : (s.tally ticketId).held = 0 := by rw [hold.held, hready]; rfl
  refine hs.of_set htick rfl ⟨?_, ?_, ?_, ?_⟩ (fun id hid => ?_) hs.lease fun id hmem => ?_
  · show (s.tally ticketId).held = _
    rcases hnext with hfailed | ⟨hagain, -⟩
    · rw [hnone, hfailed]; rfl
    · rw [hnone, hagain]; rfl
  · have hcount : (s.preLeaseFailures ++ [ticketId]).count ticketId =
        s.preLeaseFailures.count ticketId + 1 := by simp
    show next.attempt = (s.tally ticketId).acquired +
      (s.preLeaseFailures ++ [ticketId]).count ticketId
    rw [hcount, hatt, hold.attempt]
    rfl
  · omega
  · rcases hnext with hfailed | ⟨-, hagain⟩
    · rw [hfailed]
      exact fun hwait => by rcases hwait with h | h <;> cases h
    · exact fun _ => hagain
  · have hcount : (s.preLeaseFailures ++ [ticketId]).count id = s.preLeaseFailures.count id := by
      simp [Ne.symm hid]
    simp only [tally, setTicket, hcount]
  · rcases mem_append.mp hmem with hmem | hmem
    · exact hs.failure id hmem
    · rw [mem_singleton.mp hmem]
      exact lt_length htick

theorem Consistent.leased {input : NewLease}
    (htick : s.store.tickets[input.ticketId]? = some ticket)
    (hready : s.store.leasable ticket input.now) :
    ({ s with store := s.store.lease ticket input } : TicketStore Payload).Consistent := by
  have hold := hs.balanced htick
  refine hs.of_set htick rfl ⟨?_, ?_, ?_, ?_⟩ (fun _ hid => ?_) (fun lease hmem => ?_) hs.failure
  · have hheld := hold.held
    rw [hready.1] at hheld
    simp only [tally] at hheld
    simp [tally, LeaseStore.lease, LeaseStore.newLease, hheld]
  · have hatt := hold.attempt
    simp only [tally, LeaseStore.lease, LeaseStore.newLease, hatt]
    simp
    omega
  · exact hready.2.2.1
  · exact fun hwait => by rcases hwait with h | h <;> cases h
  · simp [tally, LeaseStore.lease, LeaseStore.newLease, Ne.symm hid]
  · rcases mem_append.mp hmem with hmem | hmem
    · exact hs.lease lease hmem
    · rw [mem_singleton.mp hmem]
      exact lt_length htick

end

/-- A lease that is rewritten stays on its ticket: only the count of held leases of that ticket
can move. -/
theorem tally_set_lease (hlease : s.store.leases[leaseId]? = some lease) (lease' : Lease)
    (htick : lease'.ticketId = lease.ticketId) (tickets : List (Ticket Payload)) (id : TicketId) :
    let s' : TicketStore Payload := { s with
      store := { s.store with leases := s.store.leases.set leaseId lease', tickets := tickets } }
    (s'.tally id).acquired = (s.tally id).acquired ∧
      (s'.tally id).preLeaseFailures = (s.tally id).preLeaseFailures ∧
      (s'.tally id).held + (if lease.ticketId = id ∧ lease.state = .held then 1 else 0) =
        (s.tally id).held + (if lease.ticketId = id ∧ lease'.state = .held then 1 else 0) := by
  have hacq := countP_set_at (y := lease')
    (fun lease : Lease => decide (lease.ticketId = id)) hlease
  have hheld := countP_set_at (y := lease')
    (fun lease : Lease => decide (lease.ticketId = id) && decide (lease.state = .held)) hlease
  rw [htick] at hacq hheld
  refine ⟨Nat.add_right_cancel hacq, rfl, ?_⟩
  simpa [tally] using hheld

section
variable (hs : s.Consistent)
include hs

theorem set_lease_on_row (hlease : s.store.leases[leaseId]? = some lease)
    (htick : lease'.ticketId = lease.ticketId) :
    ∀ l ∈ s.store.leases.set leaseId lease', l.ticketId < s.store.tickets.length := by
  intro l hmem
  rcases mem_or_eq_of_mem_set hmem with hmem | rfl
  · exact hs.lease l hmem
  · rw [htick]
    exact hs.lease lease (mem_of_getElem? hlease)

theorem Consistent.renewed {expiresAt : Instant} (hlease : s.store.leases[leaseId]? = some lease) :
    ({ s with store := { s.store with
      leases := s.store.leases.set leaseId { lease with expiresAt := expiresAt } } } :
      TicketStore Payload).Consistent where
  balanced := by
    intro id _ hrow
    have hold := hs.balanced hrow
    obtain ⟨hacq, _, hheld⟩ :=
      tally_set_lease hlease { lease with expiresAt := expiresAt } rfl s.store.tickets id
    refine ⟨?_, ?_, hold.bounded, hold.waiting⟩
    · rw [Nat.add_right_cancel hheld]
      exact hold.held
    · rw [hacq]
      exact hold.attempt
  lease := set_lease_on_row hs hlease rfl
  failure := hs.failure

theorem Consistent.settled (h : LeaseStore.Settles s.store leaseId store) :
    ({ s with store := store } : TicketStore Payload).Consistent := by
  obtain @⟨lease, _, next, state, hlease, hheld, htick, hleased, hst, hfate⟩ := h
  have hold := hs.balanced htick
  have htally := tally_set_lease hlease { lease with state := state } rfl
    (s.store.tickets.set lease.ticketId next)
  refine hs.of_set htick rfl ?_ (fun id hid => ?_) (set_lease_on_row hs hlease rfl) hs.failure
  · obtain ⟨hacq, _, hcount⟩ := htally lease.ticketId
    have hone := hold.held
    rw [hleased] at hone
    rw [if_pos ⟨rfl, hheld⟩, if_neg (fun hboth => hst hboth.2), hone] at hcount
    have hatt := hold.attempt
    rw [← hacq] at hatt
    cases hfate with
    | succeed | giveUp =>
      exact ⟨Nat.add_right_cancel hcount, hatt, hold.bounded,
        fun hwait => by rcases hwait with h | h <;> cases h⟩
    | requeue _ hleft =>
      exact ⟨Nat.add_right_cancel hcount, hatt, hold.bounded, fun _ => hleft⟩
  · obtain ⟨hacq, hfailures, hcount⟩ := htally id
    have hno : ∀ p : Prop, ¬ (lease.ticketId = id ∧ p) := fun p hboth => hid hboth.1.symm
    rw [if_neg (hno _), if_neg (hno _)] at hcount
    exact Tally.ext hacq hcount hfailures

theorem Consistent.change (h : Change s s') : s'.Consistent := by
  cases h with
  | created _ hmax => exact hs.created hmax
  | linked | jobs => exact ⟨hs.balanced, hs.lease, hs.failure⟩
  | promoted htick hpend => exact hs.promoted htick hpend
  | leases h =>
    cases h with
    | leased _ htick _ hready => exact hs.leased htick hready
    | renewed _ _ hlease => exact hs.renewed hlease
    | settled _ h => exact hs.settled h
  | failedEarly htick hready hatt hmax hnext =>
    exact hs.failedEarly htick hready hatt hmax hnext

end

end Tallies

/-! ## Tickets and their dependencies -/

def Succeeded (s : TicketStore Payload) (ticketId : TicketId) : Prop :=
  ∃ ticket, s.store.tickets[ticketId]? = some ticket ∧ ticket.state = .succeeded

/-- The ticket has passed the readiness gate and has not failed. -/
def Started (state : TicketState) : Prop := state = .ready ∨ state = .leased ∨ state = .succeeded

/-- Dependencies are rows and form no cycle, and no ticket starts before those it depends on
have succeeded. -/
structure Ordered (s : TicketStore Payload) : Prop where
  acyclic : Acyclic s.dependencies
  row : ∀ {ticketId dependsOnId : TicketId}, (ticketId, dependsOnId) ∈ s.dependencies →
    dependsOnId < s.store.tickets.length
  started : ∀ {ticketId : TicketId} {ticket : Ticket Payload},
    s.store.tickets[ticketId]? = some ticket → Started ticket.state →
    ∀ dependsOnId, (ticketId, dependsOnId) ∈ s.dependencies → s.Succeeded dependsOnId

section Dependencies
variable {s s' : TicketStore Payload} {ticketId dependsOnId : TicketId}
  {dependencies : List (TicketId × TicketId)}

theorem mem_dependsOn :
    dependsOnId ∈ dependsOn dependencies ticketId ↔ (ticketId, dependsOnId) ∈ dependencies := by
  simp [dependsOn]

theorem ordered_empty : (empty : TicketStore Payload).Ordered where
  acyclic := acyclic_nil
  row h := nomatch h
  started h := nomatch h

/-- The count of a ticket's unsucceeded dependencies is zero when all of them have succeeded. -/
theorem unsucceeded_eq_zero_iff (hrow : ∀ dependsOnId, (ticketId, dependsOnId) ∈ s.dependencies →
      dependsOnId < s.store.tickets.length) :
    s.unsucceeded ticketId = 0 ↔
      ∀ dependsOnId, (ticketId, dependsOnId) ∈ s.dependencies → s.Succeeded dependsOnId := by
  rw [unsucceeded, countP_eq_zero]
  constructor
  · intro hnone dependsOnId hdep
    have htick := getElem?_eq_getElem (hrow dependsOnId hdep)
    have hst := hnone dependsOnId (mem_dependsOn.mpr hdep)
    rw [htick] at hst
    exact ⟨_, htick, by simpa using hst⟩
  · intro hall dependsOnId hdep
    obtain ⟨_, htick, hst⟩ := hall dependsOnId (mem_dependsOn.mp hdep)
    simp [htick, hst]

theorem Succeeded.change (hsucc : s.Succeeded ticketId) (h : Change s s') :
    s'.Succeeded ticketId := by
  have hended : s.Ended ticketId .succeeded := ⟨.inl rfl, hsucc⟩
  exact (hended.change h).2

/-- The cycle check finds every way back. -/
theorem mem_reach_dependsOn :
    ticketId ∈ reach (dependsOn dependencies) dependencies.length dependsOnId ↔
      TransGen (fun a b => (a, b) ∈ dependencies) dependsOnId ticketId := by
  have hnodes : ∀ a, ∀ b ∈ dependsOn dependencies a, b ∈ dependencies.map (·.2) :=
    fun a b hb => mem_map.mpr ⟨(a, b), mem_dependsOn.mp hb, rfl⟩
  rw [mem_reach_iff hnodes (Nat.le_of_eq (length_map _))]
  simp only [mem_dependsOn]

theorem Change.length_le (h : Change s s') : s.store.tickets.length ≤ s'.store.tickets.length := by
  obtain ⟨_, hticks⟩ | hticks | ⟨_, _, _, -, hticks, -⟩ := h.tickets_cases
  · rw [hticks, length_append]
    exact Nat.le_add_right _ _
  · exact Nat.le_of_eq (congrArg length hticks.symm)
  · exact Nat.le_of_eq (by rw [hticks, length_set])

/-- The dependencies after a change: those before, and one more of a pending ticket. -/
theorem Change.dependency_cases (h : Change s s')
    (hdep : (ticketId, dependsOnId) ∈ s'.dependencies) :
    (ticketId, dependsOnId) ∈ s.dependencies ∨
      (s'.store = s.store ∧ dependsOnId < s.store.tickets.length ∧
        ∃ ticket, s.store.tickets[ticketId]? = some ticket ∧ ticket.state = .pending) := by
  cases h with
  | linked _ htick hpend _ hrow =>
    rcases mem_append.mp hdep with hold | hnew
    · exact .inl hold
    · obtain ⟨rfl, rfl⟩ := Prod.mk.inj (mem_singleton.mp hnew)
      exact .inr ⟨rfl, hrow, _, htick, hpend⟩
  | created | promoted | leases | failedEarly | jobs => exact .inl hdep

theorem Change.acyclic (h : Change s s') (hacyclic : Acyclic s.dependencies) :
    Acyclic s'.dependencies := by
  cases h with
  | linked hne _ _ hreach =>
    exact hacyclic.concat hne fun hback => hreach (mem_reach_dependsOn.mpr hback)
  | created | promoted | leases | failedEarly | jobs => exact hacyclic

/-- A ticket that starts now had started before, or its dependencies have all succeeded. -/
theorem started_of_moves {unblocked : Prop} {old state : TicketState}
    (hmoves : Moves unblocked old state) : Started old ∨ unblocked := by
  cases hmoves with
  | promoted h => exact .inr h
  | leased | retried | abandoned => exact .inl (.inl rfl)
  | requeued | succeeded | failed => exact .inl (.inr (.inl rfl))

theorem Ordered.change (hs : s.Ordered) (h : Change s s') : s'.Ordered where
  acyclic := h.acyclic hs.acyclic
  row := by
    intro _ _ hdep
    refine Nat.lt_of_lt_of_le ?_ h.length_le
    rcases h.dependency_cases hdep with hold | ⟨-, hrow, -⟩
    · exact hs.row hold
    · exact hrow
  started := by
    intro _ _ htick hstart dependsOnId hdep
    rcases h.dependency_cases hdep with hold | ⟨hstore, -, _, hpend, hst⟩
    · refine Succeeded.change ?_ h
      rcases h.origin htick with hnew | ⟨_, hrow, hsame | hmoves⟩
      · -- a new ticket is pending
        rw [hnew] at hstart
        rcases hstart with hno | hno | hno <;> cases hno
      · exact hs.started hrow (hsame ▸ hstart) dependsOnId hold
      · rcases started_of_moves hmoves with hbef | hunblocked
        · exact hs.started hrow hbef dependsOnId hold
        · exact (unsucceeded_eq_zero_iff fun _ => hs.row).mp hunblocked dependsOnId hold
    · -- the ticket of the new dependency is pending, so it has not started
      rw [hstore, hpend] at htick
      cases htick
      rw [hst] at hstart
      rcases hstart with hno | hno | hno <;> cases hno

/-! ### Promotion of dependents -/

/-- The ticket waits for one it depends on, or is not pending. -/
def Looked (s : TicketStore Payload) (ticketId : TicketId) : Prop :=
  ∀ ticket, s.store.tickets[ticketId]? = some ticket → ticket.state = .pending →
    s.unsucceeded ticketId ≠ 0

/-- A promotion leaves other tickets and all counts of unsucceeded dependencies as they are. -/
theorem setTicket_ready_unsucceeded {ticket : Ticket Payload}
    (htick : s.store.tickets[ticketId]? = some ticket) (hpend : ticket.state = .pending)
    (id : TicketId) :
    (s.setTicket ticketId { ticket with state := .ready }).unsucceeded id = s.unsucceeded id := by
  refine countP_congr fun dependsOnId _ => ?_
  simp only [setTicket, getElem?_set_at htick]
  by_cases hid : dependsOnId = ticketId
  · subst hid
    simp [htick, hpend]
  · rw [if_neg hid]

/-- Rows and dependencies are kept, and what was looked at. -/
def Promotes (s s' : TicketStore Payload) : Prop :=
  s'.dependencies = s.dependencies ∧ s'.store.tickets.length = s.store.tickets.length ∧
    ∀ id, s.Looked id → s'.Looked id

theorem markReadyIfUnblocked_looked (h : s.markReadyIfUnblocked ticketId = .ok s') :
    Promotes s s' ∧ s'.Looked ticketId := by
  obtain ⟨ticket, htick, ⟨hpend, _, rfl⟩ | ⟨rfl, hwaits⟩⟩ :=
    markReadyIfUnblocked_cases h
  · have hself : (s.setTicket ticketId { ticket with state := .ready }).Looked ticketId := by
      intro _ hrow hst
      rw [setTicket, getElem?_set_at htick, if_pos rfl] at hrow
      cases hrow
      cases hst
    refine ⟨⟨rfl, length_set, fun id hlooked => ?_⟩, hself⟩
    by_cases hid : id = ticketId
    · rw [hid]
      exact hself
    · intro row hrow hst
      rw [setTicket, getElem?_set_at htick, if_neg hid] at hrow
      rw [setTicket_ready_unsucceeded htick hpend]
      exact hlooked row hrow hst
  · refine ⟨⟨rfl, rfl, fun _ hlooked => hlooked⟩, fun _ hrow hst => ?_⟩
    rw [htick] at hrow
    cases hrow
    exact hwaits hst

theorem foldlM_markReady_looked {ids : List TicketId}
    (h : ids.foldlM markReadyIfUnblocked s = .ok s') : Promotes s s' ∧ ∀ id ∈ ids, s'.Looked id :=
  foldlM_each (Q := Looked) (fun _ => ⟨rfl, rfl, fun _ hlooked => hlooked⟩)
    (fun h h' => ⟨h'.1.trans h.1, h'.2.1.trans h.2.1, fun id hid => h'.2.2 id (h.2.2 id hid)⟩)
    (fun h => h.2.2 _) (fun _ _ => markReadyIfUnblocked_looked) h

end Dependencies

/-! ## Runs of calls -/

section Runs
variable {s s' : TicketStore Payload} {cs cs' : List (TicketCall Payload)}
  {I : TicketStore Payload → Prop}

open Runs

theorem changes_invariant (hkeep : ∀ {s s'}, I s → Change s s' → I s') (h : Changes s s')
    (hs : I s) : I s' := by
  induction h with
  | refl => exact hs
  | tail _ hone ih => exact hkeep ih hone

/-- What every change keeps, every run keeps. -/
theorem run_invariant (hkeep : ∀ {s s'}, I s → Change s s' → I s') (h : Run step always s cs s')
    (hs : I s) : I s' :=
  h.invariant (fun hs _ hstep => changes_invariant hkeep (step_changes hstep) hs) hs

/-- **Tickets and leases agree.**  Whatever calls are made from an empty store, a ticket is
leased exactly when one lease on it is held, and no lease on another is; its attempts are the
leases acquired on it and the failures recorded before one, within its maximum and below it
while it is ready; and once it has succeeded or failed it stays so, whatever is called then. -/
theorem tickets_and_leases_agree (h : Run step always empty cs s) (h' : Run step always s cs' s')
    {ticketId : TicketId} {ticket : Ticket Payload}
    (hticket : s.store.tickets[ticketId]? = some ticket) :
    (ticket.state = .leased ↔ (s.tally ticketId).held = 1) ∧
      (ticket.state ≠ .leased → (s.tally ticketId).held = 0) ∧
      ticket.attempt = (s.tally ticketId).acquired + (s.tally ticketId).preLeaseFailures ∧
      ticket.attempt ≤ ticket.maxAttempts ∧
      (ticket.state = .ready → ticket.attempt < ticket.maxAttempts) ∧
      (ticket.state = .succeeded ∨ ticket.state = .failed →
        ∃ ticket', s'.store.tickets[ticketId]? = some ticket' ∧ ticket'.state = ticket.state) := by
  have hconsistent : s.Consistent := run_invariant Consistent.change h consistent_empty
  have hrow := hconsistent.balanced hticket
  have hheld := hrow.held
  refine ⟨⟨fun hleased => ?_, fun hone => ?_⟩, fun hnot => ?_, hrow.attempt, hrow.bounded,
    fun hready => hrow.waiting (.inr hready), fun hfinal => ?_⟩
  · rwa [if_pos hleased] at hheld
  · by_contra hnot
    rw [if_neg hnot, hone] at hheld
    cases hheld
  · rwa [if_neg hnot] at hheld
  · have hended : s.Ended ticketId ticket.state := ⟨hfinal, ticket, hticket, rfl⟩
    exact (run_invariant (I := fun t => t.Ended ticketId ticket.state)
      (fun hended hone => hended.change hone) h' hended).2

/-- **Dependencies are never overtaken.**  Whatever calls are made from an empty store, the
dependencies form no cycle and a ticket that is ready, leased or succeeded depends only on
tickets that have succeeded; and the release of a lease leaves no dependent of its ticket
pending unless it depends on one that has not succeeded. -/
theorem dependencies_are_kept (h : Run step always empty cs s) :
    Acyclic s.dependencies ∧
      (∀ ticketId ticket, s.store.tickets[ticketId]? = some ticket →
        ticket.state = .ready ∨ ticket.state = .leased ∨ ticket.state = .succeeded →
        ∀ dependsOnId, (ticketId, dependsOnId) ∈ s.dependencies → s.Succeeded dependsOnId) ∧
      ∀ leaseId lease s', s.store.leases[leaseId]? = some lease → s.releaseLease leaseId = .ok s' →
        ∀ ticketId ticket, (ticketId, lease.ticketId) ∈ s'.dependencies →
          s'.store.tickets[ticketId]? = some ticket → ticket.state = .pending →
          ∃ dependsOnId, (ticketId, dependsOnId) ∈ s'.dependencies ∧
            ¬ s'.Succeeded dependsOnId := by
  have hordered : s.Ordered := run_invariant Ordered.change h ordered_empty
  refine ⟨hordered.acyclic, fun _ _ hticket hstarted => hordered.started hticket hstarted, ?_⟩
  intro leaseId _ s' hlease hrelease ticketId ticket hdep hticket hpending
  have hordered' : s'.Ordered :=
    changes_invariant Ordered.change (call_changes (c := .release leaseId) hrelease) hordered
  obtain ⟨store, _, _, hlease', hpromote⟩ := releaseLease_cases hrelease
  rw [hlease] at hlease'
  cases hlease'
  obtain ⟨⟨hdeps, hlength, -⟩, hlooked⟩ := foldlM_markReady_looked hpromote
  have hwaits : s'.unsucceeded ticketId ≠ 0 := by
    refine hlooked ticketId ?_ ticket hticket hpending
    have hid : ticketId < store.tickets.length := hlength ▸ lt_length hticket
    simpa [dependents, hid] using hdeps ▸ hdep
  rw [ne_eq, unsucceeded_eq_zero_iff fun _ => hordered'.row] at hwaits
  push Not at hwaits
  exact hwaits

/-! ### One ticket after another -/

/-- A registry in which every worker may run anything, one lease at a time. -/
def oneAtATime : Registry where
  eligibility _ _ := ⟨some .active, some .local, true, true, false, []⟩
  maxParallel _ _ := 1
  acceleratorCapacity _ := none

def remuxTicket : NewTicket Unit := ⟨none, .known .remux false, 0, (), 1, 0⟩

/-- Two tickets, the second of which depends on the first, and a lease on the first. -/
def leasedFirst : List (TicketCall Unit) :=
  [.create [] remuxTicket, .create [] remuxTicket, .addDependency 1 0, .addDependency 0 1,
    .markReady 0, .markReady 1, .acquire oneAtATime ⟨0, 7, 60, 1⟩]

def remuxRow (state : TicketState) (attempt : Nat) : Ticket Unit where
  jobId := none
  kind := .known .remux false
  state := state
  priority := 0
  payload := ()
  attempt := attempt
  maxAttempts := 1
  nextEligibleAt := 0

def firstIsLeased : TicketStore Unit where
  store := ⟨[remuxRow .leased 1, remuxRow .pending 0], [⟨0, 7, .held, 61, 60⟩], []⟩
  dependencies := [(1, 0)]
  preLeaseFailures := []

def firstHasFailed : TicketStore Unit where
  store := ⟨[remuxRow .failed 1, remuxRow .pending 0], [⟨0, 7, .released, 61, 60⟩], []⟩
  dependencies := [(1, 0)]
  preLeaseFailures := []

def firstHasSucceeded : TicketStore Unit where
  store := ⟨[remuxRow .succeeded 1, remuxRow .ready 0], [⟨0, 7, .released, 61, 60⟩], []⟩
  dependencies := [(1, 0)]
  preLeaseFailures := []

/-- The first ticket fails with its only attempt, and no later call brings it back. -/
theorem firstHasFailed_stays :
    Run step always empty (leasedFirst ++ [.fail 0 .workerTimeout 5 0]) firstHasFailed ∧
      Run step always firstHasFailed [.markReady 0, .acquire oneAtATime ⟨0, 7, 60, 9⟩]
        firstHasFailed ∧
      (remuxRow .failed 1).attempt = (firstHasFailed.tally 0).acquired +
        (firstHasFailed.tally 0).preLeaseFailures := by
  have hrun : Run step always empty (leasedFirst ++ [.fail 0 .workerTimeout 5 0]) firstHasFailed :=
    run_of_exec step always (by decide)
  have hlater : Run step always firstHasFailed
      [.markReady 0, .acquire oneAtATime ⟨0, 7, 60, 9⟩] firstHasFailed :=
    run_of_exec step always (by decide)
  have hticket : firstHasFailed.store.tickets[0]? = some (remuxRow .failed 1) := rfl
  exact ⟨hrun, hlater, (tickets_and_leases_agree hrun hlater hticket).2.2.1⟩

/-- The release of the first ticket's lease makes the second ready. -/
theorem firstHasSucceeded_promotes :
    Run step always empty leasedFirst firstIsLeased ∧
      firstIsLeased.releaseLease 0 = .ok firstHasSucceeded ∧
        Acyclic firstIsLeased.dependencies := by
  have hrun : Run step always empty leasedFirst firstIsLeased := run_of_exec step always (by decide)
  exact ⟨hrun, by rfl, (dependencies_are_kept hrun).1⟩

end Runs

end TicketStore

end Voom
