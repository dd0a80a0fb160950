import VoomProof.Coordinator
import VoomProof.LeaseStore

/-!
# Tickets executed by node agents

The control plane, the node agents and the worker handlers together. The control
plane is the ticket and lease tables (`LeaseStore`) with a clock; each lease has a task
in the agent that acquired it (`validate_lease`, then `run_lease` with its
`lease_heartbeat_loop`, `open_worker_stream`, `consume_progress_stream` and
`settle_lease`, all in `voom-node-agent`'s `runtime.rs`), and a handler in the worker
child the agent dispatched it to.

Whatever takes the agent's task out of its `select!` (a local fence, a progress timeout, a
cancellation) only drops the response stream, and `StreamingFrameWriter::write_frame` ignores
that nobody reads: the handler, behind the connection, goes on until it ends or its child exits.
So does a request the agent stopped waiting for.

`Exclusive` says that no ticket is leased again while the handler of an earlier lease on it
runs. `lease_heartbeat_loop` means to see to that ("fence locally at that same deadline so the
child stops before the ticket is redispatched"). It is kept by runs whose steps are all
`Quiescent`: a dispatch is sent only under a held lease, and a lease leaves `held` only when its
handler is not at work.
-/

namespace Voom
open Watch Option List

/-- Where the worker's handler of a lease is. -/
inductive HandlerState where
  | unsent
  /-- The dispatch request is on its way. -/
  | requested
  | running
  | ended
  deriving DecidableEq

namespace HandlerState

/-- The handler is at work, or may still start. -/
def busy : HandlerState → Bool
  | requested | running => true
  | unsent | ended => false

/-- The worker's child exits. -/
def stop : HandlerState → HandlerState
  | unsent => unsent
  | _ => ended

end HandlerState

/-- The agent's task for a lease. -/
inductive AgentPhase (Json : Type) where
  /-- `validate_lease`. -/
  | validating
  /-- `run_lease`. -/
  | running (phase : LeasePhase Json)
  /-- The validation gave the lease up, or the agent is gone. -/
  | dropped
  deriving DecidableEq

/-- The heartbeat loop of a lease and its request. -/
inductive HeartbeatState where
  | stopped
  /-- It sleeps until the next beat. -/
  | idle
  | sent
  /-- The control plane has answered; the agent has not heard yet. -/
  | answered (ok : Bool)
  /-- It stopped with a request still on its way. -/
  | abandoned
  deriving DecidableEq

/-- One lease as its agent and its worker see it. -/
structure LeaseRun (Json : Type) where
  phase : AgentPhase Json
  heartbeat : HeartbeatState
  /-- When the last heartbeat was heard to succeed. -/
  lastSuccess : Instant
  handler : HandlerState
  deriving DecidableEq

namespace LeaseRun
variable {Json : Type}

def validating (run : LeaseRun Json) : Bool :=
  match run.phase with
  | .validating => true
  | _ => false

/-- The task waits for the worker's stream. -/
def dispatching (run : LeaseRun Json) : Bool :=
  match run.phase with
  | .running .dispatching => true
  | _ => false

/-- The task leaves its `select!` for the settlement of `outcome`. -/
def leave (run : LeaseRun Json) (source : OutcomeSource) (outcome : LeaseOutcome Json) :
    Option (LeaseRun Json) :=
  match run.phase with
  | .running .dispatching | .running (.completing _) =>
      some { run with phase := .running (.settling source outcome) }
  | _ => none

/-- The heartbeat loop fences and returns; outside the two `select!`s nobody receives
the fence. -/
def fence (run : LeaseRun Json) : LeaseRun Json :=
  { (run.leave .localFence .fenced).getD run with
    heartbeat := if run.heartbeat = .sent then .abandoned else .stopped }

end LeaseRun

/-- What can happen to one lease. -/
inductive LeaseEvent (Json : Type) where
  /-- A validating heartbeat reaches the control plane; `fresh` says if the answer is
  heard in time. -/
  | validate (fresh : Bool)
  /-- Every attempt to validate timed out or came back stale. -/
  | validationLost
  | sendDispatch
  | handlerStart
  /-- The handler ends; its terminal frame, if any, may still be read. -/
  | handlerEnd
  /-- The agent reads the terminal frame. -/
  | answer (outcome : LeaseOutcome Json)
  /-- The dispatch fails, or its stream breaks or ends without a terminal frame. -/
  | streamFails (reason : String)
  | progressTimeout (timeout : Nat)
  | heartbeatSent
  /-- The request reaches the control plane. -/
  | heartbeatArrives
  | heartbeatAnswered
  /-- The time left for a heartbeat runs out. -/
  | heartbeatTimeout
  | cancelled (signal : Signal) (cancellation : LeaseCancellation)
  | shutdown (signal : Signal) (kind : ShutdownKind)
  /-- The request of `settle_lease` reaches the control plane; `rng` is the random number
  of a retry's backoff, and `heard` says if the agent hears the answer. -/
  | settle (rng : UInt32) (heard : Bool)
  /-- The agent is gone, and its task for the lease with it. -/
  | agentLost
  deriving DecidableEq

section LeaseStep
variable {Payload Json : Type}

/-- The control-plane calls of `settle_lease`: a rejected completion is settled as a
failure, and a rejected failure is left alone. -/
def settleLease (now : Instant) (s : LeaseStore Payload) (id : LeaseId) (rng : UInt32) :
    LeaseOutcome Json → LeaseStore Payload
  | .complete _ =>
      match s.release id with
      | .ok s' => s'
      | .error (.conflict _) => (s.fail id .malformedWorkerResult now rng).toOption.getD s
      | .error _ => s
  | .failure failureClass _ _ => (s.fail id failureClass now rng).toOption.getD s
  | .fenced => s

def leaseStep [EmptyCollection Json] (now : Instant) (s : LeaseStore Payload) (id : LeaseId)
    (lease : Lease)
    (run : LeaseRun Json) : LeaseEvent Json → Option (LeaseStore Payload × LeaseRun Json)
  | .validate fresh =>
      if run.validating then
        match s.heartbeat id lease.ttlSeconds now with
        | .ok s' =>
            if fresh then
              some (s', { run with
                phase := .running .dispatching, heartbeat := .idle, lastSuccess := now })
            else some (s', run)
        | .error _ => some (s, { run with phase := .dropped })
      else none
  | .validationLost =>
      if run.validating then some (s, { run with phase := .dropped }) else none
  | .sendDispatch =>
      if run.dispatching ∧ run.handler = .unsent then
        some (s, { run with handler := .requested })
      else none
  | .handlerStart =>
      if run.handler = .requested then some (s, { run with handler := .running }) else none
  | .handlerEnd =>
      if run.handler = .running then some (s, { run with handler := .ended }) else none
  | .answer outcome =>
      if run.handler = .ended ∧ run.dispatching then
        match outcome with
        | .complete result => some (s, { run with phase := .running (.completing result) })
        | .failure c r e =>
            some (s, { run with phase := .running (.settling .child (.failure c r e)) })
        | .fenced => none
      else none
  | .streamFails reason =>
      if run.dispatching then
        some (s, { run with
          phase := .running (.settling .child (.failure .malformedWorkerResult reason ∅)) })
      else none
  | .progressTimeout timeout =>
      if run.dispatching ∧ run.handler ≠ .unsent then
        some (s, { run with
          phase := .running (.settling .child (.failure .progressTimeout
            s!"worker emitted no valid progress for {timeout}s" ∅)) })
      else none
  | .heartbeatSent =>
      if run.heartbeat = .idle then
        if lease.ttlSeconds < now - run.lastSuccess then some (s, run.fence)
        else some (s, { run with heartbeat := .sent })
      else none
  | .heartbeatArrives =>
      match run.heartbeat with
      | .sent =>
          match s.heartbeat id lease.ttlSeconds now with
          | .ok s' => some (s', { run with heartbeat := .answered true })
          | .error _ => some (s, { run with heartbeat := .answered false })
      | .abandoned =>
          some ((s.heartbeat id lease.ttlSeconds now).toOption.getD s,
            { run with heartbeat := .stopped })
      | _ => none
  | .heartbeatAnswered =>
      match run.heartbeat with
      | .answered true => some (s, { run with heartbeat := .idle, lastSuccess := now })
      | .answered false => some (s, run.fence)
      | _ => none
  | .heartbeatTimeout =>
      match run.heartbeat with
      | .sent | .answered _ =>
          if lease.ttlSeconds ≤ now - run.lastSuccess then some (s, run.fence) else none
      | _ => none
  | .cancelled signal cancellation =>
      (run.leave .workerCancel (cancellationOutcome signal cancellation)).map (s, ·)
  | .shutdown signal kind =>
      (run.leave .shutdown (shutdownOutcome signal kind)).map (s, ·)
  | .settle rng heard =>
      match run.phase with
      | .running (.completing result) =>
          some (settleLease now s id rng (.complete result : LeaseOutcome Json),
            if heard then
              { run with
                phase := .running (.finished .child (.complete result)), heartbeat := .stopped }
            else run)
      | .running (.settling source outcome) =>
          some (settleLease now s id rng outcome,
            if heard then
              { run with
                phase := .running (.finished source outcome), heartbeat := .stopped }
            else run)
      | _ => none
  | .agentLost => some (s, { run with phase := .dropped, heartbeat := .stopped })

/-! ### What a lease's event can do -/

open LeaseStore

@[simp] theorem LeaseRun.fence_handler (run : LeaseRun Json) : run.fence.handler = run.handler := by
  unfold fence leave
  split <;> rfl

theorem LeaseRun.leave_handler {run run' : LeaseRun Json} {source : OutcomeSource}
    {outcome : LeaseOutcome Json} (h : run.leave source outcome = some run') :
    run'.handler = run.handler := by
  unfold leave at h
  split at h <;> cases h <;> rfl

section Spec
variable {now : Instant} {s s' : LeaseStore Payload} {id : LeaseId} {lease : Lease}
  {run run' : LeaseRun Json}

theorem failed_changes (failureClass : FailureClass) (rng : UInt32) :
    Changes s ((s.fail id failureClass now rng).toOption.getD s) := by
  cases h : s.fail id failureClass now rng with
  | error e => exact .refl
  | ok => exact .single (.settled id (fail_settles h))

theorem settleLease_changes (rng : UInt32) (outcome : LeaseOutcome Json) :
    Changes s (settleLease now s id rng outcome) := by
  unfold settleLease
  rcases outcome with _ | ⟨_, _, _⟩ | _
  · dsimp only
    split
    next h => exact .single (.settled id (release_settles h))
    · exact failed_changes _ rng
    · exact .refl
  · exact failed_changes _ rng
  · exact .refl

/-- The tables change by calls only, and a handler gets to work only by a dispatch. -/
structure LeaseSpec (s : LeaseStore Payload) (run : LeaseRun Json) (event : LeaseEvent Json)
    (s' : LeaseStore Payload) (run' : LeaseRun Json) : Prop where
  changes : Changes s s'
  busy : run'.handler.busy → run.handler.busy ∨ (event = .sendDispatch ∧ s' = s)

theorem LeaseSpec.kept {event : LeaseEvent Json} (hs : Changes s s')
    (hrun : run'.handler = run.handler) : LeaseSpec s run event s' run' :=
  ⟨hs, fun h => .inl (hrun ▸ h)⟩

theorem leaseStep_spec [EmptyCollection Json] {event : LeaseEvent Json}
    (h : leaseStep now s id lease run event = some (s', run')) : LeaseSpec s run event s' run' := by
  have hbeat : ∀ {s₁}, s.heartbeat id lease.ttlSeconds now = .ok s₁ → Changes s s₁ :=
    fun hs => .single (heartbeat_change hs)
  cases event with dsimp only [leaseStep] at h
  | validate _ =>
    split at h
    · split at h
      next hs =>
        split at h <;> cases h
        · exact .kept (hbeat hs) rfl
        · exact .kept (hbeat hs) rfl
      · cases h; exact .kept .refl rfl
    · cases h
  | validationLost | streamFails | progressTimeout =>
    split at h <;> cases h
    exact .kept .refl rfl
  | sendDispatch =>
    split at h <;> cases h
    exact ⟨.refl, fun _ => .inr ⟨rfl, rfl⟩⟩
  | handlerStart =>
    split at h
    next hreq => cases h; exact ⟨.refl, fun _ => .inl (by rw [hreq]; rfl)⟩
    · cases h
  | handlerEnd =>
    split at h <;> cases h
    exact ⟨.refl, fun hb => nomatch hb⟩
  | answer _ =>
    split at h
    · split at h <;> cases h
      · exact .kept .refl rfl
      · exact .kept .refl rfl
    · cases h
  | heartbeatSent =>
    split at h
    · split at h <;> cases h
      · exact .kept .refl run.fence_handler
      · exact .kept .refl rfl
    · cases h
  | heartbeatArrives =>
    split at h
    · split at h
      next hs => cases h; exact .kept (hbeat hs) rfl
      · cases h; exact .kept .refl rfl
    · cases h
      refine .kept ?_ rfl
      cases hs : s.heartbeat id lease.ttlSeconds now with
      | error e => exact .refl
      | ok => exact hbeat hs
    · cases h
  | heartbeatAnswered =>
    split at h <;> cases h
    · exact .kept .refl rfl
    · exact .kept .refl run.fence_handler
  | heartbeatTimeout =>
    split at h
    · split at h <;> cases h
      exact .kept .refl run.fence_handler
    · split at h <;> cases h
      exact .kept .refl run.fence_handler
    · cases h
  | cancelled | shutdown =>
    obtain ⟨_, hleave, heq⟩ := map_eq_some_iff.mp h
    cases heq
    exact .kept .refl (LeaseRun.leave_handler hleave)
  | settle rng _ =>
    split at h
    · cases h
      exact .kept (settleLease_changes rng _) (by split <;> rfl)
    · cases h
      exact .kept (settleLease_changes rng _) (by split <;> rfl)
    · cases h
  | agentLost =>
    cases h
    exact .kept .refl rfl

end Spec
end LeaseStep

structure Cluster (Payload Json : Type) where
  now : Instant
  store : LeaseStore Payload
  /-- By lease id. -/
  runs : List (LeaseRun Json)

inductive ClusterEvent (Json : Type) where
  | tick (seconds : Nat)
  /-- An agent is leased a ticket. -/
  | acquire (registry : Registry) (ticketId : TicketId) (workerId : WorkerId) (ttl : Int)
  | lease (id : LeaseId) (event : LeaseEvent Json)
  | childExit (workerId : WorkerId)
  | expireDue
  | forceRelease (id : LeaseId) (alsoRequeue : Bool)

namespace Cluster
variable {Payload Json : Type}

def initial (now : Instant) (tickets : List (Ticket Payload)) (openJobs : List JobId) :
    Cluster Payload Json where
  now := now
  store := { tickets := tickets, leases := [], openJobs := openJobs }
  runs := []

/-- A lease just acquired. -/
def acquired (now : Instant) : LeaseRun Json where
  phase := .validating
  heartbeat := .stopped
  lastSuccess := now
  handler := .unsent

/-- The handlers a worker's child takes with it. -/
def stopWorker (c : Cluster Payload Json) (workerId : WorkerId) : List (LeaseRun Json) :=
  c.runs.mapIdx fun id run =>
    if (c.store.leases[id]?).any (fun lease => lease.workerId = workerId) then
      { run with handler := run.handler.stop }
    else run

def step [EmptyCollection Json] (c : Cluster Payload Json) :
    ClusterEvent Json → Option (Cluster Payload Json)
  | .tick seconds => some { c with now := c.now + seconds }
  | .acquire registry ticketId workerId ttl =>
      match c.store.tryAcquire registry ⟨ticketId, workerId, ttl, c.now⟩ with
      | .ok (.acquired _ _, store) =>
          some { c with store := store, runs := c.runs ++ [acquired c.now] }
      | _ => none
  | .lease id event =>
      match c.store.leases[id]?, c.runs[id]? with
      | some lease, some run =>
          (leaseStep c.now c.store id lease run event).map fun (store, run') =>
            { c with store := store, runs := c.runs.set id run' }
      | _, _ => none
  | .childExit workerId => some { c with runs := c.stopWorker workerId }
  | .expireDue =>
      match c.store.expireDue c.now with
      | .ok store => some { c with store := store }
      | .error _ => none
  | .forceRelease id alsoRequeue =>
      match c.store.forceRelease id alsoRequeue c.now with
      | .ok store => some { c with store := store }
      | .error _ => none

/-! ## Handlers of one ticket -/

/-- The handler of the lease runs. -/
def runsHandler (c : Cluster Payload Json) (id : LeaseId) : Prop :=
  (c.runs[id]?).any (fun run => run.handler = .running) = true

instance (c : Cluster Payload Json) (id : LeaseId) : Decidable (c.runsHandler id) :=
  inferInstanceAs (Decidable (_ = true))

/-- The handler of the lease is at work, or may still start. -/
def atWork (c : Cluster Payload Json) (id : LeaseId) : Prop :=
  (c.runs[id]?).any (fun run => run.handler.busy) = true

instance (c : Cluster Payload Json) (id : LeaseId) : Decidable (c.atWork id) :=
  inferInstanceAs (Decidable (_ = true))

/-- The lease is on the ticket. -/
def on (c : Cluster Payload Json) (id : LeaseId) (ticketId : TicketId) : Prop :=
  (c.store.leases[id]?).any (fun lease => lease.ticketId = ticketId) = true

instance (c : Cluster Payload Json) (id : LeaseId) (ticketId : TicketId) :
    Decidable (c.on id ticketId) :=
  inferInstanceAs (Decidable (_ = true))

/-- **No ticket is leased again while a handler of it runs**: every lease after the one
whose handler runs is on another ticket. -/
def Exclusive (c : Cluster Payload Json) : Prop :=
  ∀ (ticketId : TicketId) (id id' : LeaseId), c.on id ticketId → c.runsHandler id →
    c.on id' ticketId → id' ≤ id

/-- The step sends a dispatch only under a held lease, and a lease it takes out of
`held` has no handler at work. -/
def Quiescent [EmptyCollection Json] (c : Cluster Payload Json) (event : ClusterEvent Json) :
    Prop :=
  (∀ id, event = .lease id .sendDispatch → c.store.Held id) ∧
    ∀ c' id, c.step event = some c' → c.store.Held id → ¬ c'.store.Held id → ¬ c.atWork id

/-- Only leases of the store can be held. -/
instance [EmptyCollection Json] (c : Cluster Payload Json) (event : ClusterEvent Json) :
    Decidable (Quiescent c event) := by
  refine @instDecidableAnd _ _ ?_ ?_
  · cases event with
    | lease id event =>
      cases event with
      | sendDispatch => exact decidable_of_iff (c.store.Held id) (by simp)
      | _ => exact .isTrue (by simp)
    | _ => exact .isTrue (by simp)
  · refine decidable_of_iff (∀ c' ∈ c.step event, ∀ id < c.store.leases.length, c.store.Held id →
      ¬ c'.store.Held id → ¬ c.atWork id) ⟨fun h c' id hstep hheld => ?_, fun h c' hstep id _ =>
        h c' id hstep⟩
    obtain ⟨_, hlease, -⟩ := LeaseStore.held_iff.mp hheld
    exact h c' hstep id (List.getElem?_eq_some_iff.mp hlease).1 hheld

/-- Handlers work under held leases only. -/
def Attended (c : Cluster Payload Json) : Prop :=
  ∀ id, c.atWork id → c.store.Held id

section Step
variable {c c' : Cluster Payload Json} {event : ClusterEvent Json}

open LeaseStore ListUpdate

theorem atWork_of_runsHandler {id : LeaseId} (h : c.runsHandler id) : c.atWork id := by
  obtain ⟨run, hrun, hh⟩ := (any_eq_true _ _).mp h
  refine (any_eq_true _ _).mpr ⟨run, hrun, ?_⟩
  rw [of_decide_eq_true hh]
  rfl

/-- The tables change by calls only, and a handler gets to work only by a dispatch. -/
structure StepSpec (c : Cluster Payload Json) (event : ClusterEvent Json)
    (c' : Cluster Payload Json) : Prop where
  changes : Changes c.store c'.store
  atWork : ∀ id, c'.atWork id → c.atWork id ∨ (event = .lease id .sendDispatch ∧ c'.store = c.store)

theorem stopWorker_atWork {workerId : WorkerId} {id : LeaseId}
    (h : ({ c with runs := c.stopWorker workerId } : Cluster Payload Json).atWork id) :
    c.atWork id := by
  obtain ⟨_, hrun', hbusy⟩ := (any_eq_true _ _).mp h
  simp only [stopWorker, getElem?_mapIdx, map_eq_some_iff] at hrun'
  obtain ⟨run, hrun, rfl⟩ := hrun'
  refine (any_eq_true _ _).mpr ⟨run, hrun, ?_⟩
  split at hbusy
  · rcases hh : run.handler <;> simp [hh, HandlerState.stop, HandlerState.busy] at hbusy
  · exact hbusy

theorem step_spec [EmptyCollection Json] (h : c.step event = some c') : StepSpec c event c' := by
  cases event with dsimp only [step] at h
  | tick _ => cases h; exact ⟨.refl, fun _ => .inl⟩
  | acquire _ _ _ _ =>
    split at h
    next id _ _ hacq =>
      cases h
      obtain ⟨-, -, _, htick, hkind, hready, rfl⟩ := tryAcquire_acquired hacq
      refine ⟨.single (.leased _ htick hkind hready), fun id hwork => .inl ?_⟩
      obtain ⟨run, hrun, hbusy⟩ := (any_eq_true _ _).mp hwork
      rcases getElem?_concat_cases hrun with hold | ⟨-, rfl⟩
      · exact (any_eq_true _ _).mpr ⟨run, hold, hbusy⟩
      · cases hbusy
    · cases h
  | lease _ _ =>
    split at h
    next run _ hrun =>
      obtain ⟨⟨_, _⟩, hone, rfl⟩ := map_eq_some_iff.mp h
      have hspec := leaseStep_spec hone
      refine ⟨hspec.changes, fun j hwork => ?_⟩
      obtain ⟨run₁, hrun₁, hbusy⟩ := (any_eq_true _ _).mp hwork
      rcases getElem?_set_cases hrun hrun₁ with ⟨rfl, rfl⟩ | ⟨-, hrun₁⟩
      · rcases hspec.busy hbusy with hb | ⟨rfl, rfl⟩
        · exact .inl ((any_eq_true _ _).mpr ⟨run, hrun, hb⟩)
        · exact .inr ⟨rfl, rfl⟩
      · exact .inl ((any_eq_true _ _).mpr ⟨run₁, hrun₁, hbusy⟩)
    · cases h
  | childExit _ =>
    cases h
    exact ⟨.refl, fun _ hwork => .inl (stopWorker_atWork hwork)⟩
  | expireDue =>
    split at h
    next hs => cases h; exact ⟨expireDue_changes hs, fun _ => .inl⟩
    · cases h
  | forceRelease id _ =>
    split at h
    next hs =>
      cases h
      exact ⟨.single (.settled id (forceRelease_settles hs)), fun _ => .inl⟩
    · cases h

theorem Attended.step [EmptyCollection Json] (hc : c.Attended) (hquiet : c.Quiescent event)
    (h : c.step event = some c') : c'.Attended := by
  intro id hwork
  rcases (step_spec h).atWork id hwork with hbef | ⟨hsend, hstore⟩
  · refine Decidable.byContradiction fun hnot => ?_
    exact hquiet.2 c' id h (hc id hbef) hnot hbef
  · rw [hstore]
    exact hquiet.1 id hsend

/-- In sound tables a held lease is the newest on its ticket, hence so is one whose
handler runs. -/
theorem exclusive_of_attended (hs : c.store.Sound) (hc : c.Attended) : c.Exclusive := by
  intro _ id _ hon hruns hon'
  obtain ⟨_, hlease, htick⟩ := (any_eq_true _ _).mp hon
  obtain ⟨_, hlease', htick'⟩ := (any_eq_true _ _).mp hon'
  obtain ⟨_, hheld, hst⟩ := held_iff.mp (hc id (atWork_of_runsHandler hruns))
  rw [hlease] at hheld
  cases hheld
  exact hs.newest hlease hst hlease'
    ((of_decide_eq_true htick').trans (of_decide_eq_true htick).symm)

/-- Handlers of one ticket run one at a time. -/
theorem Exclusive.unique (hc : c.Exclusive) {ticketId : TicketId} {id id' : LeaseId}
    (hon : c.on id ticketId) (hruns : c.runsHandler id) (hon' : c.on id' ticketId)
    (hruns' : c.runsHandler id') : id = id' :=
  Nat.le_antisymm (hc ticketId id' id hon' hruns' hon) (hc ticketId id id' hon hruns hon')

end Step

/-! ## Runs -/

section Runs
variable {now : Instant} {tickets : List (Ticket Payload)}
  {openJobs : List JobId} {events : List (ClusterEvent Json)} {u : Cluster Payload Json}

open Runs LeaseStore

theorem initial_sound : (initial now tickets openJobs : Cluster Payload Json).store.Sound :=
  ⟨fun h => by simp [initial] at h, fun h => by simp [initial] at h⟩

theorem initial_attended : (initial now tickets openJobs : Cluster Payload Json).Attended :=
  fun _ h => by simp [atWork, initial] at h

theorem run_sound [EmptyCollection Json] {ok : Cluster Payload Json → ClusterEvent Json → Prop}
    (h : Run step ok (initial now tickets openJobs) events u) : u.store.Sound :=
  h.invariant (I := fun c => c.store.Sound)
    (fun hs _ hstep => hs.changes (step_spec hstep).changes) initial_sound

theorem run_attended [EmptyCollection Json]
    (h : Run step Quiescent (initial now tickets openJobs) events u) :
    u.Attended :=
  h.invariant (I := Attended) (fun hc hquiet hstep => hc.step hquiet hstep) initial_attended

/-- Worker tables under which any worker may run anything, with so many leases at a time. -/
def openRegistry (limit : Nat) : Registry where
  eligibility := fun _ _ => {
    workerStatus := some .active, workerKind := some .remote, hasCapability := true
    hasGrant := true, isDenied := false, artifactAccess := [] }
  maxParallel := fun _ _ => limit
  acceleratorCapacity := fun _ => none

theorem openRegistry_hasCapacity (s : LeaseStore Payload) (workerId : WorkerId)
    (operation : TicketOperation) :
    (s.operationCapacity (openRegistry (s.leases.length + 1)) workerId operation).hasCapacity =
      true := by
  have hle : s.activeLeases workerId operation.matchingToken ≤ s.leases.length :=
    countP_le_length
  simpa [operationCapacity, WorkerOperationCapacity.hasCapacity, openRegistry] using
    Nat.lt_succ_of_le hle

/-- A ticket that is ready again, with its job open and its time come, is leased again
to a worker that is free, whatever handlers of it run. -/
theorem acquire_breaks_exclusive [EmptyCollection Json] {c : Cluster Payload Json}
    (hs : c.store.Sound) {id : LeaseId}
    {ticketId : TicketId} {ticket : Ticket Payload} (hon : c.on id ticketId)
    (hruns : c.runsHandler id) (htick : c.store.tickets[ticketId]? = some ticket)
    (hready : ticket.state = .ready) (hopen : ∀ j ∈ ticket.jobId, j ∈ c.store.openJobs)
    (heligible : ticket.nextEligibleAt ≤ c.now) (workerId : WorkerId) :
    ∃ c', c.step (.acquire (openRegistry (c.store.leases.length + 1)) ticketId workerId 1) =
      some c' ∧ ¬ c'.Exclusive := by
  obtain ⟨lease, hlease, hsame⟩ := (any_eq_true _ _).mp hon
  obtain ⟨_, hrun, hhandler⟩ := (any_eq_true _ _).mp hruns
  have hid := ListUpdate.lt_length hlease
  have hid' := ListUpdate.lt_length hrun
  obtain ⟨t, ht, hkind, -, hleft⟩ := hs.ticket hlease
  rw [of_decide_eq_true hsame, htick] at ht
  cases ht
  have hacq : tryAcquire (openRegistry (c.store.leases.length + 1)) c.store
      ⟨ticketId, workerId, 1, c.now⟩ = _ :=
    tryAcquire_eq_acquired Int.one_pos htick hkind ⟨hready, heligible, hleft hready, hopen⟩ rfl
      (openRegistry_hasCapacity c.store workerId _)
  refine ⟨_, by rw [step, hacq], fun hexcl => ?_⟩
  -- the new lease is on the ticket too, and newer than the one whose handler runs
  have hnew := hexcl ticketId id c.store.leases.length
    (by simp [on, LeaseStore.lease, getElem?_append_left hid, hlease, of_decide_eq_true hsame])
    (by simp [runsHandler, getElem?_append_left hid', hrun, of_decide_eq_true hhandler])
    (by simp [on, LeaseStore.lease, newLease])
  exact Nat.not_le_of_lt hid hnew

/-- **Handlers of one ticket run one at a time, in every run whose steps are quiescent**:
the ticket is leased again only after the handler of its previous lease has ended.
Conversely, in any run a ticket that gets ready while a handler of it runs (its job open)
may be leased again at once when its time has come. -/
theorem handlers_exclusive_when_quiescent [EmptyCollection Json] (now : Instant)
    (tickets : List (Ticket Payload)) (openJobs : List JobId) :
    (∀ (events : List (ClusterEvent Json)) (u : Cluster Payload Json),
      Run step Quiescent (initial now tickets openJobs) events u →
        u.Exclusive ∧ ∀ ticketId id id', u.on id ticketId → u.runsHandler id →
          u.on id' ticketId → u.runsHandler id' → id = id') ∧
    ∀ (events : List (ClusterEvent Json)) (u : Cluster Payload Json),
      Run step always (initial now tickets openJobs) events u →
      ∀ ticketId id ticket, u.on id ticketId → u.runsHandler id →
        u.store.tickets[ticketId]? = some ticket → ticket.state = .ready →
        (∀ j ∈ ticket.jobId, j ∈ u.store.openJobs) →
        ∃ wait registry workerId ttl v,
          Run step always u [.tick wait, .acquire registry ticketId workerId ttl] v ∧
            ¬ v.Exclusive := by
  refine ⟨fun events u hrun => ?_, fun events u hrun ticketId id ticket hon hruns hticket hready
    hopen => ?_⟩
  · have hexcl := exclusive_of_attended (run_sound hrun) (run_attended hrun)
    exact ⟨hexcl, fun _ _ _ hon hruns hon' hruns' => hexcl.unique hon hruns hon' hruns'⟩
  · have hwait : ticket.nextEligibleAt ≤ u.now + (ticket.nextEligibleAt - u.now).toNat :=
      Int.le_add_of_sub_left_le (Int.self_le_toNat _)
    have hs : u.store.Sound := run_sound hrun
    obtain ⟨v, hstep, hbroken⟩ := acquire_breaks_exclusive
      (c := { u with now := u.now + (ticket.nextEligibleAt - u.now).toNat })
      hs hon hruns hticket hready hopen hwait 0
    exact ⟨_, _, 0, 1, v, .cons trivial rfl (.cons trivial hstep (.nil v)), hbroken⟩

def oneTicket : Cluster Unit (List Nat) :=
  initial 0 [⟨none, .known .remux true, .ready, 0, (), 0, 3, 0⟩] []

/-- The first worker ends with a failure, and the ticket is queued again for a second one. -/
def retriedRun : List (ClusterEvent (List Nat)) :=
  [.acquire (openRegistry 1) 0 7 60, .lease 0 (.validate true), .lease 0 .sendDispatch,
   .lease 0 .handlerStart, .lease 0 .handlerEnd,
   .lease 0 (.answer (.failure .progressTimeout "no progress" [])), .lease 0 (.settle 0 true),
   .acquire (openRegistry 1) 0 8 60, .lease 1 (.validate true), .lease 1 .sendDispatch,
   .lease 1 .handlerStart]

theorem retried_exclusive :
    ∃ u, Run step Quiescent oneTicket retriedRun u ∧
      (u.on 0 0 ∧ u.on 1 0 ∧ u.runsHandler 1) ∧ u.Exclusive := by
  have hexec : ∃ u, Run step Quiescent oneTicket retriedRun u ∧
      u.on 0 0 ∧ u.on 1 0 ∧ u.runsHandler 1 := exists_run _ _ (by decide)
  obtain ⟨u, hrun, hstate⟩ := hexec
  exact ⟨u, hrun, hstate, ((handlers_exclusive_when_quiescent 0 _ []).1 _ u hrun).1⟩

/-- A worker goes quiet for longer than the progress timeout: the agent fails the lease,
the ticket is queued again, and a second worker runs it while the first still does. -/
def quietWorkerRun : List (ClusterEvent (List Nat)) :=
  [.acquire (openRegistry 1) 0 7 60, .lease 0 (.validate true), .lease 0 .sendDispatch,
   .lease 0 .handlerStart, .tick 30, .lease 0 (.progressTimeout 30), .lease 0 (.settle 0 true),
   .acquire (openRegistry 1) 0 8 60, .lease 1 (.validate true), .lease 1 .sendDispatch,
   .lease 1 .handlerStart]

theorem quiet_worker_overlaps :
    ∃ u, Run step always oneTicket quietWorkerRun u ∧
      u.on 0 0 ∧ u.runsHandler 0 ∧ u.on 1 0 ∧ u.runsHandler 1 :=
  exists_run step always (by decide)

end Runs
end Cluster
end Voom
