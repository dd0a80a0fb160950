import VoomProof.ListUpdate
import VoomProof.Runs
import VoomProof.Taxonomy
import VoomProof.WatchChannel
import VoomProof.WireEnvelope

/-!
# One worker coordinator of the node agent

`run_coordinator` of `voom-node-agent`'s `runtime.rs`, with the lease tasks it spawns
(`run_lease`), the restart of its child (`restart_after_child_exit`) and the waits of
a crash or a shutdown (`settle_leases_after_child_crash`,
`settle_leases_for_shutdown`, `wait_or_force`).

Two watch channels reach a lease task: `shutdown`, published by the runtime, and
`worker_cancel`, on which the coordinator sends `Crash`, `User` or `Fenced`, and after
a restart `Running` again. Every task gets a **clone** of the coordinator's own
`cancel_rx`, which the coordinator never polls.

A task records where its outcome came from (`OutcomeSource`), and `handedAt`, the version of the
cancel channel when it was handed over: `cancel.since handedAt` are the values sent during the
lease.
-/

namespace Voom
open Watch List Option

inductive LeaseCancellation where
  | running
  | crash
  | user
  | fenced
  deriving DecidableEq

inductive ShutdownKind where
  | running
  | user
  | forced
  | fenced
  | restartExhausted
  deriving DecidableEq

/-- How a lease is settled; `Json` is the type of payloads. -/
inductive LeaseOutcome (Json : Type) where
  | complete (result : Json)
  | failure (failureClass : FailureClass) (reason : String) (evidence : Json)
  | fenced
  deriving DecidableEq

section Outcomes
variable {Json : Type} [EmptyCollection Json]

/-- What a signal on `worker_cancel` makes of a lease. -/
def cancellationOutcome (signal : Signal) (cancellation : LeaseCancellation) :
    LeaseOutcome Json :=
  if signal = .closed ∨ cancellation = .fenced then .fenced
  else
    match cancellation with
    | .crash => .failure .workerCrash "child process exited while the lease was held" ∅
    | .user => .failure .userCancellation "node-agent shutdown cancelled the lease" ∅
    | .running | .fenced => .fenced

/-- What a signal on `shutdown` makes of a lease. -/
def shutdownOutcome (signal : Signal) (shutdown : ShutdownKind) : LeaseOutcome Json :=
  if signal = .changed ∧ shutdown = .user then
    .failure .userCancellation "node-agent shutdown cancelled the lease" ∅
  else .fenced

end Outcomes

/-- Which branch of `run_lease`'s `select!` an outcome was taken from. -/
inductive OutcomeSource where
  | child
  | workerCancel
  | shutdown
  | localFence
  deriving DecidableEq

inductive LeasePhase (Json : Type) where
  /-- The first `select!`: the child works on the dispatch. -/
  | dispatching
  /-- The second `select!`: the child's result is being sent to the control plane. -/
  | completing (result : Json)
  /-- `settle_lease` runs, with nothing left that could change the outcome. -/
  | settling (source : OutcomeSource) (outcome : LeaseOutcome Json)
  | finished (source : OutcomeSource) (outcome : LeaseOutcome Json)
  /-- The task was aborted with its `JoinSet`. -/
  | aborted
  deriving DecidableEq

/-- One task running `run_lease`. -/
structure LeaseTask (Json : Type) where
  leaseId : LeaseId
  workerCancel : Receiver
  shutdown : Receiver
  handedAt : Nat
  phase : LeasePhase Json
  deriving DecidableEq

namespace LeaseTask
variable {Json : Type}

/-- The branch the outcome was taken from, once there is one. -/
def source (l : LeaseTask Json) : Option OutcomeSource :=
  match l.phase with
  | .settling source _ | .finished source _ => some source
  | _ => none

/-- The task is over. -/
def ended (l : LeaseTask Json) : Bool :=
  match l.phase with
  | .finished _ _ | .aborted => true
  | _ => false

/-- The task is in one of its two `select!`s. -/
def selecting (l : LeaseTask Json) : Bool :=
  match l.phase with
  | .dispatching | .completing _ => true
  | _ => false

def abort (l : LeaseTask Json) : LeaseTask Json :=
  if l.ended then l else { l with phase := .aborted }

end LeaseTask

inductive LeaseAction (Json : Type) where
  | childAnswers (outcome : LeaseOutcome Json)
  | cancelled
  | shutdown
  | fenced
  | completed
  | settled
  deriving DecidableEq

/-- One step of `run_lease`, with the two channels as they are. -/
def LeaseTask.step {Json : Type} [EmptyCollection Json] (cancel : Channel LeaseCancellation)
    (shutdown : Channel ShutdownKind) (l : LeaseTask Json) :
    LeaseAction Json → Option (LeaseTask Json)
  | .childAnswers outcome =>
      match l.phase, outcome with
      | .dispatching, .complete result => some { l with phase := .completing result }
      | .dispatching, outcome => some { l with phase := .settling .child outcome }
      | _, _ => none
  | .cancelled =>
      if l.selecting then
        (l.workerCancel.changed cancel).map fun (signal, receiver) =>
          { l with workerCancel := receiver
                   phase := .settling .workerCancel (cancellationOutcome signal cancel.value) }
      else none
  | .shutdown =>
      if l.selecting then
        (l.shutdown.changed shutdown).map fun (signal, receiver) =>
          { l with shutdown := receiver
                   phase := .settling .shutdown (shutdownOutcome signal shutdown.value) }
      else none
  | .fenced =>
      if l.selecting then some { l with phase := .settling .localFence .fenced } else none
  | .completed =>
      match l.phase with
      | .completing result => some { l with phase := .finished .child (.complete result) }
      | _ => none
  | .settled =>
      match l.phase with
      | .settling source outcome => some { l with phase := .finished source outcome }
      | _ => none

/-- How many crashes a window allows. -/
def CRASH_LIMIT : Nat := 3

inductive CoordinatorPhase where
  /-- The loop, waiting out the poll delay or acquiring. -/
  | looping (pollBeforeAcquire : Bool)
  /-- The child exited; its worker is being set not ready. -/
  | notReady
  /-- `cancel_and_wait` with `Crash`. -/
  | crashSettling
  /-- A shutdown was seen while the crash settled. -/
  | crashFinishing
  | restarting
  /-- The child is back; its worker is being set ready. -/
  | readying
  | shutdownSettling
  | exited
  deriving DecidableEq

structure Coordinator (Json : Type) where
  phase : CoordinatorPhase
  maxParallel : Nat
  crashes : Nat
  cancel : Channel LeaseCancellation
  cancelRx : Receiver
  shutdown : Channel ShutdownKind
  shutdownRx : Receiver
  leases : List (LeaseTask Json)

inductive CoordinatorEvent (Json : Type) where
  /-- The runtime publishes a shutdown. -/
  | publish (kind : ShutdownKind)
  /-- The runtime is gone. -/
  | runtimeGone
  | acquireIdle
  | acquireTerminal
  | acquireLease (leaseId : LeaseId)
  | acquireError
  | pollElapsed
  | childExit
  | childExitError
  /-- `shutdown.changed()` of the coordinator itself, wherever it waits. -/
  | shutdownSeen
  | readinessDone
  | readinessFailed
  /-- Every lease task is over; `windowElapsed` says if the crash window restarts. -/
  | leasesSettled (windowElapsed : Bool)
  | deadline
  | restarted
  | restartFailed
  | interrupted
  /-- The `JoinSet` of a coordinator that returned is dropped. -/
  | leasesDropped
  | lease (i : Nat) (a : LeaseAction Json)
  deriving DecidableEq

namespace Coordinator
variable {Json : Type} {s t : Coordinator Json} {cancel : Channel LeaseCancellation}

def initial (maxParallel : Nat) : Coordinator Json where
  phase := .looping false
  maxParallel := maxParallel
  crashes := 0
  cancel := .new .running
  cancelRx := ⟨0⟩
  shutdown := .new .running
  shutdownRx := ⟨0⟩
  leases := []

/-- How many worker permits are taken. -/
def held (s : Coordinator Json) : Nat := s.leases.countP fun l => !l.ended

def allEnded (s : Coordinator Json) : Bool := s.leases.all LeaseTask.ended

/-- The coordinator returns: `cancel_tx` is dropped, and with it the channel closed. -/
def exit (s : Coordinator Json) : Coordinator Json :=
  { s with phase := .exited, cancel := s.cancel.close }

def abortAll (s : Coordinator Json) : Coordinator Json :=
  { s with leases := s.leases.map LeaseTask.abort }

/-- The task of a lease that is handed over now. -/
def handOver (s : Coordinator Json) (leaseId : LeaseId) : LeaseTask Json where
  leaseId := leaseId
  workerCancel := s.cancelRx
  shutdown := s.shutdownRx
  handedAt := s.cancel.version
  phase := .dispatching

/-- The reason `settle_leases_for_shutdown` sends. -/
def shutdownReason (kind : ShutdownKind) : LeaseCancellation :=
  if kind = .user then .user else .fenced

/-- What an observed signal on the shutdown channel is taken for. -/
def observed (s : Coordinator Json) (signal : Signal) (whenClosed : ShutdownKind) : ShutdownKind :=
  if signal = .closed then whenClosed else s.shutdown.value

/-- The coordinator observes the shutdown channel, in the loop or in a wait. -/
def seeShutdown (s : Coordinator Json) (signal : Signal) : Option (Coordinator Json) :=
  match s.phase with
  | .looping _ =>
      let kind := s.observed signal .fenced
      let told := { s with
        phase := .shutdownSettling, cancel := s.cancel.send (shutdownReason kind) }
      if kind = .forced then some told.abortAll.exit else some told
  | .crashSettling =>
      let kind := s.observed signal .forced
      if kind = .forced then some { s.abortAll with phase := .crashFinishing }
      else if kind = .running then some s
      else some { s with phase := .crashFinishing }
  | .crashFinishing | .shutdownSettling =>
      if s.observed signal .forced = .forced then some s.abortAll.exit else some s
  | _ => none

/-- The crashes of the window, this one included. -/
def crashesNow (s : Coordinator Json) (windowElapsed : Bool) : Nat :=
  (if windowElapsed then 0 else s.crashes) + 1

/-- `crashes.record_and_exhausted()`, then the restart or the end. -/
def recordCrash (s : Coordinator Json) (windowElapsed : Bool) : Coordinator Json :=
  if CRASH_LIMIT < s.crashesNow windowElapsed then
    { s with crashes := s.crashesNow windowElapsed }.exit
  else { s with crashes := s.crashesNow windowElapsed, phase := .restarting }

def step [EmptyCollection Json] (s : Coordinator Json) :
    CoordinatorEvent Json → Option (Coordinator Json)
  | .publish kind => some { s with shutdown := s.shutdown.send kind }
  | .runtimeGone => some { s with shutdown := s.shutdown.close }
  | .acquireIdle | .acquireTerminal =>
      match s.phase with
      | .looping false => some { s with phase := .looping true }
      | _ => none
  | .acquireLease leaseId =>
      match s.phase with
      | .looping false =>
          if s.held < s.maxParallel then some { s with leases := s.leases ++ [s.handOver leaseId] }
          else none
      | _ => none
  | .acquireError =>
      match s.phase with
      | .looping false => some s.exit
      | _ => none
  | .pollElapsed =>
      match s.phase with
      | .looping true => some { s with phase := .looping false }
      | _ => none
  | .childExit =>
      match s.phase with
      | .looping _ => some { s with phase := .notReady }
      | _ => none
  | .childExitError =>
      match s.phase with
      | .looping _ => some s.exit
      | _ => none
  | .shutdownSeen =>
      match s.shutdownRx.changed s.shutdown with
      | some (signal, receiver) => { s with shutdownRx := receiver }.seeShutdown signal
      | none => none
  | .readinessDone =>
      match s.phase with
      | .notReady => some { s with phase := .crashSettling, cancel := s.cancel.send .crash }
      | .readying => some { s with phase := .looping false, cancel := s.cancel.send .running }
      | _ => none
  | .readinessFailed =>
      match s.phase with
      | .notReady | .readying => some s.exit
      | _ => none
  | .leasesSettled windowElapsed =>
      if s.allEnded then
        match s.phase with
        | .crashSettling => some (s.recordCrash windowElapsed)
        | .crashFinishing | .shutdownSettling => some s.exit
        | _ => none
      else none
  | .deadline =>
      match s.phase with
      | .crashFinishing | .shutdownSettling => some s.abortAll.exit
      | _ => none
  | .restarted =>
      match s.phase with
      | .restarting => some { s with phase := .readying }
      | _ => none
  | .restartFailed =>
      match s.phase with
      | .restarting => some s.exit
      | _ => none
  | .interrupted =>
      -- `until_shutdown` gives up once a shutdown is in flight
      if s.shutdown.value ≠ .running ∨ s.shutdown.closed then
        match s.phase with
        | .restarting | .readying => some s.exit
        | _ => none
      else none
  | .leasesDropped =>
      match s.phase with
      | .exited => some s.abortAll
      | _ => none
  | .lease i a =>
      match s.leases[i]? with
      | some l => (l.step s.cancel s.shutdown a).map fun l' =>
          { s with leases := s.leases.set i l' }
      | none => none

/-- **A lease is cancelled only by what happens during it**: an outcome taken from
`worker_cancel` has a `Crash`, `User` or `Fenced` sent since the lease was handed
over. -/
def CancelledInTime (s : Coordinator Json) : Prop :=
  ∀ l ∈ s.leases, l.source = some .workerCancel →
    ∃ v ∈ s.cancel.since l.handedAt, v ≠ .running

instance (s : Coordinator Json) : Decidable s.CancelledInTime :=
  inferInstanceAs (Decidable (∀ l ∈ s.leases, _))

/-- No lease is handed over after a send on the cancel channel, so after a restart of
the child; and none looks at the channel once the coordinator has returned. -/
def BeforeAnyRestart (s : Coordinator Json) : CoordinatorEvent Json → Prop
  | .acquireLease _ => s.cancel.sent = []
  | .lease _ .cancelled => s.cancel.closed = false
  | _ => True

instance (s : Coordinator Json) (e : CoordinatorEvent Json) : Decidable (BeforeAnyRestart s e) := by
  unfold BeforeAnyRestart
  split <;> infer_instance

/-! ## What a step does to the cancel channel -/

/-- The phases after a `Crash`, `User` or `Fenced` was sent and before `Running`. -/
def signalled (s : Coordinator Json) : Bool :=
  match s.phase with
  | .crashSettling | .crashFinishing | .restarting | .readying | .shutdownSettling => true
  | _ => false

def inLoop (s : Coordinator Json) : Bool :=
  match s.phase with
  | .looping _ => true
  | _ => false

/-- The three things a step can do to the cancel channel: nothing, a cancellation,
or the `Running` of a restarted child. -/
inductive CancelMove (s t : Coordinator Json) : Prop where
  | keep (hsent : t.cancel.sent = s.cancel.sent)
      (hsignalled : t.signalled = true → s.signalled = true)
      (hloop : t.inLoop = true → s.inLoop = true)
  | signal (v : LeaseCancellation) (hv : v ≠ .running)
      (hsent : t.cancel.sent = s.cancel.sent ++ [v]) (hloop : t.inLoop = false)
  | resume (hphase : s.signalled = true) (hsent : t.cancel.sent = s.cancel.sent ++ [.running])

theorem shutdownReason_ne_running (kind : ShutdownKind) : shutdownReason kind ≠ .running := by
  unfold shutdownReason
  split <;> simp

/-- A coordinator that returns sends nothing. -/
theorem CancelMove.exit (hsent : t.cancel.sent = s.cancel.sent) : CancelMove s t.exit :=
  .keep hsent (by simp [signalled, Coordinator.exit]) (by simp [inLoop, Coordinator.exit])

/-- What a step does to the lease tasks: nothing, one handed over, all aborted, or a
step of one of them. -/
inductive LeaseMove [EmptyCollection Json] (s t : Coordinator Json) (ev : CoordinatorEvent Json) :
    Prop where
  | keep (h : t.leases = s.leases)
  | handOver (leaseId : LeaseId) (hev : ev = .acquireLease leaseId)
      (h : t.leases = s.leases ++ [s.handOver leaseId])
  | abort (h : t.leases = s.leases.map LeaseTask.abort)
  | step (i : Nat) (a : LeaseAction Json) (l l' : LeaseTask Json) (hev : ev = .lease i a)
      (hi : s.leases[i]? = some l) (hstep : l.step s.cancel s.shutdown a = some l')
      (h : t.leases = s.leases.set i l')

/-- Everything the proofs need to know of a step. -/
structure Moves [EmptyCollection Json] (s t : Coordinator Json) (ev : CoordinatorEvent Json) :
    Prop where
  rx : t.cancelRx = s.cancelRx
  cancel : CancelMove s t
  leases : LeaseMove s t ev

section Steps
variable [EmptyCollection Json] {ev : CoordinatorEvent Json}

theorem seeShutdown_moves {signal : Signal} {receiver : Receiver}
    (h : { s with shutdownRx := receiver }.seeShutdown signal = some t) : Moves s t ev := by
  unfold seeShutdown at h
  split at h
  · simp only at h
    split at h
    · cases h
      exact ⟨rfl, .signal _ (shutdownReason_ne_running _) rfl rfl, .abort rfl⟩
    · cases h
      exact ⟨rfl, .signal _ (shutdownReason_ne_running _) rfl rfl, .keep rfl⟩
  · next hphase =>
    have hs : s.signalled = true := by rw [signalled, hphase]
    simp only at h
    split at h
    · cases h
      exact ⟨rfl, .keep rfl (fun _ => hs) (by simp [inLoop]), .abort rfl⟩
    split at h
    · cases h
      exact ⟨rfl, .keep rfl id id, .keep rfl⟩
    · cases h
      exact ⟨rfl, .keep rfl (fun _ => hs) (by simp [inLoop]), .keep rfl⟩
  case h_3 | h_4 =>
    split at h
    · cases h
      exact ⟨rfl, .exit rfl, .abort rfl⟩
    · cases h
      exact ⟨rfl, .keep rfl id id, .keep rfl⟩
  · cases h

theorem recordCrash_moves (windowElapsed : Bool) (hs : s.signalled = true) :
    Moves s (s.recordCrash windowElapsed) ev := by
  unfold recordCrash
  split
  · exact ⟨rfl, .exit rfl, .keep rfl⟩
  · exact ⟨rfl, .keep rfl (fun _ => hs) (by simp [inLoop]), .keep rfl⟩

/-- **What a step can do.** -/
theorem step_moves (h : s.step ev = some t) : Moves s t ev := by
  cases ev with simp only [step] at h
  | publish kind | runtimeGone =>
    cases h
    exact ⟨rfl, .keep rfl id id, .keep rfl⟩
  | acquireIdle | acquireTerminal | pollElapsed =>
    split at h
    · next hphase =>
      cases h
      exact ⟨rfl, .keep rfl (by simp [signalled]) (fun _ => by rw [inLoop, hphase]), .keep rfl⟩
    · cases h
  | acquireLease leaseId =>
    split at h
    · split at h
      · cases h
        exact ⟨rfl, .keep rfl id id, .handOver leaseId rfl rfl⟩
      · cases h
    · cases h
  | acquireError | childExitError | restartFailed | readinessFailed =>
    split at h <;> cases h
    all_goals exact ⟨rfl, .exit rfl, .keep rfl⟩
  | childExit =>
    split at h
    · cases h
      exact ⟨rfl, .keep rfl (by simp [signalled]) (by simp [inLoop]), .keep rfl⟩
    · cases h
  | shutdownSeen =>
    split at h
    · exact seeShutdown_moves h
    · cases h
  | readinessDone =>
    split at h
    · cases h
      exact ⟨rfl, .signal .crash (by simp) rfl rfl, .keep rfl⟩
    · next hphase =>
      cases h
      exact ⟨rfl, .resume (by rw [signalled, hphase]) rfl, .keep rfl⟩
    · cases h
  | deadline =>
    split at h <;> cases h
    all_goals exact ⟨rfl, .exit rfl, .abort rfl⟩
  | leasesSettled windowElapsed =>
    split at h
    · split at h
      · next hphase =>
        cases h
        exact recordCrash_moves windowElapsed (by rw [signalled, hphase])
      · cases h
        exact ⟨rfl, .exit rfl, .keep rfl⟩
      · cases h
        exact ⟨rfl, .exit rfl, .keep rfl⟩
      · cases h
    · cases h
  | restarted =>
    split at h
    · next hphase =>
      cases h
      exact ⟨rfl, .keep rfl (fun _ => by rw [signalled, hphase]) (by simp [inLoop]), .keep rfl⟩
    · cases h
  | interrupted =>
    split at h
    · split at h
      · cases h
        exact ⟨rfl, .exit rfl, .keep rfl⟩
      · cases h
        exact ⟨rfl, .exit rfl, .keep rfl⟩
      · cases h
    · cases h
  | leasesDropped =>
    split at h
    · cases h
      exact ⟨rfl, .keep rfl id id, .abort rfl⟩
    · cases h
  | lease i a =>
    split at h
    · next l hi =>
      obtain ⟨l', hstep, rfl⟩ := map_eq_some_iff.mp h
      exact ⟨rfl, .keep rfl id id, .step i a l l' rfl hi hstep rfl⟩
    · cases h

/-! ## Runs -/

/-- What holds in every run: the coordinator's own receiver has seen nothing, and a
`Running` is only ever sent after a cancellation. -/
structure Inv (s : Coordinator Json) : Prop where
  rx : s.cancelRx.seen = 0
  signalled : s.signalled = true → ∃ v ∈ s.cancel.sent, v ≠ .running
  sent : s.cancel.sent ≠ [] → ∃ v ∈ s.cancel.sent, v ≠ .running

omit [EmptyCollection Json] in
theorem inv_initial (maxParallel : Nat) : (initial maxParallel : Coordinator Json).Inv where
  rx := rfl
  signalled := by simp [signalled, initial]
  sent := by simp [initial, Channel.new]

/-- What was signalled stays signalled. -/
theorem Moves.signalled_mono (h : Moves s t ev) (hs : ∃ v ∈ s.cancel.sent, v ≠ .running) :
    ∃ v ∈ t.cancel.sent, v ≠ .running := by
  obtain ⟨v, hv, hne⟩ := hs
  cases h.cancel with
  | keep hsent => exact ⟨v, hsent ▸ hv, hne⟩
  | signal _ _ hsent | resume _ hsent => exact ⟨v, hsent ▸ mem_append_left _ hv, hne⟩

theorem inv_moves (h : Moves s t ev) (hs : s.Inv) : t.Inv := by
  have hrx : t.cancelRx.seen = 0 := by rw [h.rx, hs.rx]
  cases h.cancel with
  | keep hsent hsignalled =>
    exact ⟨hrx, fun ht => h.signalled_mono (hs.signalled (hsignalled ht)),
      fun hne => h.signalled_mono (hs.sent (hsent ▸ hne))⟩
  | signal v hv hsent =>
    have hnow : ∃ v ∈ t.cancel.sent, v ≠ .running :=
      ⟨v, by rw [hsent]; exact mem_append_right _ mem_cons_self, hv⟩
    exact ⟨hrx, fun _ => hnow, fun _ => hnow⟩
  | resume hphase =>
    have hnow := h.signalled_mono (hs.signalled hphase)
    exact ⟨hrx, fun _ => hnow, fun _ => hnow⟩

end Steps

/-- What one step of a lease task does, as far as `worker_cancel` goes. -/
structure LeaseStepSpec (cancel : Channel LeaseCancellation) (l l' : LeaseTask Json)
    (a : LeaseAction Json) : Prop where
  handedAt : l'.handedAt = l.handedAt
  selecting : l'.selecting = true → l.selecting = true ∧ l'.workerCancel = l.workerCancel
  source : l'.source = some .workerCancel → l.source = some .workerCancel ∨
    (a = .cancelled ∧ l.selecting = true ∧ ∃ out, l.workerCancel.changed cancel = some out)

theorem leaseStep_spec [EmptyCollection Json] {shutdown : Channel ShutdownKind}
    {l l' : LeaseTask Json} {a : LeaseAction Json} (h : l.step cancel shutdown a = some l') :
    LeaseStepSpec cancel l l' a := by
  cases a with simp only [LeaseTask.step] at h
  | childAnswers _ =>
    split at h
    · next hphase =>
      cases h
      exact ⟨rfl, fun _ => ⟨by rw [LeaseTask.selecting, hphase], rfl⟩, by simp [LeaseTask.source]⟩
    · cases h
      exact ⟨rfl, by simp [LeaseTask.selecting], by simp [LeaseTask.source]⟩
    · cases h
  | cancelled =>
    split at h
    · next hsel =>
      obtain ⟨out, hchanged, rfl⟩ := map_eq_some_iff.mp h
      exact ⟨rfl, by simp [LeaseTask.selecting], fun _ => .inr ⟨rfl, hsel, out, hchanged⟩⟩
    · cases h
  | shutdown =>
    split at h
    · obtain ⟨_, _, rfl⟩ := map_eq_some_iff.mp h
      exact ⟨rfl, by simp [LeaseTask.selecting], by simp [LeaseTask.source]⟩
    · cases h
  | fenced | completed =>
    split at h
    · cases h
      exact ⟨rfl, by simp [LeaseTask.selecting], by simp [LeaseTask.source]⟩
    · cases h
  | settled =>
    split at h
    · next source _ hphase =>
      cases h
      refine ⟨rfl, by simp [LeaseTask.selecting], fun hsrc => .inl ?_⟩
      rw [LeaseTask.source, hphase]
      exact hsrc
    · cases h

/-- What a lease task keeps as long as leases are handed over before any send: it was
handed over at version 0 and has seen nothing since, and if it was cancelled a
cancellation was sent. -/
structure Fresh (cancel : Channel LeaseCancellation) (l : LeaseTask Json) : Prop where
  handedAt : l.handedAt = 0
  unseen : l.selecting = true → l.workerCancel.seen = 0
  cancelled : l.source = some .workerCancel → ∃ v ∈ cancel.sent, v ≠ .running

theorem fresh_abort {l : LeaseTask Json} (h : Fresh cancel l) : Fresh cancel l.abort := by
  unfold LeaseTask.abort
  split
  · exact h
  · exact ⟨h.handedAt, by simp [LeaseTask.selecting], by simp [LeaseTask.source]⟩

section Runs
variable [EmptyCollection Json] {ev : CoordinatorEvent Json}

theorem fresh_step (hs : s.Inv) (hok : s.BeforeAnyRestart ev) (h : s.step ev = some t)
    (hfresh : ∀ l ∈ s.leases, Fresh s.cancel l) : ∀ l ∈ t.leases, Fresh t.cancel l := by
  have hmoves := step_moves h
  -- the channel only grows, so what was fresh stays so
  have hkeep : ∀ l : LeaseTask Json, Fresh s.cancel l → Fresh t.cancel l := fun l hl =>
    ⟨hl.handedAt, hl.unseen, fun hc => hmoves.signalled_mono (hl.cancelled hc)⟩
  cases hmoves.leases with
  | keep hl => rw [hl]; exact fun l hmem => hkeep l (hfresh l hmem)
  | abort hl =>
    rw [hl]
    intro l hmem
    obtain ⟨l₀, hl₀, rfl⟩ := mem_map.mp hmem
    exact hkeep _ (fresh_abort (hfresh l₀ hl₀))
  | handOver _ hev hl =>
    subst hev
    rw [hl]
    intro l hmem
    rcases mem_append.mp hmem with hmem | hmem
    · exact hkeep l (hfresh l hmem)
    have hsent : s.cancel.sent = [] := hok
    rw [mem_singleton.mp hmem]
    refine ⟨?_, fun _ => hs.rx, by simp [LeaseTask.source, handOver]⟩
    change s.cancel.sent.length = 0
    rw [hsent]
    rfl
  | step i a l₀ _ hev hi hstep hl =>
    subst hev
    rw [hl]
    intro l hmem
    rcases ListUpdate.mem_set_cases hmem with rfl | hmem
    · have hl₀ := hfresh l₀ (mem_of_getElem? hi)
      have hspec := leaseStep_spec hstep
      refine hkeep _ ⟨hspec.handedAt.trans hl₀.handedAt, ?_, ?_⟩
      · intro hsel
        obtain ⟨hsel₀, hrx⟩ := hspec.selecting hsel
        rw [hrx, hl₀.unseen hsel₀]
      · intro hsrc
        rcases hspec.source hsrc with hold | ⟨rfl, hsel, _, hchanged⟩
        · exact hl₀.cancelled hold
        · -- an open channel is ready only for a send, and the first one cancels
          have hne := Receiver.unseen_of_changed hok hchanged
          refine hs.sent fun hnil => hne ?_
          rw [hl₀.unseen hsel, Channel.version, hnil]
          rfl
    · exact hkeep l (hfresh l (mem_of_mem_eraseIdx hmem))

omit [EmptyCollection Json] in
theorem cancelledInTime_of_fresh (hfresh : ∀ l ∈ s.leases, Fresh s.cancel l) :
    s.CancelledInTime := by
  intro l hl hsrc
  rw [(hfresh l hl).handedAt]
  exact (hfresh l hl).cancelled hsrc

/-- A lease handed over after a send takes the stale version for its own: its first
look at `worker_cancel` is ready at once. -/
theorem stale_lease_cancelled (hs : s.Inv) (hphase : s.phase = .looping false)
    (hpermit : s.held < s.maxParallel) (hsent : s.cancel.sent ≠ []) (leaseId : LeaseId) :
    ∃ t, Runs.Run step Runs.always s [.acquireLease leaseId, .lease s.leases.length .cancelled] t ∧
      ¬ t.CancelledInTime := by
  let s₁ : Coordinator Json := { s with leases := s.leases ++ [s.handOver leaseId] }
  have hstep₁ : s.step (.acquireLease leaseId) = some s₁ := by
    simp only [step, hphase, if_pos hpermit, s₁]
  have hget : s₁.leases[s.leases.length]? = some (s.handOver leaseId) := by
    simp [s₁]
  have hready : s.cancelRx.changed s.cancel = some (.changed, ⟨s.cancel.version⟩) := by
    refine Receiver.changed_of_unseen ?_
    rw [hs.rx]
    exact fun h0 => hsent (length_eq_zero_iff.mp h0.symm)
  let l' : LeaseTask Json :=
    { s.handOver leaseId with
      workerCancel := ⟨s.cancel.version⟩
      phase := .settling .workerCancel (cancellationOutcome .changed s.cancel.value) }
  let t : Coordinator Json := { s₁ with leases := s₁.leases.set s.leases.length l' }
  have hlease : (s.handOver leaseId).step s₁.cancel s₁.shutdown .cancelled = some l' := by
    have hsel : (s.handOver leaseId).selecting = true := rfl
    change Option.map _ (s.cancelRx.changed s.cancel) = _
    rw [hready]
    rfl
  have hstep₂ : s₁.step (.lease s.leases.length .cancelled) = some t := by
    simp only [step, hget, hlease, map_some, t]
  refine ⟨t, .cons trivial hstep₁ (.cons trivial hstep₂ (.nil t)), fun htime => ?_⟩
  have hmem : l' ∈ t.leases := by
    simp [t, s₁]
  obtain ⟨v, hv, -⟩ := htime l' hmem rfl
  have hnone : t.cancel.since l'.handedAt = [] := Channel.since_version s.cancel
  rw [hnone] at hv
  cases hv

/-- **Leases handed over before any restart are cancelled only by what happens during
them**, in every state a run reaches; and in every run that is back in the loop after
a send on the cancel channel, the next lease handed over can be cancelled at once,
with nothing sent since. -/
theorem cancelled_only_during_lease (maxParallel : Nat) :
    (∀ (evs : List (CoordinatorEvent Json)) (s : Coordinator Json),
      Runs.Run step BeforeAnyRestart (initial maxParallel) evs s → s.CancelledInTime) ∧
    (∀ (evs : List (CoordinatorEvent Json)) (s : Coordinator Json) (leaseId : LeaseId),
      Runs.Run step Runs.always (initial maxParallel) evs s → s.phase = .looping false →
      s.held < s.maxParallel → s.cancel.sent ≠ [] →
      ∃ t, Runs.Run step Runs.always s
          [.acquireLease leaseId, .lease s.leases.length .cancelled] t ∧
        ¬ t.CancelledInTime) := by
  constructor
  · intro _ s h
    refine cancelledInTime_of_fresh (h.invariant (I := fun s => s.Inv ∧
      ∀ l ∈ s.leases, Fresh s.cancel l) ?_ ⟨inv_initial maxParallel, by simp [initial]⟩).2
    intro s _ t hI hok hstep
    exact ⟨inv_moves (step_moves hstep) hI.1, fresh_step hI.1 hok hstep hI.2⟩
  · intro _ s leaseId h hphase hpermit hsent
    have hinv : s.Inv := h.invariant (fun hI _ hstep => inv_moves (step_moves hstep) hI)
      (inv_initial maxParallel)
    exact stale_lease_cancelled hinv hphase hpermit hsent leaseId

/-- The child crashes while it works on a lease. -/
def crashDuringLease : List (CoordinatorEvent (List Nat)) :=
  [.acquireLease 1, .childExit, .readinessDone, .lease 0 .cancelled, .lease 0 .settled]

theorem crash_cancels_lease :
    ∃ s, Runs.Run step BeforeAnyRestart (initial 1) crashDuringLease s ∧
      (∃ l ∈ s.leases, l.phase = .finished .workerCancel (cancellationOutcome .changed .crash)) ∧
      s.CancelledInTime := by
  have hexec : ∃ s, Runs.Run step BeforeAnyRestart (initial 1) crashDuringLease s ∧
      ∃ l ∈ s.leases, l.phase = .finished .workerCancel (cancellationOutcome .changed .crash) :=
    Runs.exists_run _ _ (by decide)
  obtain ⟨s, hrun, hcancelled⟩ := hexec
  exact ⟨s, hrun, hcancelled, (cancelled_only_during_lease 1).1 _ s hrun⟩

/-- The child crashes and is restarted, and a lease is handed over: it finds the
versions of `Crash` and `Running` unseen and is fenced at once. -/
def fencedAfterRestart : List (CoordinatorEvent (List Nat)) :=
  [.childExit, .readinessDone, .leasesSettled false, .restarted, .readinessDone,
   .acquireLease 1, .lease 0 .cancelled, .lease 0 .settled]

theorem fenced_after_restart :
    ∃ s, Runs.Run step Runs.always (initial 1 : Coordinator (List Nat)) fencedAfterRestart s ∧
      ((∃ l ∈ s.leases, l.phase = .finished .workerCancel .fenced) ∧ ¬ s.CancelledInTime) :=
  Runs.exists_run step Runs.always (by decide)

end Runs

end Coordinator
end Voom
