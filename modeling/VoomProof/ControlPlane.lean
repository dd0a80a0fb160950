import VoomProof.AudioOperations

/-!
# The control plane's execution state

Tickets, leases, the audio operation ledgers and the commits of media tickets, which the
calls of `voom-control-plane` read and write together. A call that runs in one
transaction returns the new state or an error, and with an error nothing is written
(`transact`); a few calls write something even when they fail, and those return both.

Rows that are only read (nodes, workers, storage roots, file locations, access plans, use
leases, the catalog) are not part of the state. What a check of them gives is an argument of the
call, so two calls may find different ones.
-/

namespace Voom
open Fallible

/-- What a ticket's payload asks for. -/
inductive TicketWork where
  /-- Nothing is published; `mediaDispatch` says if the payload carries a media dispatch. -/
  | plain (mediaDispatch : Bool)
  /-- One file is published, with no operation on record: a remux, a video transcode, or an
  audio transcode that adds no track. -/
  | media
  /-- An extraction, or a transcode that adds tracks. -/
  | audio (request : AudioRequest)
  deriving DecidableEq

def TicketWork.mediaDispatch : TicketWork → Bool
  | plain mediaDispatch => mediaDispatch
  | media => true
  | audio _ => true

/-- The completion request a media ticket's files are published under. -/
structure CompletionContext where
  leaseId : LeaseId
  workerId : WorkerId
  request : String
  deriving DecidableEq

/-- One staged file on its way into the catalog. -/
structure MediaCommit where
  commit : ArtifactCommit
  /-- The artifact handle of the file: commits made of it one after the other have the same
  one, which is the first one's identifier. -/
  handle : CommitId
  context : CompletionContext
  /-- The verification of the file names the source lease; that of an audio operation's
  file does not, and is found through the operation. -/
  leaseBound : Bool
  deriving DecidableEq

structure ControlPlane where
  now : Instant
  store : LeaseStore TicketWork
  operations : List AudioOperation
  commits : List MediaCommit
  deriving DecidableEq

namespace ControlPlane

/-- The state after a transaction, which is rolled back when it fails. -/
def transact (cp : ControlPlane) (call : Except VoomError ControlPlane) : ControlPlane :=
  match call with
  | .ok cp' => cp'
  | .error _ => cp

/-- The state with the tables a lease call leaves. -/
def withStore (cp : ControlPlane) (call : Except VoomError (LeaseStore TicketWork)) :
    Except VoomError ControlPlane := do
  let store ← call
  return { cp with store := store }

/-! ## Lease calls -/

/-- A heartbeat renews the audio claims of its lease, or fails. -/
def heartbeatLease (cp : ControlPlane) (id : LeaseId) (ttl : Int) :
    Except VoomError ControlPlane := do
  let store ← cp.store.heartbeat id ttl cp.now
  let lease ← find store.leases[id]? (.internal "lease vanished mid-tx")
  let operations ← AudioLedger.renewClaimsForLease cp.operations .extraction id lease.expiresAt
    cp.now
  let operations ← AudioLedger.renewClaimsForLease operations .synthesis id lease.expiresAt cp.now
  return { cp with store := store, operations := operations }

def remoteLeaseHeartbeat (cp : ControlPlane) (id : LeaseId) (workerId : WorkerId) (ttl : Int) :
    Except VoomError ControlPlane := do
  require (0 < ttl) (.config s!"lease ttl must be positive, got {ttl}s")
  let _ ← cp.store.getHeldForWorker id workerId
  cp.heartbeatLease id ttl

/-- `release_lease_in_tx`, which promotes the dependents it unblocks. -/
def releaseLease (cp : ControlPlane) (id : LeaseId) (unblocked : List TicketId) :
    Except VoomError ControlPlane := do
  let store ← cp.store.release id
  return { cp with store := store.markReady unblocked }

def remoteFail (cp : ControlPlane) (id : LeaseId) (workerId : WorkerId)
    (failureClass : FailureClass) (rng : UInt32) : Except VoomError ControlPlane := do
  let _ ← cp.store.getHeldForWorker id workerId
  cp.withStore (cp.store.fail id failureClass cp.now rng)

def expireDueLeases (cp : ControlPlane) : Except VoomError ControlPlane :=
  cp.withStore (cp.store.expireDue cp.now)

def forceReleaseLease (cp : ControlPlane) (id : LeaseId) (alsoRequeue : Bool) :
    Except VoomError ControlPlane :=
  cp.withStore (cp.store.forceRelease id alsoRequeue cp.now)

/-! ## What a call leaves of the ledgers -/

/-- The clock stands still, and the operations on record make steps. -/
structure Keeps (cp cp' : ControlPlane) : Prop where
  now : cp'.now = cp.now
  operations : AudioLedger.Step cp.now cp.operations cp'.operations

theorem Keeps.refl (cp : ControlPlane) : Keeps cp cp := ⟨rfl, .refl _⟩

theorem Keeps.trans {cp₁ cp₂ cp₃ : ControlPlane} (h : Keeps cp₁ cp₂) (h' : Keeps cp₂ cp₃) :
    Keeps cp₁ cp₃ :=
  ⟨h'.now.trans h.now, h.operations.trans (h.now ▸ h'.operations)⟩

variable {cp cp' : ControlPlane}

/-- A call that leaves the ledgers alone. -/
theorem Keeps.of_eq (hnow : cp'.now = cp.now) (hops : cp'.operations = cp.operations) :
    Keeps cp cp' :=
  ⟨hnow, hops ▸ .refl _⟩

theorem Keeps.transact {call : Except VoomError ControlPlane}
    (h : ∀ {cp'}, call = .ok cp' → Keeps cp cp') : Keeps cp (cp.transact call) := by
  unfold ControlPlane.transact
  split
  · exact h rfl
  · exact .refl cp

variable {id : LeaseId}

theorem heartbeatLease_keeps {ttl : Int} (h : cp.heartbeatLease id ttl = .ok cp') :
    Keeps cp cp' := by
  simp only [heartbeatLease, bind_ok, return_ok] at h
  obtain ⟨_, -, _, -, _, hextraction, _, hsynthesis, rfl⟩ := h
  have h₁ := AudioLedger.renewClaimsForLease_step hextraction
  have h₂ := AudioLedger.renewClaimsForLease_step hsynthesis
  exact ⟨rfl, h₁.trans h₂⟩

theorem remoteLeaseHeartbeat_keeps {workerId : WorkerId} {ttl : Int}
    (h : cp.remoteLeaseHeartbeat id workerId ttl = .ok cp') : Keeps cp cp' := by
  simp only [remoteLeaseHeartbeat, bind_ok] at h
  obtain ⟨_, -, _, -, hbeat⟩ := h
  exact heartbeatLease_keeps hbeat

theorem releaseLease_keeps {unblocked : List TicketId}
    (h : cp.releaseLease id unblocked = .ok cp') : Keeps cp cp' := by
  simp only [releaseLease, bind_ok, return_ok] at h
  obtain ⟨_, -, rfl⟩ := h
  exact .of_eq rfl rfl

theorem withStore_keeps {call : Except VoomError (LeaseStore TicketWork)}
    (h : cp.withStore call = .ok cp') : Keeps cp cp' := by
  simp only [withStore, bind_ok, return_ok] at h
  obtain ⟨_, -, rfl⟩ := h
  exact .of_eq rfl rfl

theorem remoteFail_keeps {workerId : WorkerId} {failureClass : FailureClass} {rng : UInt32}
    (h : cp.remoteFail id workerId failureClass rng = .ok cp') : Keeps cp cp' := by
  simp only [remoteFail, bind_ok] at h
  obtain ⟨_, -, hstore⟩ := h
  exact withStore_keeps hstore

end ControlPlane
end Voom
