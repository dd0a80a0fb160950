import VoomProof.ScanSessions

/-!
# Remote mutations and their idempotency keys

A node sends a mutation with an idempotency key, and sends it again when it has got no
answer. The control plane keeps the outcome of every mutation under the node, the route, the
worker, the incarnation and the key (`repo/execution/remote_idempotency.rs`): a first request
reserves the key, carries the mutation out and completes the key in one transaction; a later
one is answered with what is stored.

The routes do this in different orders. A lease failure and the four scan routes reserve the key
first. A lease completion (`remote_complete`) only looks the key up, because the completion of a
media operation does not happen in its transaction: the outputs are staged, the transaction is
committed without the key, and the request waits; the key is reserved and completed when
somebody has committed the staged artifacts (`artifact/publication/mod.rs`).

What the leases, tickets and artifacts do is left open (`LeaseServices`); the scan routes go
over the scan sessions. A transaction that is not committed (the process stops, an error is
returned) leaves no trace.
-/

namespace Voom
open Fallible Runs List

/-! ## Errors as they are stored -/

def isRemoteReplayableError : VoomError → Bool
  | .conflict _ | .config _ | .notFound _ => true
  | _ => false

def remoteErrorMessage : VoomError → String
  | .conflict message | .config message | .notFound message => message
  | other => other.display

def replayError (code message : String) : VoomError :=
  if code = "CONFLICT" then .conflict message
  else if code = "CONFIG_INVALID" then .config message
  else if code = "NOT_FOUND" then .notFound message
  else .internal s!"remote replay error {code}: {message}"

/-- What is stored of a replayable error is the whole of it. -/
theorem replayError_of_replayable {error : VoomError} (h : isRemoteReplayableError error = true) :
    replayError error.code (remoteErrorMessage error) = error := by
  cases error with
  | conflict | config | notFound => simp [replayError, VoomError.code, remoteErrorMessage]
  | _ => cases h

/-! ## The keys -/

/-- What a row of `remote_idempotency_keys` is found by. -/
structure ReplaySlot where
  nodeId : NodeId
  routeKey : String
  workerScopeId : Nat
  idempotencyKey : String
  deriving DecidableEq

inductive RemoteMutationReplay (Data : Type) where
  | ok (data : Data)
  | error (code message : String)

inductive RemoteKeyStatus (Data : Type) where
  | inProgress
  | completed (response : RemoteMutationReplay Data)

structure RemoteIdempotencyKey (Data : Type) where
  slot : ReplaySlot
  requestHash : String
  status : RemoteKeyStatus Data

inductive IdempotencyOutcome (Data : Type) where
  | reserved
  | replay (stored : RemoteMutationReplay Data)

abbrev RemoteKeys (Data : Type) := List (RemoteIdempotencyKey Data)

def RemoteKeyStatus.isInProgress {Data : Type} : RemoteKeyStatus Data → Bool
  | inProgress => true
  | completed _ => false

namespace RemoteKeys
variable {Data : Type}

def get (keys : RemoteKeys Data) (slot : ReplaySlot) : Option (RemoteIdempotencyKey Data) :=
  keys.find? (·.slot = slot)

def keyReused : VoomError := .conflict "idempotency key reused with different request body"

def lookupReplay (keys : RemoteKeys Data) (slot : ReplaySlot) (requestHash : String) :
    Except VoomError (Option (RemoteMutationReplay Data)) :=
  match keys.get slot with
  | none => .ok none
  | some row =>
    if row.requestHash ≠ requestHash then .error keyReused
    else match row.status with
      | .completed response => .ok (some response)
      | .inProgress => .error (.conflict "idempotency key is already in progress")

def reserveOrReplay (keys : RemoteKeys Data) (slot : ReplaySlot) (requestHash : String) :
    Except VoomError (IdempotencyOutcome Data × RemoteKeys Data) :=
  match keys.get slot with
  | none => .ok (.reserved, keys ++ [⟨slot, requestHash, .inProgress⟩])
  | some _ => do
    let existing ← keys.lookupReplay slot requestHash
    let stored ← find existing
      (.database "remote idempotency insert conflict had no existing row")
    return (.replay stored, keys)

/-- Store the response in the rows of the slot that are, or are not, in progress. -/
def respond (keys : RemoteKeys Data) (slot : ReplaySlot) (inProgress : Bool)
    (response : RemoteMutationReplay Data) (missing : VoomError) :
    Except VoomError (RemoteKeys Data) :=
  if keys.any fun row => row.slot = slot && row.status.isInProgress == inProgress then
    .ok (keys.map fun row =>
      if row.slot = slot && row.status.isInProgress == inProgress then
        { row with status := .completed response }
      else row)
  else .error missing

def complete (keys : RemoteKeys Data) (slot : ReplaySlot) (response : RemoteMutationReplay Data) :
    Except VoomError (RemoteKeys Data) :=
  keys.respond slot true response
    (.conflict s!"remote idempotency key \"{slot.idempotencyKey}\" is not reserved")

def repointCompletedReplay (keys : RemoteKeys Data) (slot : ReplaySlot)
    (response : RemoteMutationReplay Data) : Except VoomError (RemoteKeys Data) :=
  keys.respond slot false response
    (.conflict s!"remote idempotency key \"{slot.idempotencyKey}\" is not completed")

end RemoteKeys

/-! ## Requests -/

inductive RemoteRequest (Payload : Type) where
  | leaseComplete (leaseId : LeaseId) (workerId : WorkerId) (result : Payload)
  | leaseFail (leaseId : LeaseId) (workerId : WorkerId) (reason : String)
      (failureClass : FailureClass) (evidence : Payload)
  | scanStart (id : ScanSessionId)
  | scanBatch (id : ScanSessionId) (sequence : Nat) (observations : List ScanObservation)
  | scanFail (id : ScanSessionId) (reason : String)
  | scanComplete (id : ScanSessionId) (lastSequence : Option Nat) (observationCount : Nat)

structure RemoteCall (Payload : Type) where
  nodeId : NodeId
  incarnationId : NodeIncarnationId
  idempotencyKey : String
  requestHash : String
  request : RemoteRequest Payload

variable {Payload : Type}

def RemoteRequest.routeKey : RemoteRequest Payload → String
  | leaseComplete leaseId _ _ => s!"POST /v1/execution/lease/{leaseId}/complete"
  | leaseFail leaseId .. => s!"POST /v1/execution/lease/{leaseId}/fail"
  | scanStart _ => "POST /v1/scan/session/start"
  | scanBatch .. => "POST /v1/scan/session/batch"
  | scanFail .. => "POST /v1/scan/session/fail"
  | scanComplete .. => "POST /v1/scan/session/complete"

/-- The scan routes have no worker. -/
def RemoteRequest.workerScopeId : RemoteRequest Payload → Nat
  | leaseComplete _ workerId _ => workerId
  | leaseFail _ workerId .. => workerId
  | _ => 0

def incarnationReplayKey (id : NodeIncarnationId) (key : String) : String := s!"{id}:{key}"

def RemoteCall.slot (call : RemoteCall Payload) : ReplaySlot where
  nodeId := call.nodeId
  routeKey := call.request.routeKey
  workerScopeId := call.request.workerScopeId
  idempotencyKey := incarnationReplayKey call.incarnationId call.idempotencyKey

/-- What is checked before the transaction. -/
def RemoteRequest.validate (requestHash : String) : RemoteRequest Payload → Except VoomError Unit
  | scanBatch _ sequence observations =>
      ScanWorld.validateBatchInput sequence ⟨requestHash, observations⟩
  | scanComplete _ lastSequence observationCount =>
      ScanWorld.validateCompletionInput lastSequence observationCount
  | _ => .ok ()

inductive RemoteOutcome (Outcome : Type) where
  | lease (outcome : Outcome)
  | started (session : ScanSession)
  | accepted (outcome : ScanBatchOutcome)
  | failed (id : ScanSessionId)
  | completed (id : ScanSessionId) (observationCount retiredLocationCount : Nat)

/-- How outcomes are stored, and read back. -/
structure OutcomeCodec (Outcome Data : Type) where
  encode : RemoteOutcome Outcome → Data
  decode : Data → Except VoomError (RemoteOutcome Outcome)
  decode_encode : ∀ outcome, decode (encode outcome) = .ok outcome

/-- What the leases, tickets and artifacts do in a transaction. -/
structure LeaseServices (Leases Payload Outcome : Type) where
  /-- The node, its token and its active incarnation, and the worker of a lease route. -/
  fence : Leases → RemoteCall Payload → Except VoomError Unit
  nodeRetired : Leases → NodeId → Bool
  completePreflight : Leases → RemoteCall Payload → Except VoomError Unit
  /-- `none` if the operation is no media operation; else its outputs are staged now, or
  have been by the same request. -/
  stage : Leases → RemoteCall Payload → Instant → Except VoomError (Option Leases)
  completeMutation : Leases → RemoteCall Payload → Instant → Except VoomError (Outcome × Leases)
  failPreflight : Leases → RemoteCall Payload → Except VoomError Unit
  failMutation : Leases → RemoteCall Payload → Instant → Except VoomError (Outcome × Leases)
  /-- The staged artifacts of the completion are committed to the catalog. -/
  publish : Leases → RemoteCall Payload → Instant → Except VoomError (Outcome × Leases)
  /-- The lease is still held, and the publication has not stopped. -/
  guardHeld : Leases → RemoteCall Payload → Instant → Except VoomError Unit

structure RemoteWorld (Leases Payload Data : Type) where
  keys : RemoteKeys Data
  scans : ScanWorld
  leases : Leases
  /-- The completions whose outputs are staged, as the verifications keep them. -/
  staged : List (RemoteCall Payload)
  /-- The requests that wait for the publication of what they have staged. -/
  held : List (RemoteCall Payload)

/-! ## Scan routes -/

/-- What a scan route does once it has reserved its key. -/
inductive ScanStep (Outcome : Type) where
  /-- The outcome is stored, and the transaction is committed. -/
  | committed (outcome : RemoteOutcome Outcome) (scans : ScanWorld)
  /-- The error is stored if it may be replayed, and else the transaction is given up. -/
  | failed (error : VoomError) (scans : ScanWorld)
  /-- The transaction is given up. -/
  | aborted (error : VoomError)

namespace ScanStep
open ScanWorld
variable {Outcome : Type}

/-- The owner's session, in the right state and not stale. -/
def onOwned (env : ScanEnv) (w : ScanWorld) (id : ScanSessionId) (node : NodeId)
    (incarnation : Option NodeIncarnationId) (now : Instant) (status : ScanSessionStatus)
    (operation : String) (next : ScanSession → ScanStep Outcome) : ScanStep Outcome :=
  match w.ownedScanSession id node with
  | .error e => .failed e w
  | .ok session =>
    if session.status ≠ status then .failed (notIn id session operation) w
    else
      match env.root session.storageRootId with
      | none => .aborted (missingRoot id session)
      | some root =>
        match scanFenceError id session root incarnation now with
        | some error => .failed (errorWithStaleContext id error) (w.terminalize id session .stale)
        | none => next session

def startScanSession (env : ScanEnv) (w : ScanWorld) (id : ScanSessionId) (node : NodeId)
    (incarnation : NodeIncarnationId) (now : Instant) : ScanStep Outcome :=
  onOwned env w id node none now .requested "start" fun session =>
    if env.incarnationOf incarnation session.ownerNodeId then
      .committed (.started (startedRow w.catalog.identity session incarnation now))
        (w.setSession id (startedRow w.catalog.identity session incarnation now))
    else .aborted (.database
      (s!"scan start incarnation {incarnation} does not belong to owner node " ++
      s!"{session.ownerNodeId}"))

/-- `accepted_batch_in_tx` and what follows it. -/
def acceptedBatch (env : ScanEnv) (w : ScanWorld) (id : ScanSessionId) (session : ScanSession)
    (sequence : Nat) (batch : ScanObservationBatch) (now : Instant) : ScanStep Outcome :=
  match w.acceptedBatch env id session sequence batch now with
  | .error e => .failed e w
  | .ok (outcome, w') => .committed (.accepted outcome) w'

def acceptScanObservationBatch (env : ScanEnv) (w : ScanWorld) (id : ScanSessionId)
    (node : NodeId) (incarnation : NodeIncarnationId) (sequence : Nat)
    (batch : ScanObservationBatch) (now : Instant) : ScanStep Outcome :=
  match w.ownedScanSession id node with
  | .error e => .failed e w
  | .ok session =>
    if sequence < session.nextSequence then acceptedBatch env w id session sequence batch now
    else onOwned env w id node (some incarnation) now .running "accept batch" fun session =>
      acceptedBatch env w id session sequence batch now

def failScanSession (env : ScanEnv) (w : ScanWorld) (id : ScanSessionId) (node : NodeId)
    (incarnation : NodeIncarnationId) (now : Instant) : ScanStep Outcome :=
  onOwned env w id node (some incarnation) now .running "fail" fun session =>
    .committed (.failed id) (w.terminalize id session .failed)

def completionCommitLockPrefix : String := "transient scan completion commit lock: "

def isCompletionCommitLockConflict : VoomError → Bool
  | .conflict detail => completionCommitLockPrefix.toList.isPrefixOf detail.toList
  | _ => false

/-- The publication is given up with everything else when it fails, and so is a completion
that has found a commit in flight. -/
def finishNewScanCompletion (env : ScanEnv) (w : ScanWorld) (id : ScanSessionId)
    (session : ScanSession) (lastSequence : Option Nat) (observationCount : Nat) :
    ScanStep Outcome :=
  match w.catalog.publishSessionEvidence env.publish session.storageRootId
      session.observations with
  | .error e => .aborted e
  | .ok (_, published) =>
    match w.finishCompletion env id session lastSequence observationCount with
    | .error e => if isCompletionCommitLockConflict e then .aborted e else .failed e w
    | .ok w' => .committed (.completed id session.observationCount
        (session.completionCandidates published.identity).length) w'

def completeScanSession (env : ScanEnv) (w : ScanWorld) (id : ScanSessionId) (node : NodeId)
    (incarnation : NodeIncarnationId) (lastSequence : Option Nat) (observationCount : Nat)
    (now : Instant) : ScanStep Outcome :=
  match w.ownedScanSession id node with
  | .error e => .failed e w
  | .ok session =>
    if (env.root session.storageRootId).isNone then .aborted (missingRoot id session)
    else onOwned env w id node (some incarnation) now .running "complete" fun session =>
      finishNewScanCompletion env w id session lastSequence observationCount

end ScanStep

/-! ## Routes -/

namespace RemoteWorld
open RemoteKeys

variable {Leases Outcome Data : Type}

/-- The answer, if there is one yet, and the state after the call. -/
abbrev Reply (Leases Payload Outcome Data : Type) :=
  Option (Except VoomError (RemoteOutcome Outcome)) × RemoteWorld Leases Payload Data

/-- The error is answered, and the transaction is given up. -/
def refuse (w : RemoteWorld Leases Payload Data) (error : VoomError) :
    Reply Leases Payload Outcome Data :=
  (some (.error error), w)

/-- Complete the reserved key with the outcome and commit. -/
def storeOk (codec : OutcomeCodec Outcome Data) (w w' : RemoteWorld Leases Payload Data)
    (keys : RemoteKeys Data) (slot : ReplaySlot) (outcome : RemoteOutcome Outcome) :
    Reply Leases Payload Outcome Data :=
  match keys.complete slot (.ok (codec.encode outcome)) with
  | .error e => w.refuse e
  | .ok keys => (some (.ok outcome), { w' with keys := keys })

/-- Complete the reserved key with the error and commit. -/
def storeError (w w' : RemoteWorld Leases Payload Data) (keys : RemoteKeys Data)
    (slot : ReplaySlot) (error : VoomError) : Reply Leases Payload Outcome Data :=
  match keys.complete slot (.error error.code (remoteErrorMessage error)) with
  | .error e => w.refuse e
  | .ok keys => (some (.error error), { w' with keys := keys })

/-- A stored result that can no longer be read becomes a stored error. -/
def finishReplay (codec : OutcomeCodec Outcome Data) (w : RemoteWorld Leases Payload Data)
    (slot : ReplaySlot) : RemoteMutationReplay Data → Reply Leases Payload Outcome Data
  | .error code message => w.refuse (replayError code message)
  | .ok data =>
    match codec.decode data with
    | .ok outcome => (some (.ok outcome), w)
    | .error e =>
      match w.keys.repointCompletedReplay slot (.error e.code (remoteErrorMessage e)) with
      | .error e' => w.refuse e'
      | .ok keys => (some (.error e), { w with keys := keys })

def validateRemoteNodeLive (services : LeaseServices Leases Payload Outcome) (leases : Leases)
    (node : NodeId) : Except VoomError Unit :=
  require (services.nodeRetired leases node = false)
    (.conflict s!"remote node {node} is retired")

section Routes
variable (services : LeaseServices Leases Payload Outcome) (codec : OutcomeCodec Outcome Data)

/-- `remote_fail`: the key is reserved first. -/
def remoteFail (w : RemoteWorld Leases Payload Data) (call : RemoteCall Payload) (now : Instant) :
    Reply Leases Payload Outcome Data :=
  match services.fence w.leases call with
  | .error e => w.refuse e
  | .ok () =>
    match w.keys.reserveOrReplay call.slot call.requestHash with
    | .error e => w.refuse e
    | .ok (.replay stored, _) => finishReplay codec w call.slot stored
    | .ok (.reserved, keys) =>
      match validateRemoteNodeLive services w.leases call.nodeId with
      | .error e => storeError w w keys call.slot e
      | .ok () =>
        match services.failPreflight w.leases call with
        | .error e =>
          if isRemoteReplayableError e then storeError w w keys call.slot e else w.refuse e
        | .ok () =>
          match services.failMutation w.leases call now with
          | .error e => w.refuse e
          | .ok (outcome, leases) =>
            storeOk codec w { w with leases := leases } keys call.slot (.lease outcome)

/-- Reserve the key, if it has not been, and complete it with the error. -/
def reserveError (w : RemoteWorld Leases Payload Data) (call : RemoteCall Payload)
    (error : VoomError) : Reply Leases Payload Outcome Data :=
  match w.keys.reserveOrReplay call.slot call.requestHash with
  | .error e => w.refuse e
  | .ok (_, keys) => storeError w w keys call.slot error

/-- What follows the checks of a completion.  Media outputs are staged and the request waits;
the key is not reserved then. -/
def remoteCompleteAfterPreflight (w : RemoteWorld Leases Payload Data) (call : RemoteCall Payload)
    (now : Instant) : Reply Leases Payload Outcome Data :=
  match services.stage w.leases call now with
  | .error e => w.refuse e
  | .ok (some leases) =>
    (none, { w with
      leases := leases, staged := w.staged ++ [call], held := w.held ++ [call] })
  | .ok none =>
    match w.keys.reserveOrReplay call.slot call.requestHash with
    | .error e => w.refuse e
    | .ok (.replay _, _) => w.refuse (.conflict "completion changed while held")
    | .ok (.reserved, keys) =>
      match services.completeMutation w.leases call now with
      | .error e => w.refuse e
      | .ok (outcome, leases) =>
        storeOk codec w { w with leases := leases } keys call.slot (.lease outcome)

/-- `remote_complete`: the key is looked up first. -/
def remoteComplete (w : RemoteWorld Leases Payload Data) (call : RemoteCall Payload)
    (now : Instant) : Reply Leases Payload Outcome Data :=
  match services.fence w.leases call with
  | .error e => w.refuse e
  | .ok () =>
    match w.keys.lookupReplay call.slot call.requestHash with
    | .error e => w.refuse e
    | .ok (some stored) => finishReplay codec w call.slot stored
    | .ok none =>
      match validateRemoteNodeLive services w.leases call.nodeId with
      | .error e => reserveError w call e
      | .ok () =>
        match services.completePreflight w.leases call with
        | .error e => if isRemoteReplayableError e then reserveError w call e else w.refuse e
        | .ok () => remoteCompleteAfterPreflight services codec w call now

/-- `PendingMedia::wait`, one round. -/
def wait (w : RemoteWorld Leases Payload Data) (call : RemoteCall Payload) (now : Instant) :
    Option (Except VoomError (RemoteOutcome Outcome)) :=
  match w.keys.lookupReplay call.slot call.requestHash with
  | .error e => some (.error e)
  | .ok (some (.ok data)) =>
    match codec.decode data with
    | .ok outcome => some (.ok outcome)
    | .error e => some (.error (.database s!"owner media complete replay: {e.display}"))
  | .ok (some (.error _ message)) => some (.error (.commitFailure message))
  | .ok none =>
    match services.guardHeld w.leases call now with
    | .error e => some (.error e)
    | .ok () => none

/-- `finish_in_tx`: what was staged is in the catalog, and the lease is released. -/
def finishMedia (w : RemoteWorld Leases Payload Data) (call : RemoteCall Payload) (now : Instant) :
    RemoteWorld Leases Payload Data :=
  match services.publish w.leases call now with
  | .error _ => w
  | .ok (outcome, leases) =>
    match w.keys.reserveOrReplay call.slot call.requestHash with
    | .ok (.reserved, keys) =>
      let stored : Reply Leases Payload Outcome Data :=
        storeOk codec w { w with leases := leases } keys call.slot (.lease outcome)
      stored.2
    | _ => w

/-- A scan route, with the key reserved first. -/
def scanRoute (w : RemoteWorld Leases Payload Data) (call : RemoteCall Payload)
    (scan : ScanWorld → ScanStep Outcome) : Reply Leases Payload Outcome Data :=
  match call.request.validate call.requestHash with
  | .error e => w.refuse e
  | .ok () =>
    match services.fence w.leases call with
    | .error e => w.refuse e
    | .ok () =>
      match w.keys.reserveOrReplay call.slot call.requestHash with
      | .error e => w.refuse e
      | .ok (.replay stored, _) => finishReplay codec w call.slot stored
      | .ok (.reserved, keys) =>
        match scan w.scans with
        | .committed outcome scans =>
          storeOk codec w { w with scans := scans } keys call.slot outcome
        | .failed e scans =>
          if isRemoteReplayableError e then
            storeError w { w with scans := scans } keys call.slot e
          else w.refuse e
        | .aborted e => w.refuse e

def serve (env : ScanEnv) (w : RemoteWorld Leases Payload Data) (call : RemoteCall Payload)
    (now : Instant) : Reply Leases Payload Outcome Data :=
  match call.request with
  | .leaseComplete .. => remoteComplete services codec w call now
  | .leaseFail .. => remoteFail services codec w call now
  | .scanStart id => scanRoute services codec w call fun scans =>
      .startScanSession env scans id call.nodeId call.incarnationId now
  | .scanBatch id sequence observations => scanRoute services codec w call fun scans =>
      .acceptScanObservationBatch env scans id call.nodeId call.incarnationId sequence
        ⟨call.requestHash, observations⟩ now
  | .scanFail id _ => scanRoute services codec w call fun scans =>
      .failScanSession env scans id call.nodeId call.incarnationId now
  | .scanComplete id lastSequence observationCount => scanRoute services codec w call fun scans =>
      .completeScanSession env scans id call.nodeId call.incarnationId lastSequence
        observationCount now

end Routes

/-! ## Runs -/

inductive Event (Leases Payload : Type) where
  | call (env : ScanEnv) (now : Instant) (call : RemoteCall Payload)
  /-- A request that waits looks again. -/
  | poll (place : Nat) (now : Instant)
  /-- A request that waits is dropped, by its client or with the process. -/
  | drop (place : Nat)
  /-- The owner has committed what was staged. -/
  | publish (place : Nat) (now : Instant)
  /-- Something else is written. -/
  | other (scans : ScanWorld) (leases : Leases)

section Step
variable (services : LeaseServices Leases Payload Outcome) (codec : OutcomeCodec Outcome Data)

def step (w : RemoteWorld Leases Payload Data) :
    Event Leases Payload → Option (RemoteWorld Leases Payload Data)
  | .call env now call => some (serve services codec env w call now).2
  | .poll place now =>
    match w.held[place]? with
    | none => none
    | some call =>
      match wait services codec w call now with
      | none => some w
      | some _ => some { w with held := w.held.eraseIdx place }
  | .drop place => some { w with held := w.held.eraseIdx place }
  | .publish place now => w.staged[place]?.map fun call => finishMedia services codec w call now
  | .other scans leases => some { w with scans := scans, leases := leases }

def initial (scans : ScanWorld) (leases : Leases) : RemoteWorld Leases Payload Data :=
  ⟨[], scans, leases, [], []⟩

end Step

end RemoteWorld

/-! ## What is stored -/

namespace RemoteKeys
variable {Data : Type} {keys : RemoteKeys Data} {slot : ReplaySlot} {requestHash : String}
  {row : RemoteIdempotencyKey Data} {response : RemoteMutationReplay Data}

theorem get_slot (h : keys.get slot = some row) : row.slot = slot ∧ row ∈ keys :=
  ⟨by simpa using find?_some h, mem_of_find?_eq_some h⟩

/-- A row is added where there was none. -/
theorem get_append (hfree : keys.get row.slot = none) (slot : ReplaySlot) :
    get (keys ++ [row]) slot = if slot = row.slot then some row else keys.get slot := by
  rw [get, find?_append]
  split
  next heq =>
    subst heq
    have hnone : keys.find? (·.slot = row.slot) = none := hfree
    rw [hnone]
    simp
  next hne =>
  have hother : [row].find? (·.slot = slot) = none := by simp [Ne.symm hne]
  rw [hother, Option.or_none]
  rfl

theorem reserveOrReplay_none (h : keys.get slot = none) :
    keys.reserveOrReplay slot requestHash =
      .ok (.reserved, keys ++ [⟨slot, requestHash, .inProgress⟩]) := by
  unfold reserveOrReplay
  rw [h]

theorem lookupReplay_none (h : keys.get slot = none) :
    keys.lookupReplay slot requestHash = .ok none := by
  unfold lookupReplay
  rw [h]

/-- The row just reserved is the one that is completed. -/
theorem complete_reserved (h : keys.get slot = none) :
    complete (keys ++ [⟨slot, requestHash, .inProgress⟩]) slot response =
      .ok (keys ++ [⟨slot, requestHash, .completed response⟩]) := by
  have hothers : ∀ row ∈ keys, ¬ row.slot = slot := fun row hrow =>
    of_decide_eq_false (Bool.eq_false_of_not_eq_true (find?_eq_none.mp h row hrow))
  have hmap : keys.map (fun row => if row.slot = slot && row.status.isInProgress == true then
      { row with status := .completed response } else row) = keys := by
    refine (map_congr_left fun row hrow => ?_).trans (map_id keys)
    simp [hothers row hrow]
  rw [complete, respond, map_append, hmap]
  simp [RemoteKeyStatus.isInProgress]

section
variable (h : keys.get slot = some row)
include h

theorem lookupReplay_same (hhash : row.requestHash = requestHash)
    (hdone : row.status = .completed response) :
    keys.lookupReplay slot requestHash = .ok (some response) := by
  simp only [lookupReplay, h, hdone, hhash, ne_eq, not_true, if_false]

theorem lookupReplay_other (hhash : row.requestHash ≠ requestHash) :
    keys.lookupReplay slot requestHash = .error keyReused := by
  simp only [lookupReplay, h]
  exact if_pos hhash

theorem reserveOrReplay_same (hhash : row.requestHash = requestHash)
    (hdone : row.status = .completed response) :
    keys.reserveOrReplay slot requestHash = .ok (.replay response, keys) := by
  simp only [reserveOrReplay, h, lookupReplay_same h hhash hdone]
  rfl

theorem reserveOrReplay_other (hhash : row.requestHash ≠ requestHash) :
    keys.reserveOrReplay slot requestHash = .error keyReused := by
  simp only [reserveOrReplay, h, lookupReplay_other h hhash]
  rfl

end

end RemoteKeys

namespace RemoteWorld
open RemoteKeys

variable {Leases Outcome Data : Type} {services : LeaseServices Leases Payload Outcome}
  {codec : OutcomeCodec Outcome Data} {w w' : RemoteWorld Leases Payload Data}
  {call : RemoteCall Payload} {env : ScanEnv} {now : Instant} {events : List (Event Leases Payload)}

/-- What a stored response answers. -/
def storedOutcome (codec : OutcomeCodec Outcome Data) :
    RemoteMutationReplay Data → Except VoomError (RemoteOutcome Outcome)
  | .ok data => codec.decode data
  | .error code message => .error (replayError code message)

/-- The call has stored its outcome under its key, which was free. -/
structure Stored (codec : OutcomeCodec Outcome Data) (w w' : RemoteWorld Leases Payload Data)
    (call : RemoteCall Payload) (response : RemoteMutationReplay Data) : Prop where
  free : w.keys.get call.slot = none
  keys : w'.keys = w.keys ++ [⟨call.slot, call.requestHash, .completed response⟩]
  staged : w'.staged = w.staged
  held : w'.held = w.held
  readable : ∀ data, response = .ok data → ∃ outcome, data = codec.encode outcome

/-- What a call does when nothing is stored under its key. -/
inductive Served (codec : OutcomeCodec Outcome Data) (w : RemoteWorld Leases Payload Data)
    (call : RemoteCall Payload) : Reply Leases Payload Outcome Data → Prop where
  | refused (error : VoomError) : Served codec w call (w.refuse error)
  | stored {w' : RemoteWorld Leases Payload Data} {response : RemoteMutationReplay Data}
      (hstored : Stored codec w w' call response) :
      Served codec w call (some (storedOutcome codec response), w')
  | staged (leases : Leases) {leaseId : LeaseId} {workerId : WorkerId} {result : Payload}
      (hcall : call.request = .leaseComplete leaseId workerId result)
      (hfree : w.keys.get call.slot = none) :
      Served codec w call (none, { w with
        leases := leases, staged := w.staged ++ [call], held := w.held ++ [call] })

section Serve
variable {error : VoomError}

theorem validateRemoteNodeLive_error {leases : Leases} {node : NodeId}
    (h : validateRemoteNodeLive services leases node = .error error) :
    isRemoteReplayableError error = true := by
  unfold validateRemoteNodeLive require at h
  split at h
  · cases h
  · cases h
    rfl

variable (hfree : w.keys.get call.slot = none)
include hfree

theorem storeOk_served {outcome : RemoteOutcome Outcome}
    (hstaged : w'.staged = w.staged) (hheld : w'.held = w.held) :
    Served codec w call (storeOk codec w w'
      (w.keys ++ [⟨call.slot, call.requestHash, .inProgress⟩]) call.slot outcome) := by
  have hans : storedOutcome codec (.ok (codec.encode outcome)) = .ok outcome :=
    codec.decode_encode outcome
  unfold storeOk
  rw [complete_reserved hfree, ← hans]
  exact .stored ⟨hfree, rfl, hstaged, hheld, fun _ hdata => by
    cases hdata
    exact ⟨outcome, rfl⟩⟩

theorem storeError_served (herror : isRemoteReplayableError error = true)
    (hstaged : w'.staged = w.staged) (hheld : w'.held = w.held) :
    Served codec w call (storeError w w'
      (w.keys ++ [⟨call.slot, call.requestHash, .inProgress⟩]) call.slot error) := by
  have hans : storedOutcome codec (.error error.code (remoteErrorMessage error)) =
      .error error := congrArg Except.error (replayError_of_replayable herror)
  unfold storeError
  rw [complete_reserved hfree, ← hans]
  exact .stored ⟨hfree, rfl, hstaged, hheld, fun _ hdata => by cases hdata⟩

theorem remoteFail_served : Served codec w call (remoteFail services codec w call now) := by
  unfold remoteFail
  rw [reserveOrReplay_none hfree]
  split
  · exact .refused _
  dsimp only
  split
  next hlive =>
    exact storeError_served hfree (validateRemoteNodeLive_error hlive) rfl rfl
  · split
    · split
      next herror => exact storeError_served hfree herror rfl rfl
      · exact .refused _
    · split
      · exact .refused _
      · exact storeOk_served hfree rfl rfl

theorem reserveError_served (herror : isRemoteReplayableError error = true) :
    Served codec w call (reserveError w call error) := by
  unfold reserveError
  rw [reserveOrReplay_none hfree]
  exact storeError_served hfree herror rfl rfl

theorem remoteComplete_served {leaseId : LeaseId} {workerId : WorkerId} {result : Payload}
    (hcall : call.request = .leaseComplete leaseId workerId result) :
    Served codec w call (remoteComplete services codec w call now) := by
  unfold remoteComplete
  rw [lookupReplay_none hfree]
  split
  · exact .refused _
  dsimp only
  split
  next hlive =>
    exact reserveError_served hfree (validateRemoteNodeLive_error hlive)
  · split
    · split
      next herror => exact reserveError_served hfree herror
      · exact .refused _
    · unfold remoteCompleteAfterPreflight
      split
      · exact .refused _
      · exact .staged _ hcall hfree
      · rw [reserveOrReplay_none hfree]
        dsimp only
        split
        · exact .refused _
        · exact storeOk_served hfree rfl rfl

theorem scanRoute_served {scan : ScanWorld → ScanStep Outcome} :
    Served codec w call (scanRoute services codec w call scan) := by
  unfold scanRoute
  rw [reserveOrReplay_none hfree]
  split
  · exact .refused _
  split
  · exact .refused _
  dsimp only
  split
  · exact storeOk_served hfree rfl rfl
  · split
    next herror => exact storeError_served hfree herror rfl rfl
    · exact .refused _
  · exact .refused _

/-- **A call whose key is free is refused, stages media, or stores its outcome.** -/
theorem serve_free : Served codec w call (serve services codec env w call now) := by
  unfold serve
  split
  next hcall => exact remoteComplete_served hfree hcall
  · exact remoteFail_served hfree
  all_goals exact scanRoute_served hfree

end Serve

section Replay
variable {row : RemoteIdempotencyKey Data} {response : RemoteMutationReplay Data}

/-- What the codec has written. -/
def Readable (codec : OutcomeCodec Outcome Data) (response : RemoteMutationReplay Data) : Prop :=
  ∀ data, response = .ok data → ∃ outcome, data = codec.encode outcome

theorem finishReplay_readable {slot : ReplaySlot} (h : Readable codec response) :
    finishReplay codec w slot response = (some (storedOutcome codec response), w) := by
  cases response with
  | error => rfl
  | ok data =>
    obtain ⟨_, rfl⟩ := h data rfl
    simp only [finishReplay, storedOutcome, codec.decode_encode]

/-- The call has passed the checks of its input, and is one of the node that it names. -/
def Authenticated (services : LeaseServices Leases Payload Outcome)
    (w : RemoteWorld Leases Payload Data) (call : RemoteCall Payload) : Prop :=
  call.request.validate call.requestHash = .ok () ∧ services.fence w.leases call = .ok ()

/-- **A call whose key is stored is answered with what is stored, and changes nothing.** -/
theorem serve_same (hrow : w.keys.get call.slot = some row)
    (hhash : row.requestHash = call.requestHash) (hdone : row.status = .completed response)
    (hread : Readable codec response) (hauth : Authenticated services w call) :
    serve services codec env w call now = (some (storedOutcome codec response), w) := by
  have hreserve := reserveOrReplay_same hrow hhash hdone
  have hscan : ∀ scan, scanRoute services codec w call scan =
      (some (storedOutcome codec response), w) := by
    intro _
    simp only [scanRoute, hauth.1, hauth.2, hreserve, finishReplay_readable hread]
  unfold serve
  split
  · simp only [remoteComplete, hauth.2, lookupReplay_same hrow hhash hdone,
      finishReplay_readable hread]
  · simp only [remoteFail, hauth.2, hreserve, finishReplay_readable hread]
  all_goals exact hscan _

/-- A call with another request hash is refused. -/
theorem serve_other (hrow : w.keys.get call.slot = some row)
    (hhash : row.requestHash ≠ call.requestHash) (hauth : Authenticated services w call) :
    serve services codec env w call now = w.refuse keyReused := by
  have hreserve := reserveOrReplay_other hrow hhash
  have hscan : ∀ scan, scanRoute services codec w call scan = w.refuse keyReused := by
    intro _
    simp only [scanRoute, hauth.1, hauth.2, hreserve]
  unfold serve
  split
  · simp only [remoteComplete, hauth.2, lookupReplay_other hrow hhash]
  · simp only [remoteFail, hauth.2, hreserve]
  all_goals exact hscan _

/-- Nor does a call change anything that is not authenticated. -/
theorem serve_unauthenticated (hauth : ¬ Authenticated services w call) :
    ∃ error, serve services codec env w call now = w.refuse error := by
  cases hfence : services.fence w.leases call with
  | error error =>
    have hscan : ∀ scan, ∃ error, scanRoute services codec w call scan = w.refuse error := by
      intro _
      unfold scanRoute
      split
      · exact ⟨_, rfl⟩
      · rw [hfence]
        exact ⟨_, rfl⟩
    unfold serve
    split
    · exact ⟨error, by simp only [remoteComplete, hfence]⟩
    · exact ⟨error, by simp only [remoteFail, hfence]⟩
    all_goals exact hscan _
  | ok =>
    cases hval : call.request.validate call.requestHash with
    | ok => exact absurd ⟨hval, hfence⟩ hauth
    | error error =>
      have hscan : ∀ scan, scanRoute services codec w call scan = w.refuse error := by
        intro _
        simp only [scanRoute, hval]
      unfold serve
      split
      next hcall =>
        rw [hcall] at hval
        cases hval
      next hcall =>
        rw [hcall] at hval
        cases hval
      all_goals exact ⟨_, hscan _⟩

/-- What a request that waits is answered once its key is stored. -/
theorem wait_same (hrow : w.keys.get call.slot = some row)
    (hhash : row.requestHash = call.requestHash) (hdone : row.status = .completed response)
    (hread : Readable codec response) :
    wait services codec w call now = some (storedOutcome codec response) ↔
      ∃ data, response = .ok data := by
  unfold wait
  rw [lookupReplay_same hrow hhash hdone]
  cases response with
  | ok data =>
    obtain ⟨_, rfl⟩ := hread data rfl
    simp only [storedOutcome, codec.decode_encode]
    exact ⟨fun _ => ⟨_, rfl⟩, fun _ => trivial⟩
  | error code message =>
    constructor
    · intro hsame
      -- the code is dropped, and none is that of a failed commit
      have herror : VoomError.commitFailure message = replayError code message :=
        Except.error.inj (Option.some.inj hsame)
      unfold replayError at herror
      split at herror
      · cases herror
      · split at herror
        · cases herror
        · split at herror <;> cases herror
    · rintro ⟨_, hdata⟩
      cases hdata

end Replay

/-! ## Runs -/

section Runs

/-- Every key is completed, with a response that can be read. -/
def Settled (codec : OutcomeCodec Outcome Data) (w : RemoteWorld Leases Payload Data) : Prop :=
  ∀ row ∈ w.keys, ∃ response, row.status = .completed response ∧ Readable codec response

/-- The keys stay as they are, or one that was free is stored. -/
def KeysGrow (codec : OutcomeCodec Outcome Data) (w w' : RemoteWorld Leases Payload Data) : Prop :=
  w'.keys = w.keys ∨ ∃ row response, w.keys.get row.slot = none ∧ w'.keys = w.keys ++ [row] ∧
    row.status = .completed response ∧ Readable codec response

variable {slot : ReplaySlot} {row : RemoteIdempotencyKey Data}

theorem Settled.get (h : Settled codec w) (hrow : w.keys.get slot = some row) :
    ∃ response, row.status = .completed response ∧ Readable codec response :=
  h row (get_slot hrow).2

theorem Settled.grow (h : Settled codec w) (hgrow : KeysGrow codec w w') : Settled codec w' := by
  rcases hgrow with hsame | ⟨_, response, -, hkeys, hdone, hread⟩
  · unfold Settled
    rw [hsame]
    exact h
  · intro row hrow
    rw [hkeys] at hrow
    rcases mem_append.mp hrow with hold | hnew
    · exact h row hold
    · obtain rfl := mem_singleton.mp hnew
      exact ⟨response, hdone, hread⟩

/-- What is stored stays. -/
theorem KeysGrow.get (h : KeysGrow codec w w') (hrow : w.keys.get slot = some row) :
    w'.keys.get slot = some row := by
  rcases h with hsame | ⟨_, _, hfree, hkeys, -⟩
  · rw [hsame, hrow]
  · rw [hkeys, get_append hfree, if_neg, hrow]
    rintro rfl
    cases hfree.symm.trans hrow

theorem serve_grow (h : Settled codec w) :
    KeysGrow codec w (serve services codec env w call now).2 := by
  cases hrow : w.keys.get call.slot with
  | none =>
    have hserved : Served codec w call (serve services codec env w call now) := serve_free hrow
    generalize serve services codec env w call now = reply at hserved ⊢
    cases hserved with
    | refused | staged => exact .inl rfl
    | stored hstored => exact .inr ⟨_, _, hstored.free, hstored.keys, rfl, hstored.readable⟩
  | some row =>
    obtain ⟨_, hdone, hread⟩ := h.get hrow
    by_cases hauth : Authenticated services w call
    · by_cases hhash : row.requestHash = call.requestHash
      · rw [serve_same hrow hhash hdone hread hauth]
        exact .inl rfl
      · rw [serve_other hrow hhash hauth]
        exact .inl rfl
    · have hrefused : ∃ error, serve services codec env w call now = w.refuse error :=
        serve_unauthenticated hauth
      obtain ⟨_, hserve⟩ := hrefused
      rw [hserve]
      exact .inl rfl

/-- The publication of what was staged stores the outcome with its effect, or does nothing. -/
theorem finishMedia_effect (h : Settled codec w) :
    finishMedia services codec w call now = w ∨
      ∃ response, Stored codec w (finishMedia services codec w call now) call response := by
  unfold finishMedia
  split
  · exact .inl rfl
  next outcome _ _ =>
  cases hrow : w.keys.get call.slot with
  | none =>
    rw [reserveOrReplay_none hrow]
    refine .inr ⟨.ok (codec.encode (.lease outcome)), ?_⟩
    simp only [storeOk, complete_reserved hrow]
    exact ⟨hrow, rfl, rfl, rfl, fun _ hdata => by
      cases hdata
      exact ⟨_, rfl⟩⟩
  | some row =>
    obtain ⟨_, hdone, -⟩ := h.get hrow
    by_cases hhash : row.requestHash = call.requestHash
    · rw [reserveOrReplay_same hrow hhash hdone]
      exact .inl rfl
    · rw [reserveOrReplay_other hrow hhash]
      exact .inl rfl

theorem step_grow {e : Event Leases Payload} (hstep : step services codec w e = some w')
    (h : Settled codec w) : KeysGrow codec w w' := by
  cases e with
  | call _ =>
    cases hstep
    exact serve_grow h
  | poll _ =>
    simp only [step] at hstep
    split at hstep
    · cases hstep
    · split at hstep <;> cases hstep <;> exact .inl rfl
  | drop | other =>
    cases hstep
    exact .inl rfl
  | publish _ now =>
    obtain ⟨call, -, rfl⟩ := Option.map_eq_some_iff.mp hstep
    have heffect : finishMedia services codec w call now = w ∨
        ∃ response, Stored codec w (finishMedia services codec w call now) call response :=
      finishMedia_effect h
    rcases heffect with hsame | ⟨_, hstored⟩
    · rw [hsame]
      exact .inl rfl
    · exact .inr ⟨_, _, hstored.free, hstored.keys, rfl, hstored.readable⟩

theorem run_settled {scans : ScanWorld} {leases : Leases}
    (h : Run (step services codec) always (initial scans leases) events w) : Settled codec w :=
  h.invariant (I := Settled codec) (fun hs _ hstep => hs.grow (step_grow hstep hs))
    (fun _ hrow => by cases hrow)

theorem run_get (hs : Settled codec w) (h : Run (step services codec) always w events w')
    (hrow : w.keys.get slot = some row) : w'.keys.get slot = some row :=
  (h.invariant (I := fun u => Settled codec u ∧ u.keys.get slot = some row)
    (fun hu _ hstep => ⟨hu.1.grow (step_grow hstep hu.1), (step_grow hstep hu.1).get hu.2⟩)
    ⟨hs, hrow⟩).2

/-- The event stores the first outcome under the slot. -/
def Commits (services : LeaseServices Leases Payload Outcome) (codec : OutcomeCodec Outcome Data)
    (slot : ReplaySlot) (w : RemoteWorld Leases Payload Data) (e : Event Leases Payload) : Prop :=
  ∃ w', step services codec w e = some w' ∧ w.keys.get slot = none ∧ w'.keys.get slot ≠ none

theorem commits_once {e e' : Event Leases Payload} {u : RemoteWorld Leases Payload Data}
    (hs : Settled codec w) (hcommits : Commits services codec slot w e)
    (hstep : step services codec w e = some w')
    (hrun : Run (step services codec) always w' events u) : ¬ Commits services codec slot u e' := by
  rintro ⟨-, -, hfree, -⟩
  obtain ⟨_, hfound, -, hstored⟩ := hcommits
  obtain rfl := some_unique hstep hfound
  obtain ⟨_, hrow⟩ := Option.ne_none_iff_exists'.mp hstored
  cases hfree.symm.trans (run_get (hs.grow (step_grow hstep hs)) hrun hrow)

/-- **Every mutation is carried out at most once, and answered with its stored outcome, but for
the requests that wait.**  No key is left in progress; no two events store under one key; a
call whose key is free is refused without a trace, stores its outcome together with its
effect, or stages media; and a call whose key is stored changes nothing and is answered with
what is stored, or refused if its request hash is another one.  A request that waits is
answered with what is stored exactly if that is no error. -/
theorem mutation_answered_as_stored_iff {scans : ScanWorld} {leases : Leases}
    (h : Run (step services codec) always (initial scans leases) events w) :
    (∀ row ∈ w.keys, row.status.isInProgress = false) ∧
    (∀ slot e e' w' later u, Commits services codec slot w e → step services codec w e = some w' →
      Run (step services codec) always w' later u → ¬ Commits services codec slot u e') ∧
    (∀ env now call, w.keys.get call.slot = none →
      Served codec w call (serve services codec env w call now)) ∧
    (∀ (place : Nat) now call w', w.staged[place]? = some call →
      step services codec w (.publish place now) = some w' →
      w' = w ∨ ∃ response, Stored codec w w' call response) ∧
    (∀ env now call row, w.keys.get call.slot = some row → Authenticated services w call →
      ∃ response, row.status = .completed response ∧
        (row.requestHash = call.requestHash →
          serve services codec env w call now = (some (storedOutcome codec response), w)) ∧
        (row.requestHash ≠ call.requestHash →
          serve services codec env w call now = (some (.error keyReused), w))) ∧
    (∀ (place : Nat) now call row response, w.held[place]? = some call →
      w.keys.get call.slot = some row → row.requestHash = call.requestHash →
      row.status = .completed response →
      (wait services codec w call now = some (storedOutcome codec response) ↔
        ∃ data, response = .ok data)) := by
  have hs := run_settled h
  refine ⟨?_, ?_, fun _ now call hfree => serve_free hfree, ?_, ?_, ?_⟩
  · intro row hrow
    obtain ⟨_, hdone, -⟩ := hs row hrow
    rw [hdone]
    rfl
  · intro _ e _ _ _ u hcommits hstep hrun
    exact commits_once hs hcommits hstep hrun
  · intro _ _ _ _ hcall hstep
    simp only [step, hcall] at hstep
    cases hstep
    exact finishMedia_effect hs
  · intro _ _ _ _ hrow hauth
    obtain ⟨response, hdone, hreadable⟩ := hs.get hrow
    exact ⟨response, hdone, fun hhash => serve_same hrow hhash hdone hreadable hauth,
      fun hhash => serve_other hrow hhash hauth⟩
  · intro _ _ _ _ _ _ hrow hhash hdone
    obtain ⟨_, hfound, hreadable⟩ := hs.get hrow
    obtain rfl := RemoteKeyStatus.completed.inj (hdone.symm.trans hfound)
    exact wait_same hrow hhash hdone hreadable

end Runs

/-! ### A completion that waits -/

/-- One lease of a media operation, held or not; the payload says whether the evidence is that
of the access plan. -/
def mediaLease : LeaseServices Bool Bool Unit where
  fence _ _ := .ok ()
  nodeRetired _ _ := false
  completePreflight lease call :=
    match call.request with
    | .leaseComplete _ _ evidence => do
      require (lease = true) (.conflict "lease 1 is not held by worker 1")
      require (evidence = true)
        (.conflict "remote complete rejected: artifact access validation missing")
    | _ => .ok ()
  stage lease _ _ := .ok (some lease)
  completeMutation _ _ _ := .ok ((), false)
  failPreflight _ _ := .ok ()
  failMutation _ _ _ := .ok ((), false)
  publish lease _ _ := do
    require (lease = true) (.conflict "media completion lost its held source lease")
    return ((), false)
  guardHeld lease _ _ :=
    require (lease = true) (.conflict "media completion lost its held source lease")

def plainCodec : OutcomeCodec Unit (RemoteOutcome Unit) where
  encode outcome := outcome
  decode outcome := .ok outcome
  decode_encode _ := rfl

/-- No library root. -/
def noScan : ScanEnv where
  root _ := none
  lock _ := none
  reconciliationLock _ := none
  artifactIntentLock _ := none
  incarnationOf _ _ := true
  activeIncarnation _ _ := true
  encodedLength _ := 0

def completion (requestHash : String) (evidence : Bool) : RemoteCall Bool :=
  ⟨1, 1, "k", requestHash, .leaseComplete 1 1 evidence⟩

def sent (requestHash : String) (evidence : Bool) : Event Bool Bool :=
  .call noScan 0 (completion requestHash evidence)

def afterMedia (events : List (Event Bool Bool)) : RemoteWorld Bool Bool (RemoteOutcome Unit) :=
  events.foldl (fun w e => (step mediaLease plainCodec w e).getD w)
    (initial (ScanWorld.initial []) true)

/-- The request is sent and staged; it is dropped and sent again, and the second one is answered
when the artifact is published. -/
def retriedMedia : List (Event Bool Bool) := [sent "h" true, .drop 0, sent "h" true, .publish 0 1]

theorem retried_media_answered :
    wait mediaLease plainCodec (afterMedia retriedMedia) (completion "h" true) 2 =
      some (.ok (.lease ())) := by
  have hrun : Run (step mediaLease plainCodec) always (initial (ScanWorld.initial []) true)
      retriedMedia (afterMedia retriedMedia) :=
    .cons trivial rfl (.cons trivial rfl (.cons trivial rfl (.cons trivial rfl (.nil _))))
  exact ((mutation_answered_as_stored_iff hrun).2.2.2.2.2 0 2 (completion "h" true)
    ⟨(completion "h" true).slot, "h", .completed (.ok (.lease ()))⟩ _ rfl rfl rfl rfl).mpr ⟨_, rfl⟩

/-- The lease is lost while the second request waits, and a third is refused and its error
stored. -/
def lostLease : List (Event Bool Bool) :=
  [sent "h" true, .drop 0, sent "h" true, .other (ScanWorld.initial []) false, sent "h" true]

/-- The second request is answered with a failed commit, where a conflict is stored.  And a
request with another hash that comes while the first one waits is not told so, but takes the
key: from then on the first one is refused, and what it has staged is never published. -/
theorem held_completion_answered_otherwise :
    (∃ w, Run (step mediaLease plainCodec) always (initial (ScanWorld.initial []) true)
        lostLease w ∧
      serve mediaLease plainCodec noScan w (completion "h" true) 1 =
        (some (.error (.conflict "lease 1 is not held by worker 1")), w) ∧
      w.held[0]? = some (completion "h" true) ∧
      wait mediaLease plainCodec w (completion "h" true) 1 =
        some (.error (.commitFailure "lease 1 is not held by worker 1"))) ∧
    ∃ w, Run (step mediaLease plainCodec) always (initial (ScanWorld.initial []) true)
        [sent "h" true, sent "g" false] w ∧
      serve mediaLease plainCodec noScan w (completion "h" true) 1 = (some (.error keyReused), w) ∧
      step mediaLease plainCodec w (.publish 0 1) = some w := by
  refine ⟨⟨afterMedia lostLease, ?_, rfl, rfl, rfl⟩,
    ⟨afterMedia [sent "h" true, sent "g" false], ?_, rfl, rfl⟩⟩
  · exact .cons trivial rfl (.cons trivial rfl (.cons trivial rfl (.cons trivial rfl
      (.cons trivial rfl (.nil _)))))
  · exact .cons trivial rfl (.cons trivial rfl (.nil _))

end RemoteWorld

end Voom
