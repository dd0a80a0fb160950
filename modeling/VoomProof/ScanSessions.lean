import VoomProof.Runs
import VoomProof.ScanPublication

/-!
# Scan sessions

A scan of a storage root is a session (`repo/scan/sessions.rs` and, on top of it,
`voom-control-plane/src/scan/sessions.rs`). It is requested, started by the node that owns
the root, fed with batches of observations, and completed. At the start it takes note of
the highest id among the live locations of the root. At the end everything that was
observed with evidence is published, and then the live locations of the root up to that id
that have no observation are retired as absent.

A session may also fail, be cancelled or become stale: every call first checks the deadline, the
root's epoch and owner and the node's incarnation, and if one has changed, the session is over.
Other calls write the identity tables meanwhile.

The idempotency ledger, authentication and events are left out: a call answered from the ledger,
or not authenticated, changes nothing.
-/

namespace Voom
open Fallible Runs List

inductive ScanSessionStatus where
  | requested
  | running
  | succeeded
  | failed
  | cancelled
  | stale
  deriving DecidableEq

namespace ScanSessionStatus

def asStr : ScanSessionStatus → String
  | requested => "requested"
  | running => "running"
  | succeeded => "succeeded"
  | failed => "failed"
  | cancelled => "cancelled"
  | stale => "stale"

def isActive : ScanSessionStatus → Bool
  | requested | running => true
  | _ => false

end ScanSessionStatus

/-- Observations that are submitted together. -/
structure ScanObservationBatch where
  requestHash : String
  observations : List ScanObservation

/-- A row of `scan_observation_batches` with its observations. -/
structure AcceptedBatch extends ScanObservationBatch where
  cumulativeObservationCount : Nat

/-- What the node is told about a batch. -/
structure ScanBatchOutcome where
  scanSessionId : ScanSessionId
  sequence : Nat
  acceptedObservationCount : Nat
  cumulativeObservationCount : Nat
  deriving DecidableEq

/-- A row of `scan_sessions` with its batches, by sequence. -/
structure ScanSession where
  storageRootId : StorageRootId
  rootEpoch : Nat
  ownerNodeId : NodeId
  ownerIncarnationId : Option NodeIncarnationId
  status : ScanSessionStatus
  nextSequence : Nat
  batchCount : Nat
  observationCount : Nat
  idleTimeoutSeconds : Nat
  progressDeadlineAt : Instant
  locationHighWatermarkId : Option FileLocationId
  retiredLocationCount : Nat
  batches : List AcceptedBatch

/-- The observations in the order they were accepted. -/
def ScanSession.observations (session : ScanSession) : List ScanObservation :=
  session.batches.flatMap (·.observations)

def ScanSession.observed (session : ScanSession) (locator : String) : Bool :=
  session.observations.any (·.providerRelativeLocator = locator)

structure ScanWorld where
  catalog : ScanCatalog
  sessions : List ScanSession

structure EffectiveLibraryRoot where
  rootEpoch : Nat
  ownerNodeId : Option NodeId
  available : Bool
  reason : String

/-- What a call reads beside the tables of scans and identities. -/
structure ScanEnv where
  root : StorageRootId → Option EffectiveLibraryRoot
  /-- The lock of the commit gate. -/
  lock : LeaseScope → Option (CommitId × LeaseScope)
  /-- The first commit in flight over one of the locations. -/
  reconciliationLock : List FileLocationId → Option (CommitId × FileLocationId)
  /-- The first open artifact commit that has staged at one of the locations. -/
  artifactIntentLock : List FileLocationId → Option (Nat × String × FileLocationId)
  incarnationOf : NodeIncarnationId → NodeId → Bool
  activeIncarnation : NodeId → NodeIncarnationId → Bool
  /-- The length of serialized evidence. -/
  encodedLength : ScanObservationEvidence → Nat

def ScanEnv.publish (env : ScanEnv) : PublishEnv where
  lock := env.lock
  ownerNodeId root := (env.root root).bind (·.ownerNodeId)

/-! ## Checks -/

def isBlake3Hex (hex : String) : Bool :=
  hex.utf8ByteSize = 64 && hex.toList.all fun c =>
    c.isDigit || ('a' ≤ c && c ≤ 'f') || ('A' ≤ c && c ≤ 'F')

def isLowercaseSha256 (value : String) : Bool :=
  value.utf8ByteSize = 64 && value.toList.all fun c => c.isDigit || ('a' ≤ c && c ≤ 'f')

def ScanSidecarEvidence.validate (sidecar : ScanSidecarEvidence) : Except VoomError Unit := do
  let locator := sidecar.providerRelativeLocator
  require (0 < locator.utf8ByteSize ∧ locator.utf8ByteSize ≤ 4096 ∧ '\x00' ∉ locator.toList)
    (.config "sidecar evidence locator must be 1..=4096 bytes without NUL")
  let _ ← ScanCatalog.roleFromEvidence sidecar.role
  require (isBlake3Hex sidecar.blake3Hex)
    (.config "sidecar evidence digest must be 64 hex characters")

def ScanObservationEvidence.validate (encodedLength : ScanObservationEvidence → Nat)
    (evidence : ScanObservationEvidence) : Except VoomError Unit := do
  let hex ← find (RustText.stripPrefix "blake3:".toList evidence.contentHash.toList)
    (.config "evidence content hash must carry the blake3: prefix")
  require (isBlake3Hex (String.ofList hex))
    (.config "blake3 content hash must be blake3:<64 hex>")
  require (evidence.sidecars.length ≤ 64)
    (.config s!"evidence carries {evidence.sidecars.length} sidecars, above the 64 bound")
  evidence.sidecars.forM ScanSidecarEvidence.validate
  require (encodedLength evidence ≤ 64 * 1024)
    (.config s!"serialized evidence is {encodedLength evidence} bytes, above the 65536-byte bound")

def validateObservation (observation : ScanObservation) : Except VoomError Unit := do
  let identity := observation.providerObjectIdentity
  require (0 < identity.utf8ByteSize ∧ identity.utf8ByteSize ≤ 4096 ∧ '\x00' ∉ identity.toList)
    (.config "scan observation object identity must be 1..=4096 bytes without NUL")
  require (observation.sizeBytes < 1 <<< 63)
    (.config s!"scan observation size {observation.sizeBytes} exceeds storage")
  require (observation.stabilityStartedAt ≤ observation.stabilityConfirmedAt)
    (.config "scan observation stability confirmation precedes start")

/-- The first reason why the session is no longer the one to go on with. -/
def scanFenceError (id : ScanSessionId) (session : ScanSession) (root : EffectiveLibraryRoot)
    (incarnation : Option NodeIncarnationId) (now : Instant) : Option VoomError :=
  let detail :=
    if session.progressDeadlineAt ≤ now then some "progress deadline expired"
    else if root.rootEpoch ≠ session.rootEpoch then some "storage root epoch changed"
    else if root.ownerNodeId ≠ some session.ownerNodeId then some "storage root owner changed"
    else if ¬ root.available then some s!"storage root unavailable: {root.reason}"
    else if incarnation.isSome ∧ session.ownerIncarnationId ≠ incarnation then
      some "owner incarnation changed"
    else none
  detail.map fun detail => .conflict s!"scan session {id} is stale because {detail}"

def errorWithStaleContext (id : ScanSessionId) : VoomError → VoomError
  | .conflict message => .conflict s!"{message}; scan session {id} was marked stale"
  | other => other

/-! ## What a completion retires -/

def FileLocationAddress.inRoot (root : StorageRootId) : FileLocationAddress → Bool
  | .rooted storageRootId _ => storageRootId = root
  | .unassignedLegacy _ _ => false

/-- The highest id of a live location of the root. -/
def IdentityStore.highWatermark (s : IdentityStore) (root : StorageRootId) :
    Option FileLocationId :=
  ((s.locations.zipIdx.filter fun (row, _) => !row.retired && row.address.inRoot root).map
    (·.2)).max?

namespace ScanSession

/-- The session has not seen the live location, which was there when it started. -/
def isCandidate (session : ScanSession) (id : FileLocationId) (row : FileLocation) : Bool :=
  match row.address, session.locationHighWatermarkId with
  | .rooted root locator, some mark =>
      root = session.storageRootId && !row.retired && id ≤ mark && !session.observed locator
  | _, _ => false

def completionCandidates (session : ScanSession) (s : IdentityStore) : List FileLocationId :=
  (s.locations.zipIdx.filter fun (row, id) => session.isCandidate id row).map (·.2)

/-- The row as the completion leaves it. -/
def reconcile (session : ScanSession) (sessionId : ScanSessionId) (id : FileLocationId)
    (row : FileLocation) : FileLocation :=
  if session.isCandidate id row then
    { row with retired := true, retiredByScanSession := some sessionId, epoch := row.epoch + 1 }
  else row

def retireCompletionCandidates (session : ScanSession) (sessionId : ScanSessionId)
    (s : IdentityStore) : IdentityStore :=
  { s with locations := s.locations.mapIdx (session.reconcile sessionId) }

/-- Every batch is of an accepted size, and its cumulative count is the running sum. -/
def batchesValid : Nat → List AcceptedBatch → Bool
  | _, [] => true
  | total, batch :: batches =>
      isLowercaseSha256 batch.requestHash &&
        decide (1 ≤ batch.observations.length ∧ batch.observations.length ≤ 1000) &&
        batch.cumulativeObservationCount == total + batch.observations.length &&
        batchesValid (total + batch.observations.length) batches

/-- The counters agree with the batches. -/
def ledgerValid (session : ScanSession) : Bool :=
  session.batchCount = session.nextSequence && batchesValid 0 session.batches &&
    session.batches.length = session.batchCount &&
    session.observations.length = session.observationCount

end ScanSession

/-! ## Calls -/

namespace ScanWorld

/-- What a call answers, and the tables after it. -/
abbrev Reply := Except VoomError Unit × ScanWorld

/-- A call whose transaction is rolled back when it fails. -/
def settle (w : ScanWorld) : Except VoomError ScanWorld → Reply
  | .ok w' => (.ok (), w')
  | .error e => (.error e, w)

def setSession (w : ScanWorld) (id : ScanSessionId) (session : ScanSession) : ScanWorld :=
  { w with sessions := w.sessions.set id session }

def terminalize (w : ScanWorld) (id : ScanSessionId) (session : ScanSession)
    (status : ScanSessionStatus) : ScanWorld :=
  w.setSession id { session with status := status }

def staleExpired (w : ScanWorld) (now : Instant) : ScanWorld :=
  { w with sessions := w.sessions.map fun session =>
      if session.status.isActive ∧ session.progressDeadlineAt ≤ now then
        { session with status := .stale }
      else session }

def staleRunningForIncarnation (w : ScanWorld) (incarnation : NodeIncarnationId) : ScanWorld :=
  { w with sessions := w.sessions.map fun session =>
      if session.status = .running ∧ session.ownerIncarnationId = some incarnation then
        { session with status := .stale }
      else session }

/-- At most one session of a root is active. -/
def insertRequested (w : ScanWorld) (root : StorageRootId) (rootEpoch : Nat) (owner : NodeId)
    (idleTimeoutSeconds : Nat) (now : Instant) : Except VoomError ScanWorld :=
  match w.sessions.zipIdx.find? fun (session, _) =>
      session.storageRootId = root && session.status.isActive with
  | some (_, id) => .error (.conflict s!"scan session {id} is already active for root {root}")
  | none => .ok { w with sessions := w.sessions ++ [{
      storageRootId := root, rootEpoch := rootEpoch, ownerNodeId := owner,
      ownerIncarnationId := none, status := .requested, nextSequence := 0, batchCount := 0,
      observationCount := 0, idleTimeoutSeconds := idleTimeoutSeconds,
      progressDeadlineAt := now + idleTimeoutSeconds, locationHighWatermarkId := none,
      retiredLocationCount := 0, batches := [] }] }

def requestScanSession (env : ScanEnv) (w : ScanWorld) (root : StorageRootId)
    (idleTimeoutSeconds : Nat) (now : Instant) : Reply :=
  if ¬ (1 ≤ idleTimeoutSeconds ∧ idleTimeoutSeconds ≤ 86400) then
    (.error (.config s!"scan session idle timeout {idleTimeoutSeconds} outside 1..=86400"), w)
  else
    let expired := w.staleExpired now
    match env.root root with
    | none => (.error (.notFound s!"library root {root} not found"), expired)
    | some effective =>
      if ¬ effective.available then
        (.error (.config s!"storage root {root} unavailable: {effective.reason}"), expired)
      else
        match effective.ownerNodeId with
        | none => (.error (.database s!"available storage root {root} has no owner"), w)
        | some owner => expired.settle
            (expired.insertRequested root effective.rootEpoch owner idleTimeoutSeconds now)

/-- The session, if the node owns it. -/
def ownedScanSession (w : ScanWorld) (id : ScanSessionId) (node : NodeId) :
    Except VoomError ScanSession := do
  let session ← find w.sessions[id]? (.notFound s!"scan session {id} not found")
  require (session.ownerNodeId = node)
    (.conflict s!"scan session {id} is not owned by node {node}")
  return session

def missingRoot (id : ScanSessionId) (session : ScanSession) : VoomError :=
  .database s!"scan session {id} references missing storage root {session.storageRootId}"

/-- The call goes on if the session is not stale; if it is, that is recorded. -/
def fenced (env : ScanEnv) (w : ScanWorld) (id : ScanSessionId) (session : ScanSession)
    (incarnation : Option NodeIncarnationId) (now : Instant)
    (next : Except VoomError ScanWorld) : Reply :=
  match env.root session.storageRootId with
  | none => (.error (missingRoot id session), w)
  | some root =>
    match scanFenceError id session root incarnation now with
    | some error => (.error (errorWithStaleContext id error), w.terminalize id session .stale)
    | none => w.settle next

def notIn (id : ScanSessionId) (session : ScanSession) (operation : String) : VoomError :=
  .conflict s!"scan session {id} cannot {operation} from {session.status.asStr}"

/-- A call of the owner on a session in the right state. -/
def onOwned (env : ScanEnv) (w : ScanWorld) (id : ScanSessionId) (node : NodeId)
    (incarnation : Option NodeIncarnationId) (now : Instant) (status : ScanSessionStatus)
    (operation : String) (next : ScanSession → Except VoomError ScanWorld) : Reply :=
  match w.ownedScanSession id node with
  | .error e => (.error e, w)
  | .ok session =>
    if session.status ≠ status then (.error (notIn id session operation), w)
    else w.fenced env id session incarnation now (next session)

/-- The row of a session that has started. -/
def startedRow (s : IdentityStore) (session : ScanSession) (incarnation : NodeIncarnationId)
    (now : Instant) : ScanSession :=
  { session with
    status := .running
    ownerIncarnationId := some incarnation
    locationHighWatermarkId := s.highWatermark session.storageRootId
    progressDeadlineAt := now + session.idleTimeoutSeconds }

def startScanSession (env : ScanEnv) (w : ScanWorld) (id : ScanSessionId) (node : NodeId)
    (incarnation : NodeIncarnationId) (now : Instant) : Reply :=
  w.onOwned env id node none now .requested "start" fun session => do
    require (env.incarnationOf incarnation session.ownerNodeId)
      (.database (s!"scan start incarnation {incarnation} does not belong to owner node " ++
        s!"{session.ownerNodeId}"))
    return w.setSession id (startedRow w.catalog.identity session incarnation now)

/-! ### Batches -/

def batchLocators (observations : List ScanObservation) : List String :=
  observations.map (·.providerRelativeLocator)

/-- The row of a session with one more batch. -/
def acceptedRow (session : ScanSession) (batch : ScanObservationBatch) (now : Instant) :
    ScanSession :=
  { session with
    nextSequence := session.nextSequence + 1
    batchCount := session.batchCount + 1
    observationCount := session.observationCount + batch.observations.length
    progressDeadlineAt := now + session.idleTimeoutSeconds
    batches := session.batches ++
      [⟨batch, session.observationCount + batch.observations.length⟩] }

/-- Each locator is new and has well-formed evidence. -/
def prepareObservations (encodedLength : ScanObservationEvidence → Nat) :
    List String → List ScanObservation → Except VoomError Unit
  | _, [] => .ok ()
  | seen, observation :: rest => do
    let locator := observation.providerRelativeLocator
    require (locator ∉ seen)
      (.conflict s!"scan session batch repeats provider-relative locator {locator}")
    observation.evidence.elim (.ok ()) (·.validate encodedLength)
    prepareObservations encodedLength (locator :: seen) rest

def prepareBatch (env : ScanEnv) (batch : ScanObservationBatch) : Except VoomError Unit :=
  prepareObservations env.encodedLength [] batch.observations

/-- The outcome that a row of the ledger stands for, if it continues its predecessor. -/
def batchLink (id : ScanSessionId) (session : ScanSession) (sequence : Nat)
    (row : AcceptedBatch) : Except VoomError ScanBatchOutcome := do
  require (1 ≤ row.observations.length ∧ row.observations.length ≤ 1000 ∧
      row.observations.length ≤ row.cumulativeObservationCount ∧
      row.cumulativeObservationCount ≤ 100000)
    (.database s!"scan session {id} batch {sequence} has invalid persisted outcome")
  let before :=
    if sequence = 0 then some 0
    else session.batches[sequence - 1]?.map (·.cumulativeObservationCount)
  require (before.map (· + row.observations.length) = some row.cumulativeObservationCount)
    (.database s!"scan session {id} batch {sequence} has invalid predecessor relationship")
  return ⟨id, sequence, row.observations.length, row.cumulativeObservationCount⟩

/-- The last batch of the ledger has the session's counts. -/
def validateFrontier (id : ScanSessionId) (session : ScanSession) (frontier : Nat)
    (missing mismatch : VoomError) : Except VoomError Unit := do
  let row ← find session.batches[frontier]? missing
  let outcome ← batchLink id session frontier row
  require (outcome.cumulativeObservationCount = session.observationCount) mismatch

/-- A batch that was accepted before is answered again, if it is the same one. -/
def replayBatch (id : ScanSessionId) (session : ScanSession) (sequence : Nat)
    (batch : ScanObservationBatch) (accepted : AcceptedBatch) :
    Except VoomError ScanBatchOutcome := do
  let outcome ← batchLink id session sequence accepted
  require (isLowercaseSha256 accepted.requestHash)
    (.database s!"scan session {id} batch {sequence} has invalid persisted request hash")
  require (accepted.requestHash = batch.requestHash)
    (.conflict (s!"scan session {id} batch {sequence} request hash conflicts with " ++
      "accepted batch"))
  require (¬ (session.nextSequence < sequence + 1 ∨ (sequence + 1 = session.nextSequence ∧
      (session.batchCount ≠ sequence + 1 ∨
        session.observationCount ≠ outcome.cumulativeObservationCount))) ∧
      session.nextSequence ≠ 0)
    (.database s!"scan session {id} batch {sequence} does not match parent frontier")
  let frontier := session.nextSequence - 1
  validateFrontier id session frontier
    (.database s!"scan session {id} is missing frontier batch {frontier}")
    (.database (s!"scan session {id} frontier batch {frontier} cumulative count does not match " ++
      "parent progress"))
  return outcome

def validateNewBatchPredecessor (id : ScanSessionId) (session : ScanSession) :
    Nat → Except VoomError Unit
  | 0 => require (session.observationCount = 0)
      (.database s!"scan session {id} sequence zero has non-zero persisted observations")
  | previous + 1 => validateFrontier id session previous
      (.database s!"scan session {id} is missing predecessor batch {previous}")
      (.database (s!"scan session {id} predecessor cumulative count does not match " ++
        "session progress"))

/-- `accepted_batch_in_tx`: a replay, or the next batch of a running session. -/
def acceptedBatch (env : ScanEnv) (w : ScanWorld) (id : ScanSessionId) (session : ScanSession)
    (sequence : Nat) (batch : ScanObservationBatch) (now : Instant) :
    Except VoomError (ScanBatchOutcome × ScanWorld) := do
  prepareBatch env batch
  match session.batches[sequence]? with
  | some accepted =>
    let outcome ← replayBatch id session sequence batch accepted
    return (outcome, w)
  | none =>
    require (session.nextSequence ≤ sequence)
      (.database (s!"scan session {id} is missing accepted batch ledger sequence {sequence} " ++
        s!"below next sequence {session.nextSequence}"))
    require (session.status = .running ∧ session.nextSequence = sequence)
      (.conflict s!"scan session {id} expects running batch {session.nextSequence}")
    validateNewBatchPredecessor id session sequence
    require (session.observationCount + batch.observations.length ≤ 100000)
      (.conflict (s!"scan session {id} observation capacity exceeded: maximum 100000, " ++
        s!"current {session.observationCount}, incoming {batch.observations.length}"))
    require (∀ locator ∈ batchLocators batch.observations, session.observed locator = false)
      (.conflict s!"scan session {id} already contains provider-relative locator")
    return (⟨id, sequence, batch.observations.length,
        session.observationCount + batch.observations.length⟩,
      w.setSession id (acceptedRow session batch now))

def validateBatchInput (sequence : Nat) (batch : ScanObservationBatch) : Except VoomError Unit := do
  require (1 ≤ batch.observations.length ∧ batch.observations.length ≤ 1000)
    (.config (s!"scan session batch observation count {batch.observations.length} " ++
      "outside 1..=1000"))
  require (sequence < 1 <<< 63) (.config s!"scan batch sequence {sequence} exceeds storage")
  require (isLowercaseSha256 batch.requestHash)
    (.config "scan session batch request hash must be lowercase SHA-256")
  batch.observations.forM validateObservation

/-- A sequence number below the next one is answered from the ledger, whatever has become
of the session since. -/
def acceptScanObservationBatch (env : ScanEnv) (w : ScanWorld) (id : ScanSessionId) (node : NodeId)
    (incarnation : NodeIncarnationId) (sequence : Nat) (batch : ScanObservationBatch)
    (now : Instant) : Except VoomError ScanBatchOutcome × ScanWorld :=
  match validateBatchInput sequence batch with
  | .error e => (.error e, w)
  | .ok () =>
    match w.ownedScanSession id node with
    | .error e => (.error e, w)
    | .ok session =>
      let accepted := w.acceptedBatch env id session sequence batch now
      let reply :=
        if sequence < session.nextSequence then w.settle (accepted.map (·.2))
        else w.onOwned env id node (some incarnation) now .running "accept batch" fun _ =>
          accepted.map (·.2)
      (reply.1.bind fun _ => accepted.map (·.1), reply.2)

/-! ### Ends -/

def completionNextSequence : Option Nat → Nat
  | none => 0
  | some last => last + 1

/-- The location of the mark is still one of the root. -/
def validateCompletionHighWatermark (id : ScanSessionId) (session : ScanSession)
    (s : IdentityStore) : Except VoomError Unit :=
  match session.locationHighWatermarkId with
  | none => .ok ()
  | some mark => do
    let row ← find s.locations[mark]?
      (.database s!"scan session {id} high-water location {mark} is missing")
    require (row.address.inRoot session.storageRootId)
      (.database (s!"scan session {id} high-water location {mark} is not rooted in " ++
        s!"{session.storageRootId}"))

/-- No commit in flight is over a location that would be retired. -/
def consultCompletionLocks (env : ScanEnv) (id : ScanSessionId) (candidates : List FileLocationId) :
    Except VoomError Unit := do
  match env.reconciliationLock candidates with
  | some (commitId, location) =>
    .error (.conflict (s!"transient scan completion commit lock: scan session {id} cannot " ++
      s!"reconcile location {location} while commit {commitId} is in flight"))
  | none =>
    match env.artifactIntentLock candidates with
    | some (intent, state, location) =>
      .error (.conflict (s!"transient scan completion commit lock: scan session {id} cannot " ++
        s!"retire location {location} while fenced artifact_commit_intent {intent} ({state}) " ++
        "pins it"))
    | none => .ok ()

def succeededRow (session : ScanSession) (retired : Nat) : ScanSession :=
  { session with status := .succeeded, retiredLocationCount := retired }

/-- The tables after what was observed is published and what is absent is retired. -/
def completedWorld (w : ScanWorld) (id : ScanSessionId) (session : ScanSession)
    (published : ScanCatalog) : ScanWorld :=
  { w.setSession id
      (succeededRow session (session.completionCandidates published.identity).length) with
    catalog := { published with
      identity := session.retireCompletionCandidates id published.identity } }

def finishCompletion (env : ScanEnv) (w : ScanWorld) (id : ScanSessionId) (session : ScanSession)
    (lastSequence : Option Nat) (observationCount : Nat) : Except VoomError ScanWorld := do
  let (_, published) ← w.catalog.publishSessionEvidence env.publish session.storageRootId
    session.observations
  validateCompletionHighWatermark id session published.identity
  require session.ledgerValid (.database s!"scan session {id} has invalid completion ledger")
  require (session.nextSequence = completionNextSequence lastSequence ∧
      session.observationCount = observationCount)
    (.conflict s!"scan session {id} completion watermark does not match accepted observations")
  consultCompletionLocks env id (session.completionCandidates published.identity)
  return w.completedWorld id session published

def validateCompletionInput (lastSequence : Option Nat) (observationCount : Nat) :
    Except VoomError Unit := do
  require (∀ last ∈ lastSequence, last < 1 <<< 63)
    (.config "scan completion last sequence exceeds storage")
  require (observationCount < 1 <<< 63)
    (.config "scan completion observation count exceeds storage")

/-- The root is looked up before the state of the session is checked. -/
def completeScanSession (env : ScanEnv) (w : ScanWorld) (id : ScanSessionId) (node : NodeId)
    (incarnation : NodeIncarnationId) (lastSequence : Option Nat) (observationCount : Nat)
    (now : Instant) : Reply :=
  match validateCompletionInput lastSequence observationCount with
  | .error e => (.error e, w)
  | .ok () =>
    match w.ownedScanSession id node with
    | .error e => (.error e, w)
    | .ok session =>
      if (env.root session.storageRootId).isNone then (.error (missingRoot id session), w)
      else w.onOwned env id node (some incarnation) now .running "complete" fun session =>
        w.finishCompletion env id session lastSequence observationCount

def failScanSession (env : ScanEnv) (w : ScanWorld) (id : ScanSessionId) (node : NodeId)
    (incarnation : NodeIncarnationId) (now : Instant) : Reply :=
  w.onOwned env id node (some incarnation) now .running "fail" fun session =>
    .ok (w.terminalize id session .failed)

/-- The incarnation that has started the session is no longer the active one. -/
def cancelIncarnationFence (env : ScanEnv) (id : ScanSessionId) (session : ScanSession) :
    Option VoomError :=
  if session.ownerIncarnationId.any fun incarnation =>
      !env.activeIncarnation session.ownerNodeId incarnation then
    some (.conflict s!"scan session {id} is stale because owner incarnation changed")
  else none

/-- The operator ends an active session. -/
def cancelScanSession (env : ScanEnv) (w : ScanWorld) (id : ScanSessionId) (now : Instant) :
    Reply :=
  match w.sessions[id]? with
  | none => (.error (.notFound s!"scan session {id} not found"), w)
  | some session =>
    if ¬ session.status.isActive then (.error (notIn id session "cancel"), w)
    else
      match env.root session.storageRootId with
      | none => (.error (missingRoot id session), w)
      | some root =>
        match (scanFenceError id session root session.ownerIncarnationId now).or
            (cancelIncarnationFence env id session) with
        | some error => (.error (errorWithStaleContext id error), w.terminalize id session .stale)
        | none => (.ok (), w.terminalize id session .cancelled)

/-! ## Runs -/

inductive Call where
  | request (root : StorageRootId) (idleTimeoutSeconds : Nat)
  | start (id : ScanSessionId) (node : NodeId) (incarnation : NodeIncarnationId)
  | accept (id : ScanSessionId) (node : NodeId) (incarnation : NodeIncarnationId)
      (sequence : Nat) (batch : ScanObservationBatch)
  | complete (id : ScanSessionId) (node : NodeId) (incarnation : NodeIncarnationId)
      (lastSequence : Option Nat) (observationCount : Nat)
  | fail (id : ScanSessionId) (node : NodeId) (incarnation : NodeIncarnationId)
  | cancel (id : ScanSessionId)
  | staleExpired
  | staleRunningForIncarnation (incarnation : NodeIncarnationId)
  /-- Somebody else writes the identity tables. -/
  | identity (call : IdentityStore.Call)

structure Event where
  env : ScanEnv
  now : Instant
  call : Call

def identityCall (w : ScanWorld) (env : ScanEnv) (c : IdentityStore.Call) : Reply :=
  w.settle ((w.catalog.identity.call env.lock c).map fun identity =>
    { w with catalog := { w.catalog with identity := identity } })

def reply (w : ScanWorld) (e : Event) : Reply :=
  match e.call with
  | .request root idleTimeoutSeconds => w.requestScanSession e.env root idleTimeoutSeconds e.now
  | .start id node incarnation => w.startScanSession e.env id node incarnation e.now
  | .accept id node incarnation sequence batch =>
      let answer := w.acceptScanObservationBatch e.env id node incarnation sequence batch e.now
      (answer.1.map fun _ => (), answer.2)
  | .complete id node incarnation lastSequence observationCount =>
      w.completeScanSession e.env id node incarnation lastSequence observationCount e.now
  | .fail id node incarnation => w.failScanSession e.env id node incarnation e.now
  | .cancel id => w.cancelScanSession e.env id e.now
  | .staleExpired => (.ok (), w.staleExpired e.now)
  | .staleRunningForIncarnation incarnation => (.ok (), w.staleRunningForIncarnation incarnation)
  | .identity c => w.identityCall e.env c

def step (w : ScanWorld) (e : Event) : Option ScanWorld := some (w.reply e).2

/-- No session yet, and nothing in the catalog. -/
def initial (roots : List StorageRootId) : ScanWorld := ⟨⟨.empty roots, [], []⟩, []⟩

end ScanWorld

/-! ## What a call can do -/

/-- Nothing has been submitted yet. -/
def ScanSession.Fresh (session : ScanSession) : Prop :=
  session.nextSequence = 0 ∧ session.batches = []

/-- What may become of a session: nothing until it has started, and then its mark stays. -/
structure ScanSession.Later (session session' : ScanSession) : Prop where
  root : session'.storageRootId = session.storageRootId
  owner : session'.ownerNodeId = session.ownerNodeId
  waiting : session'.status = .requested → session' = session
  mark : session.status ≠ .requested → session'.status ≠ .requested ∧
    session'.locationHighWatermarkId = session.locationHighWatermarkId
  batches : session.batches <+: session'.batches

theorem ScanSession.Later.refl (session : ScanSession) : session.Later session :=
  ⟨rfl, rfl, fun _ => rfl, fun h => ⟨h, rfl⟩, prefix_rfl⟩

variable {session' : ScanSession}

theorem ScanSession.Later.trans {session session'' : ScanSession} (h : session.Later session')
    (h' : session'.Later session'') : session.Later session'' := by
  refine ⟨h'.root.trans h.root, h'.owner.trans h.owner, fun hwait => ?_, fun hstart => ?_,
    h.batches.trans h'.batches⟩
  · obtain rfl := h'.waiting hwait
    exact h.waiting hwait
  · obtain ⟨hstart', hmark⟩ := h.mark hstart
    obtain ⟨hstart'', hmark'⟩ := h'.mark hstart'
    exact ⟨hstart'', hmark'.trans hmark⟩

/-- The session ends. -/
theorem ScanSession.Later.ended (session : ScanSession) {status : ScanSessionStatus}
    (h : status ≠ .requested) : session.Later { session with status := status } :=
  ⟨rfl, rfl, fun hwait => absurd hwait h, fun _ => ⟨h, rfl⟩, prefix_rfl⟩

open ScanWorld in
/-- What a call makes of the row of a session, if it does not complete it. -/
inductive ScanSession.Next (session : ScanSession) : ScanSession → Prop where
  | same : Next session session
  | ended {status : ScanSessionStatus} (hactive : session.status.isActive = true)
      (hover : status = .failed ∨ status = .cancelled ∨ status = .stale) :
      Next session { session with status := status }
  | started (s : IdentityStore) (incarnation : NodeIncarnationId) (now : Instant)
      (hrequested : session.status = .requested) :
      Next session (startedRow s session incarnation now)
  | accepted {batch : ScanObservationBatch} (now : Instant) (hrunning : session.status = .running)
      (hvalid : validateBatchInput session.nextSequence batch = .ok ())
      (hdistinct : (batchLocators batch.observations).Nodup)
      (hunseen : ∀ locator ∈ batchLocators batch.observations, session.observed locator = false)
      (hcapacity : session.observationCount + batch.observations.length ≤ 100000) :
      Next session (acceptedRow session batch now)

theorem ScanSession.Next.later {session session' : ScanSession} (h : session.Next session') :
    session.Later session' := by
  cases h with
  | same => exact .refl session
  | ended _ hover => exact .ended session (by rcases hover with rfl | rfl | rfl <;> decide)
  | started _ _ _ hreq =>
    refine ⟨rfl, rfl, fun hwait => ?_, fun hstart => absurd hreq hstart, prefix_rfl⟩
    cases hwait
  | accepted _ hrun =>
    refine ⟨rfl, rfl, fun hwait => ?_, fun hstart => ⟨hstart, rfl⟩, prefix_append _ _⟩
    cases hrun.symm.trans hwait

/-- The row of a session that has just been requested. -/
structure ScanSession.New (session : ScanSession) : Prop where
  status : session.status = .requested
  nextSequence : session.nextSequence = 0
  batchCount : session.batchCount = 0
  observationCount : session.observationCount = 0
  retiredLocationCount : session.retiredLocationCount = 0
  batches : session.batches = []

namespace ScanWorld
open ListUpdate

/-- A call has written the rows of the sessions.  A new one is the only active one of its
root. -/
structure SessionsNext (w w' : ScanWorld) : Prop where
  kept : ∀ (id : ScanSessionId) (session : ScanSession), w.sessions[id]? = some session →
    ∃ session', w'.sessions[id]? = some session' ∧ session.Next session'
  requested : ∀ (id : ScanSessionId) (session' : ScanSession), w.sessions.length ≤ id →
    w'.sessions[id]? = some session' → session'.New ∧
      ∀ (other : ScanSessionId) (row : ScanSession), w'.sessions[other]? = some row →
        row.storageRootId = session'.storageRootId → row.status.isActive = true → other = id

/-- Every session has gone on, and what has been requested since then is fresh. -/
structure SessionsLater (w w' : ScanWorld) : Prop where
  kept : ∀ (id : ScanSessionId) (session : ScanSession), w.sessions[id]? = some session →
    ∃ session', w'.sessions[id]? = some session' ∧ session.Later session'
  fresh : ∀ (id : ScanSessionId) (session' : ScanSession), w.sessions.length ≤ id →
    w'.sessions[id]? = some session' → session'.status = .requested → session'.Fresh

section Moves
variable {w w' w'' : ScanWorld} {env : ScanEnv} {id : ScanSessionId} {session : ScanSession}
  {node : NodeId} {incarnation : Option NodeIncarnationId} {now : Instant} {e : Event}
  {status : ScanSessionStatus} {next : Except VoomError ScanWorld} {lastSequence : Option Nat}
  {observationCount rootEpoch idleTimeoutSeconds sequence : Nat} {batch : ScanObservationBatch}
  {outcome : ScanBatchOutcome}

/-- Only the sessions count. -/
theorem SessionsLater.of_eq (h : SessionsLater w w') (hsessions : w''.sessions = w'.sessions) :
    SessionsLater w w'' := by
  refine ⟨?_, ?_⟩
  · rw [hsessions]
    exact h.kept
  · rw [hsessions]
    exact h.fresh

theorem SessionsLater.trans (h : SessionsLater w w') (h' : SessionsLater w' w'') :
    SessionsLater w w'' := by
  constructor
  · intro id session hsess
    obtain ⟨session', hsess', hlater⟩ := h.kept id session hsess
    obtain ⟨session'', hsess'', hlater'⟩ := h'.kept id session' hsess'
    exact ⟨session'', hsess'', hlater.trans hlater'⟩
  · intro id session'' hnew hsess'' hwait
    by_cases hthere : id < w'.sessions.length
    · have hsess' := getElem?_eq_getElem hthere
      obtain ⟨_, hfound, hlater⟩ := h'.kept id _ hsess'
      obtain rfl := some_unique hsess'' hfound
      -- it is still as it was requested
      have hsame := hlater.waiting hwait
      rw [hsame] at hwait ⊢
      exact h.fresh id _ hnew hsess' hwait
    · exact h'.fresh id session'' (Nat.le_of_not_lt hthere) hsess'' hwait

theorem setSession_later (hsess : w.sessions[id]? = some session)
    (hlater : session.Later session') : SessionsLater w (w.setSession id session') := by
  refine ⟨fun _ _ hrow => exists_getElem?_set ScanSession.Later.refl hsess hlater hrow,
    fun _ _ _ hrow => ?_⟩
  have hlt := lt_length hrow
  simp only [setSession, List.length_set] at hlt
  omega

theorem SessionsNext.later (h : SessionsNext w w') : SessionsLater w w' := by
  constructor
  · intro id session hsess
    obtain ⟨session', hsess', hnext⟩ := h.kept id session hsess
    exact ⟨session', hsess', hnext.later⟩
  · intro id session' hnew hsess' _
    have hrow := (h.requested id session' hnew hsess').1
    exact ⟨hrow.nextSequence, hrow.batches⟩

/-- No session is new. -/
theorem SessionsNext.of_kept (hlen : w'.sessions.length ≤ w.sessions.length)
    (h : ∀ (id : ScanSessionId) (session : ScanSession), w.sessions[id]? = some session →
      ∃ session', w'.sessions[id]? = some session' ∧ session.Next session') :
    SessionsNext w w' := by
  refine ⟨h, fun _ _ _ hsess' => ?_⟩
  have hlt := lt_length hsess'
  omega

theorem SessionsNext.refl (w : ScanWorld) : SessionsNext w w :=
  .of_kept (Nat.le_refl _) fun _ session h => ⟨session, h, .same⟩

theorem SessionsLater.refl (w : ScanWorld) : SessionsLater w w := (SessionsNext.refl w).later

theorem setSession_next (hsess : w.sessions[id]? = some session)
    (hnext : session.Next session') : SessionsNext w (w.setSession id session') := by
  refine .of_kept (by simp [setSession]) ?_
  intro _ _ hrow
  exact exists_getElem?_set (fun _ => .same) hsess hnext hrow

theorem map_next {f : ScanSession → ScanSession}
    (h : ∀ session : ScanSession, session.Next (f session)) :
    SessionsNext w { w with sessions := w.sessions.map f } := by
  refine .of_kept (by simp) ?_
  intro _ session hsess
  refine ⟨f session, ?_, h session⟩
  simp only [getElem?_map, hsess, Option.map_some]

theorem staleExpired_next (w : ScanWorld) (now : Instant) :
    SessionsNext w (w.staleExpired now) := by
  refine map_next fun _ => ?_
  split
  next hover => exact .ended hover.1 (.inr (.inr rfl))
  · exact .same

/-- A call writes the sessions, the identity tables, or completes a session. -/
inductive Moves (w : ScanWorld) (e : Event) : ScanWorld → Prop where
  | sessions {w' : ScanWorld} (hnext : SessionsNext w w') (hcatalog : w'.catalog = w.catalog) :
      Moves w e w'
  | identity {c : IdentityStore.Call} {identity : IdentityStore} (hcall : e.call = .identity c)
      (hidentity : w.catalog.identity.call e.env.lock c = .ok identity) :
      Moves w e { w with catalog := { w.catalog with identity := identity } }
  | completed {id : ScanSessionId} {session : ScanSession}
      {summary : ScanCatalog.PublicationSummary} {published : ScanCatalog}
      (hsession : w.sessions[id]? = some session) (hrunning : session.status = .running)
      (hpublish : w.catalog.publishSessionEvidence e.env.publish session.storageRootId
        session.observations = .ok (summary, published)) :
      Moves w e (w.completedWorld id session published)

theorem Moves.refl (w : ScanWorld) : Moves w e w := .sessions (SessionsNext.refl w) rfl

theorem terminalize_moves (hsess : w.sessions[id]? = some session)
    (hact : session.status.isActive = true)
    (hover : status = .failed ∨ status = .cancelled ∨ status = .stale) :
    Moves w e (w.terminalize id session status) :=
  .sessions (setSession_next hsess (.ended hact hover)) rfl

theorem settle_moves (h : ∀ w', next = .ok w' → Moves w e w') : Moves w e (w.settle next).2 := by
  cases next with
  | error => exact .refl w
  | ok w' => exact h w' rfl

theorem settle_ok (h : w.settle next = (.ok (), w')) : next = .ok w' := by
  cases next with
  | error => cases h
  | ok =>
    cases h
    rfl

theorem fenced_moves (hsess : w.sessions[id]? = some session)
    (hact : session.status.isActive = true) (h : ∀ w', next = .ok w' → Moves w e w') :
    Moves w e (w.fenced env id session incarnation now next).2 := by
  unfold fenced
  split
  · exact .refl w
  · split
    · exact terminalize_moves hsess hact (.inr (.inr rfl))
    · exact settle_moves h

theorem ownedScanSession_ok (h : w.ownedScanSession id node = .ok session) :
    w.sessions[id]? = some session := by
  simp only [ownedScanSession, bind_ok, find_ok, return_ok] at h
  obtain ⟨_, hsess, _, -, rfl⟩ := h
  exact hsess

theorem onOwned_moves {operation : String} {next : ScanSession → Except VoomError ScanWorld}
    (hact : status.isActive = true)
    (h : ∀ session w', w.sessions[id]? = some session → session.status = status →
      next session = .ok w' → Moves w e w') :
    Moves w e (w.onOwned env id node incarnation now status operation next).2 := by
  unfold onOwned
  split
  · exact .refl w
  next session howned =>
  have hsess := ownedScanSession_ok howned
  split
  · exact .refl w
  next hstat =>
  have hstat := not_not.mp hstat
  exact fenced_moves hsess (hstat ▸ hact) fun w' hnext =>
    h session w' hsess hstat hnext

/-- A call of the owner that succeeds. -/
theorem onOwned_ok {operation : String} {next : ScanSession → Except VoomError ScanWorld}
    (h : w.onOwned env id node incarnation now status operation next = (.ok (), w')) :
    ∃ session, w.sessions[id]? = some session ∧ session.status = status ∧
      next session = .ok w' := by
  unfold onOwned at h
  split at h
  · cases h
  next session howned =>
  split at h
  · cases h
  next hstat =>
  refine ⟨session, ownedScanSession_ok howned, not_not.mp hstat, ?_⟩
  unfold fenced at h
  split at h
  · cases h
  · split at h
    · cases h
    · exact settle_ok h

/-- A completion that succeeds. -/
theorem completeScanSession_ok {incarnation : NodeIncarnationId}
    (h : w.completeScanSession env id node incarnation lastSequence observationCount now =
      (.ok (), w')) :
    ∃ session, w.sessions[id]? = some session ∧ session.status = .running ∧
      w.finishCompletion env id session lastSequence observationCount = .ok w' := by
  unfold completeScanSession at h
  split at h
  · cases h
  split at h
  · cases h
  · split at h
    · cases h
    · exact onOwned_ok h

/-- What becomes of a batch that is well formed: it is found in the ledger, or it is the next
one of a running session. -/
inductive BatchAccepted (w : ScanWorld) (id : ScanSessionId) (session : ScanSession)
    (sequence : Nat) (batch : ScanObservationBatch) (now : Instant) :
    ScanBatchOutcome → ScanWorld → Prop where
  | replayed {accepted : AcceptedBatch} {outcome : ScanBatchOutcome}
      (hfound : session.batches[sequence]? = some accepted)
      (hreplay : replayBatch id session sequence batch accepted = .ok outcome) :
      BatchAccepted w id session sequence batch now outcome w
  | appended (hnew : session.batches[sequence]? = none) (hrunning : session.status = .running)
      (hsequence : session.nextSequence = sequence)
      (hdistinct : (batchLocators batch.observations).Nodup)
      (hunseen : ∀ locator ∈ batchLocators batch.observations, session.observed locator = false)
      (hcapacity : session.observationCount + batch.observations.length ≤ 100000) :
      BatchAccepted w id session sequence batch now
        ⟨id, sequence, batch.observations.length,
          session.observationCount + batch.observations.length⟩
        (w.setSession id (acceptedRow session batch now))

theorem prepareObservations_nodup {encodedLength : ScanObservationEvidence → Nat}
    {seen : List String}
    {observations : List ScanObservation}
    (h : prepareObservations encodedLength seen observations = .ok ()) :
    (batchLocators observations).Nodup ∧ ∀ locator ∈ batchLocators observations,
      locator ∉ seen := by
  induction observations generalizing seen with
  | nil => simp [batchLocators]
  | cons observation rest ih =>
    simp only [prepareObservations, bind_ok, require_ok] at h
    obtain ⟨_, hnew, _, -, hrest⟩ := h
    obtain ⟨hnodup, hunseen⟩ := ih hrest
    refine ⟨nodup_cons.mpr ⟨fun hmem => hunseen _ hmem mem_cons_self, hnodup⟩, ?_⟩
    exact forall_mem_cons.mpr ⟨hnew, fun locator hmem hseen =>
      hunseen locator hmem (mem_cons_of_mem _ hseen)⟩

theorem acceptedBatch_ok
    (h : w.acceptedBatch env id session sequence batch now = .ok (outcome, w')) :
    prepareBatch env batch = .ok () ∧ BatchAccepted w id session sequence batch now outcome w' := by
  obtain ⟨_, hprep, h⟩ := bind_ok.mp h
  refine ⟨hprep, ?_⟩
  have hdist := (prepareObservations_nodup hprep).1
  split at h
  next hfound =>
    simp only [bind_ok] at h
    obtain ⟨_, hrepl, heq⟩ := h
    cases heq
    exact .replayed hfound hrepl
  next hnew =>
  simp only [bind_ok, require_ok] at h
  obtain ⟨_, -, _, ⟨hrun, hseq⟩, _, -, _, hcap, _, hunseen, heq⟩ := h
  cases heq
  exact .appended hnew hrun hseq hdist hunseen hcap

theorem BatchAccepted.moves (hsess : w.sessions[id]? = some session)
    (hval : validateBatchInput sequence batch = .ok ())
    (h : BatchAccepted w id session sequence batch now outcome w') : Moves w e w' := by
  cases h with
  | replayed => exact .refl w
  | appended _ hrun hseq hdist hunseen hcap =>
    subst hseq
    exact .sessions (setSession_next hsess (.accepted now hrun hval hdist hunseen hcap)) rfl

/-- A batch that is answered well. -/
theorem acceptScanObservationBatch_ok {incarnation : NodeIncarnationId}
    (h : w.acceptScanObservationBatch env id node incarnation sequence batch now =
      (.ok outcome, w')) :
    validateBatchInput sequence batch = .ok () ∧ prepareBatch env batch = .ok () ∧
      ∃ session, w.ownedScanSession id node = .ok session ∧
        BatchAccepted w id session sequence batch now outcome w' := by
  unfold acceptScanObservationBatch at h
  split at h
  · cases h
  next hval =>
  split at h
  · cases h
  next session howned =>
  dsimp only at h
  generalize hreply : ite (sequence < session.nextSequence) _ _ = reply at h
  have hworld : reply.2 = w' := congrArg Prod.snd h
  have hout : (reply.1.bind fun _ => (w.acceptedBatch env id session sequence batch
    now).map (·.1)) = .ok outcome := congrArg Prod.fst h
  obtain ⟨_, hans, hfirst⟩ := bind_ok.mp hout
  have hsecond : (w.acceptedBatch env id session sequence batch now).map (·.2) = .ok w' := by
    subst hworld
    split at hreply
    · exact settle_ok (hreply.trans (Prod.ext hans rfl))
    · obtain ⟨_, -, -, hnext⟩ := onOwned_ok (hreply.trans (Prod.ext hans rfl))
      exact hnext
  obtain ⟨_, hbatch⟩ := map_snd_ok hsecond
  rw [hbatch] at hfirst
  cases hfirst
  obtain ⟨hprep, hacc⟩ := acceptedBatch_ok hbatch
  exact ⟨hval, hprep, session, howned, hacc⟩

theorem accept_moves {incarnation : NodeIncarnationId} :
    Moves w e (w.acceptScanObservationBatch env id node incarnation sequence batch now).2 := by
  unfold acceptScanObservationBatch
  split
  · exact .refl w
  next hval =>
  split
  · exact .refl w
  next session howned =>
  have hacc : ∀ w', (w.acceptedBatch env id session sequence batch now).map (·.2) =
      .ok w' → Moves w e w' := by
    intro _ hok
    obtain ⟨_, hbatch⟩ := map_snd_ok hok
    exact (acceptedBatch_ok hbatch).2.moves (ownedScanSession_ok howned) hval
  split
  · exact settle_moves hacc
  · exact onOwned_moves rfl fun _ w' _ _ hok => hacc w' hok

theorem finishCompletion_ok
    (h : w.finishCompletion env id session lastSequence observationCount = .ok w') :
    ∃ summary published, w.catalog.publishSessionEvidence env.publish session.storageRootId
        session.observations = .ok (summary, published) ∧
      w' = w.completedWorld id session published := by
  simp only [finishCompletion, bind_ok, return_ok] at h
  obtain ⟨⟨summary, published⟩, hpub, _, -, _, -, _, -, _, -, rfl⟩ := h
  exact ⟨summary, published, hpub, rfl⟩

/-- The other active sessions of the root keep a request out. -/
theorem insertRequested_ok {root : StorageRootId} {owner : NodeId} (hnext : SessionsNext w w')
    (hlen : w'.sessions.length = w.sessions.length)
    (h : w'.insertRequested root rootEpoch owner idleTimeoutSeconds now = .ok w'') :
    SessionsNext w w'' ∧ w''.catalog = w'.catalog := by
  unfold insertRequested at h
  split at h
  · cases h
  next hnone =>
  cases h
  refine ⟨⟨fun id session hsess => ?_, fun id session' _ hsess' => ?_⟩, rfl⟩
  · obtain ⟨session', hsess', hrow⟩ := hnext.kept id session hsess
    refine ⟨session', ?_, hrow⟩
    rw [List.getElem?_append_left (lt_length hsess'), hsess']
  · rcases getElem?_concat_cases hsess' with hold | ⟨hid, rfl⟩
    · have hlt := lt_length hold
      omega
    refine ⟨⟨rfl, rfl, rfl, rfl, rfl, rfl⟩, fun other row hrow hroot hact => ?_⟩
    rcases getElem?_concat_cases hrow with hold | ⟨hother, -⟩
    · have hidle := find?_eq_none.mp hnone (row, other) (mk_mem_zipIdx_iff_getElem?.mpr hold)
      simp [hroot, hact] at hidle
    · exact hother.trans hid.symm

theorem request_moves {root : StorageRootId} :
    Moves w e (w.requestScanSession env root idleTimeoutSeconds now).2 := by
  have hexpired : Moves w e (w.staleExpired now) := .sessions (staleExpired_next w now) rfl
  unfold requestScanSession
  split
  · exact .refl w
  dsimp only
  split
  · exact hexpired
  split
  · exact hexpired
  split
  · exact .refl w
  next owner _ =>
  cases hins : (w.staleExpired now).insertRequested root _ owner idleTimeoutSeconds now with
  | error => exact hexpired
  | ok =>
    obtain ⟨hnext, hcat⟩ := insertRequested_ok (staleExpired_next w now)
      (by simp [staleExpired]) hins
    exact .sessions hnext hcat

/-- **Every call is one of the three.** -/
theorem step_moves (h : w.step e = some w') : Moves w e w' := by
  obtain rfl := Option.some.inj h
  unfold reply
  split
  · exact request_moves
  next id node incarnation _ =>
    refine onOwned_moves rfl fun session w' hsess hstat hnext => ?_
    simp only [bind_ok, return_ok] at hnext
    obtain ⟨_, -, rfl⟩ := hnext
    exact .sessions (setSession_next hsess (.started _ _ _ hstat)) rfl
  next id node incarnation _ _ _ => exact accept_moves
  next id _ incarnation _ _ _ =>
    unfold completeScanSession
    split
    · exact .refl w
    split
    · exact .refl w
    split
    · exact .refl w
    refine onOwned_moves rfl fun session w' hsess hstat hnext => ?_
    obtain ⟨_, _, hpub, rfl⟩ := finishCompletion_ok hnext
    exact .completed hsess hstat hpub
  · refine onOwned_moves rfl fun session _ hsess hstat hnext => ?_
    cases hnext
    exact terminalize_moves hsess (hstat ▸ rfl) (.inl rfl)
  · unfold cancelScanSession
    split
    · exact .refl w
    next hsess =>
    split
    · exact .refl w
    next hact =>
    have hact := not_not.mp hact
    split
    · exact .refl w
    · split
      · exact terminalize_moves hsess hact (.inr (.inr rfl))
      · exact terminalize_moves hsess hact (.inr (.inl rfl))
  · exact .sessions (staleExpired_next w e.now) rfl
  · refine .sessions (map_next fun _ => ?_) rfl
    split
    next hover => exact .ended (hover.1 ▸ rfl) (.inr (.inr rfl))
    · exact .same
  next c hcall =>
  refine settle_moves fun _ hok => ?_
  cases hident : w.catalog.identity.call e.env.lock c with
  | error =>
    rw [hident] at hok
    cases hok
  | ok identity =>
    rw [hident] at hok
    cases hok
    exact .identity hcall hident

end Moves

end ScanWorld

end Voom
