import VoomProof.ScanWalk
import VoomProof.ScanWatermark

/-!
# The scan pump of a node agent

The agent of the node that owns a root drives a scan session
(`voom-node-agent/src/scan_session.rs`). It starts the session, has the root walked, puts every
candidate of the walk through a hash worker and a probe worker, and submits what comes of it in
batches; then it completes the session. A candidate gives at most one observation. One that has
vanished gives none, since its absence is real; one that cannot be hashed or probed gives an
observation without evidence, so that its location is not retired. The number of skipped entries
is only reported.

Candidates are worked on side by side, and their observations are recorded in the order in
which they become ready: the pump takes that order as an argument. A failure that is not
about one file ends the session.
-/

namespace Voom
open ListUpdate Fallible Runs List

/-! ## Workers -/

/-- The code of an error frame.  The pump tells one apart from the others. -/
inductive WorkerErrorCode where
  | notFound
  | other
  deriving DecidableEq

/-- How a dispatch to a worker ends. -/
inductive WorkerTerminal (α : Type) where
  | result (value : α)
  | error (failureClass : FailureClass) (code : WorkerErrorCode)
  /-- The stream broke off, made no progress or could not be opened. -/
  | broken
  /-- There is no worker for the operation. -/
  | noEndpoint

structure PumpFailure where
  failureClass : FailureClass
  deriving DecidableEq

/-- Why a file has given no usable facts. -/
inductive CandidateGap where
  | vanished
  | unusableIdentity
  deriving DecidableEq

structure HashFileResult where
  contentHash : String
  sizeBytes : Nat
  modifiedAt : Int
  fileKey : Option FileKeyFacts
  changedAtNs : Option Int
  stabilityStartedAt : Int
  stabilityConfirmedAt : Int
  deriving DecidableEq

structure ObservedFileFacts where
  sizeBytes : Nat
  contentHash : String
  modifiedAt : Option Int
  deriving DecidableEq

structure ProbeFileResult where
  preProbe : ObservedFileFacts
  postProbe : ObservedFileFacts
  snapshot : Json
  /-- The probe has not read the bytes but reused the hash. -/
  hashReused : Bool

structure ProbeGuard where
  changedAtNs : Int
  fileKey : FileKeyFacts
  deriving DecidableEq

/-- What the workers answer while the session runs. -/
structure ScanWorkers where
  hash : (locator : String) → WorkerTerminal HashFileResult
  probe : (locator : String) → HashFileResult → Option ProbeGuard → WorkerTerminal ProbeFileResult

structure ScanPumpContext where
  nodeId : NodeId
  incarnationId : NodeIncarnationId
  session : ScanSessionId
  probeHashReuse : Bool
  /-- The tables and the time that the calls of the session meet, one after the other. -/
  moment : Nat → ScanEnv × Instant
  requestHash : List ScanObservation → String
  encodedLength : ScanObservationEvidence → Nat
  wireLength : ScanObservation → Nat

def classifySingleFileError (failureClass : FailureClass) (code : WorkerErrorCode) :
    Except PumpFailure CandidateGap :=
  match failureClass, code with
  | .artifactUnavailable, .notFound => .ok .vanished
  | .artifactChecksumMismatch, _ | .artifactUnavailable, _ | .malformedMedia, _ =>
      .ok .unusableIdentity
  | _, _ => .error ⟨failureClass⟩

def hashOne (workers : ScanWorkers) (locator : String) :
    Except PumpFailure (Except CandidateGap HashFileResult) :=
  match workers.hash locator with
  | .noEndpoint => .error ⟨.noEligibleWorker⟩
  | .broken => .error ⟨.workerCrash⟩
  | .result hash => .ok (.ok hash)
  | .error failureClass code => (classifySingleFileError failureClass code).map .error

inductive ProbeOutcome where
  | snapshot (snapshot : Json)
  | vanished
  | disagree

def agrees (observed : ObservedFileFacts) (hash : HashFileResult) : Bool :=
  observed.sizeBytes = hash.sizeBytes && observed.contentHash = hash.contentHash &&
    observed.modifiedAt = some hash.modifiedAt

def probeGuard (context : ScanPumpContext) (hash : HashFileResult) : Option ProbeGuard :=
  if context.probeHashReuse then do
    let changedAtNs ← hash.changedAtNs
    let fileKey ← hash.fileKey
    return ⟨changedAtNs, fileKey⟩
  else none

def probePrimary (context : ScanPumpContext) (workers : ScanWorkers) (locator : String)
    (hash : HashFileResult) : Except PumpFailure ProbeOutcome :=
  let guard := probeGuard context hash
  match workers.probe locator hash guard with
  | .noEndpoint => .error ⟨.noEligibleWorker⟩
  | .broken => .error ⟨.workerCrash⟩
  | .result result =>
    -- a reused hash counts only if it was asked for
    if (!result.hashReused || guard.isSome) && agrees result.preProbe hash &&
        agrees result.postProbe hash then
      .ok (.snapshot result.snapshot)
    else .ok .disagree
  | .error failureClass code => do
    match ← classifySingleFileError failureClass code with
    | .vanished => return .vanished
    | .unusableIdentity => return .disagree

/-! ## Candidates -/

structure CandidateContribution where
  observation : Option ScanObservation
  failedContent : Bool
  degradedEvidence : Bool

namespace CandidateContribution

def absent : CandidateContribution := ⟨none, false, false⟩

/-- The file was there, but what it is could not be found out. -/
def evidenceLess (primary : WalkFile) : CandidateContribution where
  observation := some ⟨primary.locator, primary.providerObjectIdentity, primary.sizeBytes,
    primary.modifiedAt, primary.modifiedAt, none⟩
  failedContent := true
  degradedEvidence := false

end CandidateContribution

def maxEvidenceSidecars : Nat := 64

def maxEvidenceBytes : Nat := 64 * 1024

/-- The evidence of the sidecars, or none if one of them cannot be hashed. -/
def hashSidecars (workers : ScanWorkers) :
    List WalkFile → Except PumpFailure (Option (List ScanSidecarEvidence))
  | [] => .ok (some [])
  | sidecar :: rest => do
    match ← hashOne workers sidecar.locator with
    | .error _ => return none
    | .ok hash =>
      let hex ← find (RustText.stripPrefix "blake3:".toList hash.contentHash.toList)
        ⟨.malformedWorkerResult⟩
      let rest ← hashSidecars workers rest
      return rest.map fun rest => ⟨sidecar.locator, sidecar.kind.getD "unknown",
        String.ofList hex, hash.sizeBytes⟩ :: rest

/-- The observation of a primary file that hash and probe agree on. -/
def observationOf (context : ScanPumpContext) (primary : WalkFile) (hash : HashFileResult)
    (sidecars : List ScanSidecarEvidence) (snapshot : Json) : CandidateContribution :=
  let evidence : ScanObservationEvidence :=
    ⟨hash.contentHash, hash.sizeBytes, hash.fileKey, sidecars, snapshot⟩
  let overBound := maxEvidenceSidecars < sidecars.length ∨
    maxEvidenceBytes < context.encodedLength evidence
  { observation := some ⟨primary.locator, primary.providerObjectIdentity, primary.sizeBytes,
      hash.stabilityStartedAt, hash.stabilityConfirmedAt,
      if overBound then none else some evidence⟩
    failedContent := false
    degradedEvidence := overBound }

/-- At most one observation of a candidate. -/
def processCandidate (context : ScanPumpContext) (workers : ScanWorkers)
    (candidate : WalkCandidate) : Except PumpFailure CandidateContribution := do
  let primary := candidate.primary
  match ← hashOne workers primary.locator with
  | .error .vanished => return .absent
  | .error .unusableIdentity => return .evidenceLess primary
  | .ok hash =>
    match ← hashSidecars workers candidate.sidecars with
    | none => return .evidenceLess primary
    | some sidecars =>
      match ← probePrimary context workers primary.locator hash with
      | .vanished => return .absent
      | .disagree => return .evidenceLess primary
      | .snapshot snapshot => return observationOf context primary hash sidecars snapshot

/-! ## Batches -/

/-- The tables, and what of the session is on its way to them. -/
structure BatchSubmitter where
  world : ScanWorld
  nextSequence : Nat
  buffer : List ScanObservation
  estimatedBytes : Nat
  cumulative : Nat

namespace BatchSubmitter

def push (context : ScanPumpContext) (b : BatchSubmitter) (observation : ScanObservation) :
    BatchSubmitter :=
  { b with
    buffer := b.buffer ++ [observation]
    estimatedBytes := b.estimatedBytes + context.wireLength observation }

def shouldFlush (b : BatchSubmitter) : Bool :=
  decide (1000 ≤ b.buffer.length) || decide (512 * 1024 ≤ b.estimatedBytes)

/-- Submit the buffer as the next batch. -/
def flush (context : ScanPumpContext) (b : BatchSubmitter) : Except PumpFailure BatchSubmitter :=
  let (env, now) := context.moment (b.nextSequence + 1)
  match b.world.acceptScanObservationBatch env context.session context.nodeId
      context.incarnationId b.nextSequence ⟨context.requestHash b.buffer, b.buffer⟩ now with
  | (.error _, _) => .error ⟨.externalSystemUnavailable⟩
  | (.ok outcome, world) => .ok {
      world := world
      nextSequence := b.nextSequence + 1
      buffer := []
      estimatedBytes := 0
      cumulative := outcome.cumulativeObservationCount }

/-- A flush empties the buffer, so one is enough. -/
def record (context : ScanPumpContext) (b : BatchSubmitter)
    (contribution : CandidateContribution) : Except PumpFailure BatchSubmitter :=
  match contribution.observation with
  | none => .ok b
  | some observation =>
    let b := b.push context observation
    if b.shouldFlush then b.flush context else .ok b

/-- A candidate has become ready. -/
def advance (context : ScanPumpContext) (workers : ScanWorkers) (b : BatchSubmitter)
    (candidate : WalkCandidate) : Except PumpFailure BatchSubmitter := do
  let contribution ← processCandidate context workers candidate
  b.record context contribution

def lastSequence (b : BatchSubmitter) : Option Nat :=
  if b.nextSequence = 0 then none else some (b.nextSequence - 1)

def flushIfNonempty (context : ScanPumpContext) (b : BatchSubmitter) :
    Except PumpFailure BatchSubmitter :=
  if b.buffer = [] then .ok b else b.flush context

def completeSession (context : ScanPumpContext) (b : BatchSubmitter) :
    Except PumpFailure ScanWorld := do
  let b ← b.flushIfNonempty context
  let (env, now) := context.moment (b.nextSequence + 1)
  match b.world.completeScanSession env context.session context.nodeId context.incarnationId
      b.lastSequence b.cumulative now with
  | (.error _, _) => .error ⟨.externalSystemUnavailable⟩
  | (.ok (), world) => .ok world

end BatchSubmitter

/-- The session from its start to its completion; the candidates in the order in which they
become ready. -/
def runPump (context : ScanPumpContext) (workers : ScanWorkers) (ready : List WalkCandidate)
    (w : ScanWorld) : Except PumpFailure ScanWorld := do
  let (env, now) := context.moment 0
  match w.startScanSession env context.session context.nodeId context.incarnationId now with
  | (.error _, _) => .error ⟨.externalSystemUnavailable⟩
  | (.ok (), world) =>
    let b ← ready.foldlM (BatchSubmitter.advance context workers) ⟨world, 0, [], 0, 0⟩
    b.completeSession context

/-! ## What comes of a candidate -/

/-- A worker says that there is no such file. -/
def WorkerTerminal.isAbsence {α : Type} : WorkerTerminal α → Bool
  | .error .artifactUnavailable .notFound => true
  | _ => false

theorem classifySingleFileError_vanished {failureClass : FailureClass} {code : WorkerErrorCode}
    (h : classifySingleFileError failureClass code = .ok .vanished) :
    failureClass = .artifactUnavailable ∧ code = .notFound := by
  unfold classifySingleFileError at h
  split at h <;> simp_all

theorem hashOne_vanished {workers : ScanWorkers} {locator : String}
    (h : hashOne workers locator = .ok (.error .vanished)) :
    (workers.hash locator).isAbsence = true := by
  unfold hashOne at h
  split at h
  · cases h
  · cases h
  · cases h
  next failureClass code heq =>
  cases hclass : classifySingleFileError failureClass code with
  | error =>
    rw [hclass] at h
    cases h
  | ok =>
    rw [hclass] at h
    cases h
    obtain ⟨rfl, rfl⟩ := classifySingleFileError_vanished hclass
    rw [heq]
    rfl

theorem probePrimary_vanished {context : ScanPumpContext} {workers : ScanWorkers}
    {locator : String} {hash : HashFileResult}
    (h : probePrimary context workers locator hash = .ok .vanished) :
    (workers.probe locator hash (probeGuard context hash)).isAbsence = true := by
  unfold probePrimary at h
  dsimp only at h
  split at h
  · cases h
  · cases h
  · split at h <;> cases h
  next heq =>
  obtain ⟨gap, hclass, h⟩ := bind_ok.mp h
  cases gap with
  | unusableIdentity => cases h
  | vanished =>
    obtain ⟨rfl, rfl⟩ := classifySingleFileError_vanished hclass
    rw [heq]
    rfl

/-- A worker has found the file absent. -/
def ScanWorkers.Absent (workers : ScanWorkers) (locator : String) : Prop :=
  (workers.hash locator).isAbsence = true ∨
    ∃ hash guard, (workers.probe locator hash guard).isAbsence = true

/-- What can come of a candidate. -/
inductive CandidateOutcome (context : ScanPumpContext) (workers : ScanWorkers)
    (candidate : WalkCandidate) : CandidateContribution → Prop where
  | absent (habsent : workers.Absent candidate.primary.locator) :
      CandidateOutcome context workers candidate .absent
  | evidenceLess :
      CandidateOutcome context workers candidate (.evidenceLess candidate.primary)
  | observed {hash : HashFileResult} {sidecars : List ScanSidecarEvidence} (snapshot : Json)
      (hhash : hashOne workers candidate.primary.locator = .ok (.ok hash))
      (hsidecars : hashSidecars workers candidate.sidecars = .ok (some sidecars)) :
      CandidateOutcome context workers candidate
        (observationOf context candidate.primary hash sidecars snapshot)

section Pump
variable {context : ScanPumpContext} {workers : ScanWorkers} {candidate : WalkCandidate}
  {contribution : CandidateContribution} {w w' : ScanWorld} {started : ScanSession}
  {recorded : List ScanObservation} {b b' : BatchSubmitter} {ready : List WalkCandidate}

theorem processCandidate_outcome
    (h : processCandidate context workers candidate = .ok contribution) :
    CandidateOutcome context workers candidate contribution := by
  obtain ⟨hashed, hhash, h⟩ := bind_ok.mp h
  rcases hashed with gap | hash
  · cases gap with
    | vanished =>
      cases h
      exact .absent (.inl (hashOne_vanished hhash))
    | unusableIdentity =>
      cases h
      exact .evidenceLess
  · obtain ⟨sidecars, hsides, h⟩ := bind_ok.mp h
    rcases sidecars with _ | _
    · cases h
      exact .evidenceLess
    obtain ⟨outcome, hprobe, h⟩ := bind_ok.mp h
    cases outcome with
    | vanished =>
      cases h
      exact .absent (.inr ⟨hash, _, probePrimary_vanished hprobe⟩)
    | disagree =>
      cases h
      exact .evidenceLess
    | snapshot snapshot =>
      cases h
      exact .observed snapshot hhash hsides

theorem CandidateOutcome.locator (h : CandidateOutcome context workers candidate contribution)
    {observation : ScanObservation} (hobs : contribution.observation = some observation) :
    observation.providerRelativeLocator = candidate.primary.locator := by
  cases h with
  | absent => cases hobs
  | evidenceLess | observed =>
    cases hobs
    rfl

/-- A candidate that no worker has found absent gives an observation. -/
theorem CandidateOutcome.exists_observation
    (h : CandidateOutcome context workers candidate contribution)
    (hpresent : ¬ workers.Absent candidate.primary.locator) :
    ∃ observation, contribution.observation = some observation := by
  cases h with
  | absent habsent => exact absurd habsent hpresent
  | evidenceLess | observed => exact ⟨_, rfl⟩

/-! ## What is submitted -/

open ScanWorld

/-- Between the start and the completion: what has been recorded is in the tables or in the
buffer. -/
structure Pumped (context : ScanPumpContext) (w : ScanWorld) (started : ScanSession)
    (recorded : List ScanObservation) (b : BatchSubmitter) : Prop where
  catalog : b.world.catalog = w.catalog
  session : ∃ session, b.world.sessions[context.session]? = some session ∧
    session.nextSequence = b.nextSequence ∧ session.batches.length = b.nextSequence ∧
    session.observations ++ b.buffer = recorded ∧
    session.locationHighWatermarkId = started.locationHighWatermarkId ∧
    session.storageRootId = started.storageRootId

theorem Pumped.flush (h : Pumped context w started recorded b) (hflush : b.flush context = .ok b') :
    Pumped context w started recorded b' ∧ b'.buffer = [] := by
  unfold BatchSubmitter.flush at hflush
  dsimp only at hflush
  split at hflush
  · cases hflush
  next haccept =>
  cases hflush
  obtain ⟨session, hsess, hseq, hlen, hrec, hmark, hroot⟩ := h.session
  obtain ⟨-, -, _, howned, hacc⟩ := acceptScanObservationBatch_ok haccept
  obtain rfl := some_unique hsess (ownedScanSession_ok howned)
  cases hacc with
  | replayed hrepl =>
    -- the sequence is the next one, so the batch is no replay
    have hlt := lt_length hrepl
    omega
  | appended =>
    refine ⟨⟨h.catalog, _, getElem?_set_here hsess, ?_, ?_, ?_, hmark, hroot⟩, rfl⟩
    · exact congrArg (· + 1) hseq
    · simp [acceptedRow, hlen]
    · rw [← hrec]
      simp [ScanSession.observations, acceptedRow]

theorem Pumped.record (h : Pumped context w started recorded b)
    (hrecord : b.record context contribution = .ok b') :
    Pumped context w started (recorded ++ contribution.observation.toList) b' := by
  unfold BatchSubmitter.record at hrecord
  split at hrecord
  next hnone =>
    cases hrecord
    simpa [hnone] using h
  next observation hsome =>
  have hpushed : Pumped context w started (recorded ++ contribution.observation.toList)
      (b.push context observation) := by
    obtain ⟨session, hsess, hseq, hlen, hrec, hrest⟩ := h.session
    refine ⟨h.catalog, session, hsess, hseq, hlen, ?_, hrest⟩
    rw [← hrec, hsome]
    simp [BatchSubmitter.push]
  dsimp only at hrecord
  split at hrecord
  · exact (hpushed.flush hrecord).1
  · cases hrecord
    exact hpushed

/-- The rounds of the pump. -/
theorem Pumped.advance (h : Pumped context w started recorded b)
    (hrounds : ready.foldlM (BatchSubmitter.advance context workers) b = .ok b') :
    ∃ contributions, ready.mapM (processCandidate context workers) = .ok contributions ∧
      Pumped context w started (recorded ++ contributions.filterMap (·.observation)) b' := by
  induction ready generalizing b recorded with
  | nil =>
    cases hrounds
    exact ⟨[], rfl, by simpa using h⟩
  | cons _ _ ih =>
    obtain ⟨_, hnext, hrest⟩ := bind_ok.mp hrounds
    obtain ⟨contribution, hprocess, hrec⟩ := bind_ok.mp hnext
    obtain ⟨contributions, hmap, hpumped⟩ := ih (h.record hrec) hrest
    refine ⟨contribution :: contributions, mapM_cons_ok_iff.mpr ⟨_, _, hprocess, hmap, rfl⟩, ?_⟩
    cases hobs : contribution.observation <;> simpa [hobs] using hpumped

/-- What a pump that ends well has done. -/
structure PumpRun (context : ScanPumpContext) (workers : ScanWorkers)
    (ready : List WalkCandidate) (w w' : ScanWorld) where
  requested : ScanSession
  /-- The session when it is completed, and the tables then. -/
  session : ScanSession
  before : ScanWorld
  contributions : List CandidateContribution
  env : PublishEnv
  summary : ScanCatalog.PublicationSummary
  published : ScanCatalog
  found : w.sessions[context.session]? = some requested
  processed : ready.mapM (processCandidate context workers) = .ok contributions
  catalog : before.catalog = w.catalog
  observations : session.observations = contributions.filterMap (·.observation)
  root : session.storageRootId = requested.storageRootId
  mark : session.locationHighWatermarkId =
    before.catalog.identity.highWatermark session.storageRootId
  publish : before.catalog.publishSessionEvidence env session.storageRootId session.observations =
    .ok (summary, published)
  completed : w' = before.completedWorld context.session session published

/-- **A session of the pump submits exactly the observations of its candidates.** -/
theorem runPump_ok (h : runPump context workers ready w = .ok w')
    (hfresh : ∀ session, w.sessions[context.session]? = some session →
      session.status = .requested → session.Fresh) :
    Nonempty (PumpRun context workers ready w w') := by
  unfold runPump at h
  dsimp only at h
  split at h
  · cases h
  next world hstart =>
  obtain ⟨requested, hreq, hwait, hstarted⟩ := onOwned_ok hstart
  simp only [bind_ok, return_ok] at hstarted
  obtain ⟨_, -, rfl⟩ := hstarted
  obtain ⟨hseq, hbatches⟩ := hfresh requested hreq hwait
  obtain ⟨b, hrounds, hcompl⟩ := bind_ok.mp h
  have hset := getElem?_set_self (a := startedRow w.catalog.identity requested
    context.incarnationId (context.moment 0).2) (lt_length hreq)
  have hpumped : Pumped context w (startedRow w.catalog.identity requested
      context.incarnationId (context.moment 0).2) [] ⟨w.setSession context.session (startedRow
        w.catalog.identity requested context.incarnationId (context.moment 0).2), 0, [], 0, 0⟩ := by
    refine ⟨rfl, _, hset, hseq, ?_, ?_, rfl, rfl⟩
    · simp [startedRow, hbatches]
    · simp [ScanSession.observations, startedRow, hbatches]
  obtain ⟨contributions, hprocessed, hpumped⟩ := hpumped.advance hrounds
  obtain ⟨last, hlast, hcompl⟩ := bind_ok.mp hcompl
  have hdone : Pumped context w (startedRow w.catalog.identity requested context.incarnationId
      (context.moment 0).2) ([] ++ contributions.filterMap (·.observation)) last ∧
      last.buffer = [] := by
    unfold BatchSubmitter.flushIfNonempty at hlast
    split at hlast
    next hnil =>
      cases hlast
      exact ⟨hpumped, hnil⟩
    · exact hpumped.flush hlast
  obtain ⟨⟨hcat, session, hsess, -, -, hobs, hmark, hroot⟩, hnil⟩ := hdone
  rw [hnil, append_nil] at hobs
  dsimp only at hcompl
  split at hcompl
  · cases hcompl
  next hfin =>
  cases hcompl
  obtain ⟨_, hfound, -, hfinish⟩ := completeScanSession_ok hfin
  obtain rfl := some_unique hsess hfound
  obtain ⟨summary, published, hpub, rfl⟩ := finishCompletion_ok hfinish
  refine ⟨⟨requested, session, last.world, contributions, _, summary, published, hreq,
    hprocessed, hcat, hobs, hroot, ?_, hpub, rfl⟩⟩
  rw [hmark, hcat, hroot]
  rfl

/-- What the session has observed are the candidates that no worker has found absent. -/
theorem PumpRun.observed_iff (run : PumpRun context workers ready w w')
    (hpresent : ∀ candidate ∈ ready, ¬ workers.Absent candidate.primary.locator)
    {locator : String} : run.session.observed locator = true ↔
      ∃ candidate ∈ ready, candidate.primary.locator = locator := by
  obtain ⟨hto, hfrom⟩ := mapM_ok_mem run.processed
  rw [ScanSession.observed, run.observations]
  simp only [any_eq_true, mem_filterMap, decide_eq_true_eq]
  constructor
  · rintro ⟨_, ⟨contribution, hin, hobs⟩, rfl⟩
    obtain ⟨candidate, hcand, hprocess⟩ := hfrom contribution hin
    exact ⟨candidate, hcand, ((processCandidate_outcome hprocess).locator hobs).symm⟩
  · rintro ⟨candidate, hcand, rfl⟩
    obtain ⟨contribution, hin, hprocess⟩ := hto candidate hcand
    have hout := processCandidate_outcome hprocess
    obtain ⟨observation, hobs⟩ :=
      hout.exists_observation (hpresent candidate hcand)
    exact ⟨observation, ⟨contribution, hin, hobs⟩, hout.locator hobs⟩

end Pump

end Voom
