import VoomProof.CommitIntent
import VoomProof.LeaseStore
import VoomProof.SortedSet

/-!
# The commit safety gate and the use leases

A destructive commit goes through the gate of `voom-store` (`repo/media/commit_safety_gate`) in
three calls: `prepare` walks the rows the commit affects and records an intent over them,
`authorize` walks them again and grants a permit, and `finalize` applies the commit or gives it
up; `abort` ends an intent that has no permit yet. Beside the gate, users of a file hold leases
on its rows (`repo/media/use_leases.rs`). The gate refuses a commit over a row that a blocking
lease is on, and no lease is granted on a row of an intent in flight.

Each call runs in one transaction, except that a refused `prepare` writes its intent in one
transaction and the event in a second. A call sees the identity tables, which are written
elsewhere, through a `GateView`; two calls may see different ones. `buildClosure` is the walk
over the identity tables that views are made with.

Events and time stamps of intents, issuers of leases and the proposals of new locations are
left out.
-/

namespace Voom
open Fallible

abbrev FileAssetId := Nat
abbrev FileVersionId := Nat
abbrev FileLocationId := Nat
abbrev BundleId := Nat
abbrev UseLeaseId := Nat
abbrev EvidenceId := Nat

/-! ## Scopes and closures -/

/-- What a lease or a commit is about. -/
inductive LeaseScope where
  | asset (id : FileAssetId)
  | bundle (id : BundleId)
  | version (id : FileVersionId)
  | location (id : FileLocationId)
  deriving DecidableEq

def LeaseScope.typeStr : LeaseScope → String
  | asset _ => "asset"
  | bundle _ => "bundle"
  | version _ => "version"
  | location _ => "location"

def LeaseScope.idU64 : LeaseScope → Nat
  | asset id | bundle id | version id | location id => id

/-- The rows a commit affects. -/
structure AffectedScopeClosure where
  fileAssets : SortedSet FileAssetId
  fileVersions : SortedSet FileVersionId
  fileLocations : SortedSet FileLocationId
  bundles : SortedSet BundleId
  resolutionWarnings : List String
  deriving DecidableEq

/-- What two closures do not share. -/
structure ClosureMemberDelta where
  addedAssets : SortedSet FileAssetId
  addedBundles : SortedSet BundleId
  addedVersions : SortedSet FileVersionId
  addedLocations : SortedSet FileLocationId
  removedAssets : SortedSet FileAssetId
  removedBundles : SortedSet BundleId
  removedVersions : SortedSet FileVersionId
  removedLocations : SortedSet FileLocationId
  deriving DecidableEq

def ClosureMemberDelta.isEmpty (d : ClosureMemberDelta) : Bool :=
  d.addedAssets.isEmpty && d.addedBundles.isEmpty && d.addedVersions.isEmpty &&
    d.addedLocations.isEmpty && d.removedAssets.isEmpty && d.removedBundles.isEmpty &&
    d.removedVersions.isEmpty && d.removedLocations.isEmpty

namespace AffectedScopeClosure

def empty : AffectedScopeClosure := ⟨∅, ∅, ∅, ∅, []⟩

/-- What `other` holds beyond `c` and the other way round; warnings do not count. -/
def idMemberDelta (c other : AffectedScopeClosure) : ClosureMemberDelta where
  addedAssets := other.fileAssets.difference c.fileAssets
  addedBundles := other.bundles.difference c.bundles
  addedVersions := other.fileVersions.difference c.fileVersions
  addedLocations := other.fileLocations.difference c.fileLocations
  removedAssets := c.fileAssets.difference other.fileAssets
  removedBundles := c.bundles.difference other.bundles
  removedVersions := c.fileVersions.difference other.fileVersions
  removedLocations := c.fileLocations.difference other.fileLocations

/-- The scopes of four sets of ids, in the order in which their rows are written. -/
def scopesOf (assets : SortedSet FileAssetId) (bundles : SortedSet BundleId)
    (versions : SortedSet FileVersionId) (locations : SortedSet FileLocationId) :
    List LeaseScope :=
  assets.elems.map .asset ++ bundles.elems.map .bundle ++ versions.elems.map .version ++
    locations.elems.map .location

def scopes (c : AffectedScopeClosure) : List LeaseScope :=
  scopesOf c.fileAssets c.bundles c.fileVersions c.fileLocations

/-- The same scopes from fine to coarse. -/
def fineToCoarse (c : AffectedScopeClosure) : List LeaseScope :=
  c.fileLocations.elems.map .location ++ c.fileVersions.elems.map .version ++
    c.bundles.elems.map .bundle ++ c.fileAssets.elems.map .asset

/-- Members the caller saw beside those the walk found. -/
def mergeObserved (walked : AffectedScopeClosure) :
    Option AffectedScopeClosure → AffectedScopeClosure
  | none => walked
  | some observed =>
      { walked with
        fileAssets := walked.fileAssets.extend observed.fileAssets.elems
        fileVersions := walked.fileVersions.extend observed.fileVersions.elems
        fileLocations := walked.fileLocations.extend observed.fileLocations.elems
        bundles := walked.bundles.extend observed.bundles.elems }

end AffectedScopeClosure

/-! ## Commits and their intents -/

/-- What a commit retires. -/
inductive CommitTarget (Proposal : Type) where
  | deleteFileLocation (id : FileLocationId)
  | replaceFileLocation (retired : FileLocationId) (new : Proposal)
  | moveFileLocation (retired : FileLocationId) (new : Proposal)
  deriving DecidableEq

def CommitTarget.retired {Proposal : Type} : CommitTarget Proposal → FileLocationId
  | deleteFileLocation id => id
  | replaceFileLocation retired _ => retired
  | moveFileLocation retired _ => retired

inductive BypassKind where
  | closureIncomplete
  deriving DecidableEq

/-- An operator's leave to skip checks. -/
structure ForcePathToken where
  actor : String
  reason : String
  bypass : List BypassKind
  deriving DecidableEq

/-- What is asked of the gate. -/
structure DestructiveCommit (Proposal : Type) where
  target : CommitTarget Proposal
  acceptedEvidenceIds : List EvidenceId
  overrideToken : Option ForcePathToken
  deriving DecidableEq

/-- How evidence has changed. -/
inductive EvidenceDrift where
  | pinnedFileVersionRetired
  | pinnedHashDiffers
  | pinnedLocationRetired
  deriving DecidableEq

structure EvidenceRevalidationResult where
  evidenceId : EvidenceId
  drift : Option EvidenceDrift
  deriving DecidableEq

inductive TargetMemberKind where
  | fileAsset
  | fileVersion
  | fileLocation
  | bundle
  deriving DecidableEq

def TargetMemberKind.name : TargetMemberKind → String
  | fileAsset => "FileAsset"
  | fileVersion => "FileVersion"
  | fileLocation => "FileLocation"
  | bundle => "Bundle"

/-- The epoch of a row when authorized. -/
structure TargetRowEpochTriple where
  kind : TargetMemberKind
  id : Nat
  epoch : Nat
  deriving DecidableEq

structure TargetEpochDrift where
  kind : TargetMemberKind
  id : Nat
  expected : Nat
  observed : Nat
  deriving DecidableEq

/-- Where an intent stands. -/
inductive CommitIntentState where
  | pending
  | authorized
  | completed
  | aborted
  | recoveryRequired
  deriving DecidableEq

def CommitIntentState.asStr : CommitIntentState → String
  | pending => "pending"
  | authorized => "authorized"
  | completed => "completed"
  | aborted => "aborted"
  | recoveryRequired => "recovery_required"

/-- The states in which an intent locks its rows. -/
def CommitIntentState.inFlight : CommitIntentState → Bool
  | pending | authorized => true
  | completed | aborted | recoveryRequired => false

/-- A row of `commit_intents`. -/
structure IntentRow (Proposal : Type) where
  target : CommitTarget Proposal
  closureInitial : AffectedScopeClosure
  closureAuthorized : Option AffectedScopeClosure
  acceptedEvidenceIds : List EvidenceId
  overrideToken : Option ForcePathToken
  targetRowEpochs : Option (List TargetRowEpochTriple)
  state : CommitIntentState
  abortReason : Option String
  recoveryReason : Option String
  epoch : Nat
  deriving DecidableEq

/-- The closure of the last walk that the intent passed. -/
def IntentRow.closure {Proposal : Type} (row : IntentRow Proposal) : AffectedScopeClosure :=
  match row.state with
  | .pending => row.closureInitial
  | _ => row.closureAuthorized.getD row.closureInitial

inductive AbortReason where
  | operatorCancel
  | mutationFailed
  | closureGrew
  | closureIncomplete
  | freshLease
  | staleEvidence
  | staleTargetEpoch
  | other (reason : String)
  deriving DecidableEq

/-- The reason as `Debug` writes it. -/
def AbortReason.name : AbortReason → String
  | operatorCancel => "OperatorCancel"
  | mutationFailed => "MutationFailed"
  | closureGrew => "ClosureGrew"
  | closureIncomplete => "ClosureIncomplete"
  | freshLease => "FreshLease"
  | staleEvidence => "StaleEvidence"
  | staleTargetEpoch => "StaleTargetEpoch"
  | other reason => "Other(" ++ reason.quote ++ ")"

inductive ClosureFailure where
  | aliasUnreachable (message : String)
  deriving DecidableEq

/-- The gate's verdict. -/
inductive CommitGateResult where
  | allowed
  | cancelledAfterAuthorize
  | blockedByUseLease (leaseId : UseLeaseId) (leaseScope : LeaseScope)
  | blockedByPendingCommit (commitId : CommitId) (offendingScope : LeaseScope)
  | blockedByStaleEvidence (evidenceId : EvidenceId) (drift : EvidenceDrift)
  | blockedByClosureIncomplete (reason : ClosureFailure) (unreachable : List String)
  | blockedByClosureGrew (delta : ClosureMemberDelta)
  | blockedByStaleTargetEpoch (drift : List TargetEpochDrift)
  | blockedByMutationFailed (error : VoomError)
  deriving DecidableEq

/-! ## Use leases -/

/-- Who uses a file. -/
inductive UseLeaseKind where
  | playback
  | scan
  | copy
  | manualLock
  | externalLock
  | workerOperation
  deriving DecidableEq

def UseLeaseKind.name : UseLeaseKind → String
  | playback => "Playback"
  | scan => "Scan"
  | copy => "Copy"
  | manualLock => "ManualLock"
  | externalLock => "ExternalLock"
  | workerOperation => "WorkerOperation"

inductive BlockingMode where
  | blocking
  | advisory
  deriving DecidableEq

inductive UseLeaseReleaseReason where
  | released
  | expired
  | issuerLost
  | superseded
  | forceReleased
  deriving DecidableEq

def UseLeaseReleaseReason.name : UseLeaseReleaseReason → String
  | released => "Released"
  | expired => "Expired"
  | issuerLost => "IssuerLost"
  | superseded => "Superseded"
  | forceReleased => "ForceReleased"

structure NewUseLease where
  kind : UseLeaseKind
  scope : LeaseScope
  blockingMode : BlockingMode
  /-- `none` for manual locks. -/
  ttl : Option Int
  acquiredAt : Instant
  deriving DecidableEq

/-- A row of `asset_use_leases`. -/
structure UseLease where
  kind : UseLeaseKind
  scope : LeaseScope
  blockingMode : BlockingMode
  ttlBound : Bool
  acquiredAt : Instant
  expiresAt : Option Instant
  lastHeartbeatAt : Option Instant
  releaseReason : Option UseLeaseReleaseReason
  deriving DecidableEq

/-- The lease counts for the gate at `now`: one that is due does not, swept or not. -/
def UseLease.blocks (lease : UseLease) (now : Instant) : Bool :=
  lease.releaseReason.isNone &&
    (!lease.ttlBound || lease.expiresAt.all fun expiresAt => now ≤ expiresAt) &&
    lease.blockingMode = .blocking

/-! ## The store and its views -/

/-- The tables of the gate. -/
structure GateStore (Proposal : Type) where
  intents : List (IntentRow Proposal)
  /-- `commit_intent_scope_members`. -/
  members : List (CommitId × LeaseScope)
  leases : List UseLease
  /-- The time of the last call. -/
  clock : Instant
  deriving DecidableEq

inductive GatePhase where
  | prepare
  | authorize
  deriving DecidableEq

/-- Why `prepare` refuses a commit; the closure walk uses `closureIncomplete` only. -/
inductive PhaseAAbort where
  | useLease (leaseId : UseLeaseId) (leaseScope : LeaseScope)
  | staleEvidence (evidenceId : EvidenceId) (drift : EvidenceDrift)
  | closureIncomplete (message : String)
  | pendingCommit (pendingCommitId : CommitId) (offendingScope : LeaseScope)
  deriving DecidableEq

def closureIncompleteResult (message : String) : CommitGateResult :=
  .blockedByClosureIncomplete (.aliasUnreachable message) [message]

def PhaseAAbort.result : PhaseAAbort → CommitGateResult
  | .useLease leaseId leaseScope => .blockedByUseLease leaseId leaseScope
  | .staleEvidence evidenceId drift => .blockedByStaleEvidence evidenceId drift
  | .closureIncomplete message => closureIncompleteResult message
  | .pendingCommit commitId offendingScope => .blockedByPendingCommit commitId offendingScope

def PhaseAAbort.abortReasonStr : PhaseAAbort → String
  | .useLease _ _ => "fresh_lease"
  | .staleEvidence _ _ => "stale_evidence"
  | .closureIncomplete _ => "closure_incomplete"
  | .pendingCommit _ _ => "pending_commit"

/-- Why `authorize` gives an intent up. -/
inductive PhaseBAbort where
  | useLease (leaseId : UseLeaseId) (leaseScope : LeaseScope)
  | staleEvidence (evidenceId : EvidenceId) (drift : EvidenceDrift)
  | closureIncomplete (message : String)
  | closureGrew (delta : ClosureMemberDelta)
  deriving DecidableEq

def PhaseBAbort.result : PhaseBAbort → CommitGateResult
  | .useLease leaseId leaseScope => .blockedByUseLease leaseId leaseScope
  | .staleEvidence evidenceId drift => .blockedByStaleEvidence evidenceId drift
  | .closureIncomplete message => closureIncompleteResult message
  | .closureGrew delta => .blockedByClosureGrew delta

def PhaseBAbort.abortReasonStr : PhaseBAbort → String
  | .useLease _ _ => "fresh_lease"
  | .staleEvidence _ _ => "stale_evidence"
  | .closureIncomplete _ => "closure_incomplete"
  | .closureGrew _ => "closure_grew"

/-- What a call of the gate sees of the tables it does not write. -/
structure GateView (Proposal : Type) where
  walk : CommitTarget Proposal → GatePhase → List BypassKind →
    Except VoomError (Except PhaseAAbort AffectedScopeClosure)
  revalidate : List EvidenceId → Except VoomError (List EvidenceRevalidationResult)
  /-- The row a member refers to is there. -/
  hasRow : LeaseScope → Bool
  rowEpoch : TargetMemberKind → Nat → Option Nat
  /-- The identity mutation of `finalize`. -/
  dispatch : CommitTarget Proposal → List TargetRowEpochTriple → Except VoomError Unit
  appendEvent : Except VoomError Unit

/-! ### The closure walk -/

inductive AliasResolutionError where
  | unreachable (message : String)
  | database (message : String)
  deriving DecidableEq

structure FileLocationRow where
  fileVersionId : FileVersionId
  retired : Bool
  deriving DecidableEq

/-- The rows a closure is built from. -/
structure IdentityTables where
  location : FileLocationId → Option FileLocationRow
  /-- The asset of a version. -/
  version : FileVersionId → Option FileAssetId
  liveLocations : FileVersionId → List FileLocationId
  bundles : FileAssetId → List BundleId

/-- Everything a commit touches. -/
def buildClosure {Proposal : Type} (tables : IdentityTables)
    (aliases : FileVersionId → Except AliasResolutionError (List FileLocationId))
    (target : CommitTarget Proposal) (phase : GatePhase) (bypass : List BypassKind) :
    Except VoomError (Except PhaseAAbort AffectedScopeClosure) :=
  match tables.location target.retired with
  | none =>
      .ok (.error (.closureIncomplete s!"target file_location {target.retired} not found"))
  | some location =>
    if phase = .prepare ∧ location.retired then
      .ok (.error (.closureIncomplete s!"target file_location {target.retired} already retired"))
    else
      match tables.version location.fileVersionId with
      | none =>
          .ok (.error (.closureIncomplete
            s!"target file_version {location.fileVersionId} not found"))
      | some assetId =>
        let live := SortedSet.ofList (tables.liveLocations location.fileVersionId)
        -- a retired target falls out of the closure of `authorize`
        let closure (external : List FileLocationId) (warnings : List String) :=
          let locations := live.extend external
          ({ fileAssets := .ofList [assetId]
             fileVersions := .ofList [location.fileVersionId]
             fileLocations :=
               if phase = .prepare then locations.insert target.retired else locations
             bundles := .ofList (tables.bundles assetId)
             resolutionWarnings := warnings } : AffectedScopeClosure)
        match aliases location.fileVersionId with
        | .ok external => .ok (.ok (closure external []))
        | .error (.unreachable message) =>
            if .closureIncomplete ∈ bypass then
              .ok (.ok (closure [] [s!"force-path bypass honored: {message}"]))
            else .ok (.error (.closureIncomplete message))
        | .error (.database message) => .error (.database s!"alias resolver: {message}")

namespace GateStore
variable {Proposal : Type}

def empty (clock : Instant) : GateStore Proposal := ⟨[], [], [], clock⟩

/-! ## Locks -/

/-- The intent in flight that has the scope as a member: the first, by id. -/
def consultPendingCommitLock (s : GateStore Proposal) (scope : LeaseScope) :
    Option (CommitId × LeaseScope) :=
  (s.intents.zipIdx.find? fun (row, id) => row.state.inFlight && (id, scope) ∈ s.members).map
    fun (_, id) => (id, scope)

/-- An intent in flight on the closure. -/
def firstPendingCommitOverlap (s : GateStore Proposal) (closure : AffectedScopeClosure) :
    Option (CommitId × LeaseScope) :=
  closure.fineToCoarse.findSome? s.consultPendingCommitLock

/-- The live leases that block it. -/
def blockingLeaseRows (s : GateStore Proposal) (closure : AffectedScopeClosure) (now : Instant) :
    List (UseLeaseId × LeaseScope) :=
  s.leases.zipIdx.filterMap fun (lease, id) =>
    if lease.blocks now ∧ lease.scope ∈ closure.scopes then some (id, lease.scope) else none

def listBlockingLeases (s : GateStore Proposal) (closure : AffectedScopeClosure) (now : Instant) :
    List UseLeaseId :=
  (s.blockingLeaseRows closure now).map (·.1)

def firstBlockingOverlap (s : GateStore Proposal) (closure : AffectedScopeClosure)
    (now : Instant) : Option (UseLeaseId × LeaseScope) :=
  (s.blockingLeaseRows closure now).head?

def firstEvidenceDrift (results : List EvidenceRevalidationResult) :
    Option (EvidenceId × EvidenceDrift) :=
  results.findSome? fun result => result.drift.map fun drift => (result.evidenceId, drift)

/-! ## `prepare` -/

structure GateWalk where
  closure : AffectedScopeClosure
  evaluatedLeaseIds : List UseLeaseId
  revalidatedEvidence : List EvidenceRevalidationResult
  deriving DecidableEq

structure CommitIntent where
  commitId : CommitId
  closureInitial : AffectedScopeClosure
  evaluatedLeaseIds : List UseLeaseId
  revalidatedEvidence : List EvidenceRevalidationResult
  epoch : Nat
  deriving DecidableEq

inductive PrepareOutcome where
  | pending (intent : CommitIntent)
  | blocked (commitId : CommitId) (result : CommitGateResult)
  deriving DecidableEq

def bypassSet (token : Option ForcePathToken) : List BypassKind := (token.map (·.bypass)).getD []

/-- The checks of `prepare`; a commit that is refused comes with the closure walked so far. -/
def runPhaseAGate (view : GateView Proposal) (s : GateStore Proposal)
    (input : DestructiveCommit Proposal) (now : Instant) :
    Except VoomError (Except (AffectedScopeClosure × PhaseAAbort) GateWalk) := do
  let walked ← view.walk input.target .prepare (bypassSet input.overrideToken)
  match walked with
  | .error abort => return .error (.empty, abort)
  | .ok closure =>
    match s.firstBlockingOverlap closure now with
    | some (leaseId, leaseScope) => return .error (closure, .useLease leaseId leaseScope)
    | none =>
      let revalidated ← view.revalidate input.acceptedEvidenceIds
      match firstEvidenceDrift revalidated with
      | some (evidenceId, drift) => return .error (closure, .staleEvidence evidenceId drift)
      | none =>
        match s.firstPendingCommitOverlap closure with
        | some (commitId, scope) => return .error (closure, .pendingCommit commitId scope)
        | none => return .ok ⟨closure, s.listBlockingLeases closure now, revalidated⟩

/-- The row `prepare` writes for a commit it takes up. -/
def pendingRow (input : DestructiveCommit Proposal) (closure : AffectedScopeClosure) :
    IntentRow Proposal where
  target := input.target
  closureInitial := closure
  closureAuthorized := none
  acceptedEvidenceIds := input.acceptedEvidenceIds
  overrideToken := input.overrideToken
  targetRowEpochs := none
  state := .pending
  abortReason := none
  recoveryReason := none
  epoch := 0

/-- The row it writes for a commit it refuses. -/
def refusedRow (input : DestructiveCommit Proposal) (closure : AffectedScopeClosure)
    (abort : PhaseAAbort) : IntentRow Proposal :=
  { pendingRow input closure with
    overrideToken := none
    state := .aborted
    abortReason := some abort.abortReasonStr }

def insertMember (view : GateView Proposal) (commitId : CommitId)
    (members : List (CommitId × LeaseScope)) (scope : LeaseScope) :
    Except VoomError (List (CommitId × LeaseScope)) := do
  require (view.hasRow scope) (.database s!"scope_members {scope.typeStr} insert")
  return members ++ [(commitId, scope)]

def expandScopeMembers (view : GateView Proposal) (commitId : CommitId)
    (closure : AffectedScopeClosure) (members : List (CommitId × LeaseScope)) :
    Except VoomError (List (CommitId × LeaseScope)) :=
  closure.scopes.foldlM (insertMember view commitId) members

/-- The transaction of a commit that passes the checks. -/
def recordIntent (view : GateView Proposal) (s : GateStore Proposal)
    (input : DestructiveCommit Proposal) (walk : GateWalk) :
    Except VoomError (PrepareOutcome × GateStore Proposal) := do
  let commitId := s.intents.length
  let members ← expandScopeMembers view commitId walk.closure s.members
  view.appendEvent
  return (.pending ⟨commitId, walk.closure, walk.evaluatedLeaseIds, walk.revalidatedEvidence, 0⟩,
    { s with intents := s.intents ++ [pendingRow input walk.closure], members := members })

/-- A refused commit leaves an aborted intent, also when its event cannot be written. -/
def prepare (view : GateView Proposal) (s : GateStore Proposal)
    (input : DestructiveCommit Proposal) (now : Instant) :
    Except VoomError PrepareOutcome × GateStore Proposal :=
  match s.runPhaseAGate view input now with
  | .error e => (.error e, s)
  | .ok (.error (closure, abort)) =>
      (view.appendEvent.map fun _ => .blocked s.intents.length abort.result,
        { s with intents := s.intents ++ [refusedRow input closure abort] })
  | .ok (.ok walk) =>
    match s.recordIntent view input walk with
    | .error e => (.error e, s)
    | .ok (outcome, s') => (.ok outcome, s')

/-! ## `authorize` -/

/-- Leave to mutate, for one finalize. -/
structure CommitPermit where
  commitId : CommitId
  closureAuthorized : AffectedScopeClosure
  evaluatedLeaseIds : List UseLeaseId
  revalidatedEvidence : List EvidenceRevalidationResult
  epoch : Nat
  deriving DecidableEq

inductive AuthorizeOutcome where
  | authorized (permit : CommitPermit)
  | blocked (commitId : CommitId) (result : CommitGateResult)
  deriving DecidableEq

def setIntent (s : GateStore Proposal) (commitId : CommitId) (row : IntentRow Proposal) :
    GateStore Proposal :=
  { s with intents := s.intents.set commitId row }

def readPendingIntent (s : GateStore Proposal) (commitId : CommitId) :
    Except VoomError (IntentRow Proposal) := do
  let row ← find s.intents[commitId]?
    (.conflict s!"authorize: commit_intents row {commitId} not found")
  require (row.state = .pending)
    (.conflict (s!"authorize: commit_intents row {commitId} is in state " ++
      row.state.asStr.quote ++ ", expected 'pending'"))
  return row

/-- The checks of `authorize`, over the closure as it is now. -/
def runPhaseBGate (view : GateView Proposal) (s : GateStore Proposal) (row : IntentRow Proposal)
    (now : Instant) : Except VoomError (Except PhaseBAbort GateWalk) := do
  let walked ← view.walk row.target .authorize (bypassSet row.overrideToken)
  match walked with
  | .error (.closureIncomplete message) => return .error (.closureIncomplete message)
  | .error _ => .error (.internal "authorize: unexpected closure-walk abort kind")
  | .ok closure =>
    let delta := row.closureInitial.idMemberDelta closure
    if delta.isEmpty = false then return .error (.closureGrew delta)
    else
      match s.firstBlockingOverlap closure now with
      | some (leaseId, leaseScope) => return .error (.useLease leaseId leaseScope)
      | none =>
        let revalidated ← view.revalidate row.acceptedEvidenceIds
        match firstEvidenceDrift revalidated with
        | some (evidenceId, drift) => return .error (.staleEvidence evidenceId drift)
        | none => return .ok ⟨closure, s.listBlockingLeases closure now, revalidated⟩

/-- The members of a closure as the epoch snapshot names them. -/
def snapshotMembers (closure : AffectedScopeClosure) : List (TargetMemberKind × Nat) :=
  closure.fileAssets.elems.map (.fileAsset, ·) ++
    closure.fileVersions.elems.map (.fileVersion, ·) ++
    closure.fileLocations.elems.map (.fileLocation, ·) ++ closure.bundles.elems.map (.bundle, ·)

/-- The epochs of the rows touched. -/
def snapshotTargetRowEpochs (view : GateView Proposal) (closure : AffectedScopeClosure) :
    List TargetRowEpochTriple :=
  (snapshotMembers closure).filterMap fun (kind, id) =>
    (view.rowEpoch kind id).map fun epoch => ⟨kind, id, epoch⟩

/-- Remove the members that are gone and insert those that are new. -/
def reconcileScopeMembers (view : GateView Proposal) (commitId : CommitId)
    (initial authorized : AffectedScopeClosure) (members : List (CommitId × LeaseScope)) :
    Except VoomError (List (CommitId × LeaseScope)) :=
  let delta := initial.idMemberDelta authorized
  let removed := AffectedScopeClosure.scopesOf delta.removedAssets delta.removedBundles
    delta.removedVersions delta.removedLocations
  let added := AffectedScopeClosure.scopesOf delta.addedAssets delta.addedBundles
    delta.addedVersions delta.addedLocations
  added.foldlM (insertMember view commitId)
    (members.filter fun member => ¬ (member.1 = commitId ∧ member.2 ∈ removed))

/-- An intent that is given up. -/
def abortedRow (row : IntentRow Proposal) (reason : String) : IntentRow Proposal :=
  { row with state := .aborted, abortReason := some reason, epoch := row.epoch + 1 }

def authorizedRow (view : GateView Proposal) (row : IntentRow Proposal)
    (closure : AffectedScopeClosure) : IntentRow Proposal :=
  { row with
    state := .authorized
    closureAuthorized := some closure
    targetRowEpochs := some (snapshotTargetRowEpochs view closure)
    epoch := row.epoch + 1 }

def finalizePhaseB (view : GateView Proposal) (s : GateStore Proposal) (commitId : CommitId)
    (row : IntentRow Proposal) (walk : GateWalk) :
    Except VoomError (AuthorizeOutcome × GateStore Proposal) := do
  let members ← reconcileScopeMembers view commitId row.closureInitial walk.closure s.members
  view.appendEvent
  return (.authorized ⟨commitId, walk.closure, walk.evaluatedLeaseIds, walk.revalidatedEvidence,
      row.epoch + 1⟩,
    { s.setIntent commitId (authorizedRow view row walk.closure) with members := members })

/-- Phase B: a permit, or an abort. -/
def authorize (view : GateView Proposal) (s : GateStore Proposal) (commitId : CommitId)
    (now : Instant) : Except VoomError (AuthorizeOutcome × GateStore Proposal) := do
  let row ← s.readPendingIntent commitId
  let gate ← s.runPhaseBGate view row now
  match gate with
  | .error abort =>
      view.appendEvent
      return (.blocked commitId abort.result,
        s.setIntent commitId (abortedRow row abort.abortReasonStr))
  | .ok walk => s.finalizePhaseB view commitId row walk

/-! ## `finalize` and `abort` -/

/-- What the caller says it did. -/
inductive MutationOutcome where
  | applied (observed : Option AffectedScopeClosure)
  | notPerformed
  deriving DecidableEq

structure CommitGateOutcome where
  commitId : CommitId
  closureInitial : AffectedScopeClosure
  closureAuthorized : AffectedScopeClosure
  closureFinal : AffectedScopeClosure
  evaluatedLeaseIds : List UseLeaseId
  revalidatedEvidence : List EvidenceRevalidationResult
  result : CommitGateResult
  deriving DecidableEq

/-- The columns of an authorized intent that `finalize` reads. -/
structure AuthorizedIntent (Proposal : Type) where
  row : IntentRow Proposal
  closureAuthorized : AffectedScopeClosure
  targetRowEpochs : List TargetRowEpochTriple
  deriving DecidableEq

def readAuthorizedIntent (s : GateStore Proposal) (commitId : CommitId) (expectedEpoch : Nat) :
    Except VoomError (AuthorizedIntent Proposal) := do
  let row ← find s.intents[commitId]?
    (.conflict s!"finalize: commit_intents row {commitId} not found")
  require (row.state = .authorized)
    (.conflict (s!"finalize: commit_intents row {commitId} is in state " ++
      row.state.asStr.quote ++ ", expected 'authorized'"))
  require (row.epoch = expectedEpoch)
    (.conflict (s!"finalize: commit_intents row {commitId} epoch {row.epoch} " ++
      s!"!= permit epoch {expectedEpoch}"))
  let missing (column : String) : VoomError :=
    .internal (s!"finalize: commit_intents row {commitId} is authorized but {column} is NULL; " ++
      "migration 0005 CHECK should have prevented this")
  let closureAuthorized ← find row.closureAuthorized (missing "closure_authorized")
  let targetRowEpochs ← find row.targetRowEpochs (missing "target_row_epochs")
  return ⟨row, closureAuthorized, targetRowEpochs⟩

/-- The members whose epoch is not that of the snapshot; a row that is gone has the largest
`u64` as its epoch. -/
def perMemberEpochDrift (view : GateView Proposal) (closure : AffectedScopeClosure)
    (snapshot : List TargetRowEpochTriple) : Except VoomError (List TargetEpochDrift) := do
  let checked ← (snapshotMembers closure).mapM fun (kind, id) => do
    -- a later triple of one member replaces an earlier one
    let triple ← find (snapshot.reverse.find? fun t => t.kind = kind && t.id = id)
      (.internal (s!"finalize: closure_authorized member ({kind.name}, {id}) " ++
        "absent from target_row_epochs snapshot"))
    let observed := (view.rowEpoch kind id).getD ((1 <<< 64) - 1)
    return (⟨kind, id, triple.epoch, observed⟩ : TargetEpochDrift)
  return checked.filter fun drift => drift.observed ≠ drift.expected

inductive PhaseCRecheck where
  | pass (closureFinal : AffectedScopeClosure)
  | trip (recoveryReason : String) (closureFinal : AffectedScopeClosure)
      (result : CommitGateResult)
  deriving DecidableEq

/-- The checks after the file system has been changed: epochs first, then the closure, then
leases. -/
def runPhaseCTripWires (view : GateView Proposal) (s : GateStore Proposal)
    (intent : AuthorizedIntent Proposal) (permit : CommitPermit)
    (observed : Option AffectedScopeClosure) (now : Instant) : Except VoomError PhaseCRecheck := do
  let walked ← view.walk intent.row.target .authorize []
  match walked with
  | .error _ =>
      .error (.internal (s!"finalize: closure walker reported abort during Phase C recompute on " ++
        s!"commit {permit.commitId} — alias resolver should have observed the same closure " ++
        "as Phase B"))
  | .ok closure =>
    let closureFinal := closure.mergeObserved observed
    let drift ← perMemberEpochDrift view permit.closureAuthorized intent.targetRowEpochs
    let delta := permit.closureAuthorized.idMemberDelta closureFinal
    if drift ≠ [] then
      return .trip "stale_target_epoch" closureFinal (.blockedByStaleTargetEpoch drift)
    else
      match delta.isEmpty, s.firstBlockingOverlap closureFinal now with
      | false, some _ =>
          return .trip "closure_grew_and_fresh_lease" closureFinal (.blockedByClosureGrew delta)
      | false, none => return .trip "closure_grew" closureFinal (.blockedByClosureGrew delta)
      | true, some (leaseId, leaseScope) =>
          return .trip "fresh_lease" closureFinal (.blockedByUseLease leaseId leaseScope)
      | true, none => return .pass closureFinal

/-- An intent that has to be recovered. -/
def recoveryRow (row : IntentRow Proposal) (reason : String) : IntentRow Proposal :=
  { row with state := .recoveryRequired, recoveryReason := some reason, epoch := row.epoch + 1 }

def completedRow (row : IntentRow Proposal) : IntentRow Proposal :=
  { row with state := .completed, epoch := row.epoch + 1 }

/-- What is done under the savepoint of an applied commit. -/
def finalizeAppliedInner (view : GateView Proposal) (s : GateStore Proposal)
    (intent : AuthorizedIntent Proposal) (permit : CommitPermit)
    (observed : Option AffectedScopeClosure) (now : Instant) :
    Except VoomError (IntentRow Proposal × AffectedScopeClosure × CommitGateResult) := do
  let recheck ← s.runPhaseCTripWires view intent permit observed now
  match recheck with
  | .pass closureFinal =>
      view.dispatch intent.row.target intent.targetRowEpochs
      view.appendEvent
      return (completedRow intent.row, closureFinal, .allowed)
  | .trip reason closureFinal result =>
      view.appendEvent
      return (recoveryRow intent.row reason, closureFinal, result)

inductive FinalizeOutcome where
  | completed (outcome : CommitGateOutcome)
  | cancelledAfterAuthorize (outcome : CommitGateOutcome)
  | blocked (outcome : CommitGateOutcome)
  deriving DecidableEq

def finalizeOutcome (outcome : CommitGateOutcome) : FinalizeOutcome :=
  match outcome.result with
  | .allowed => .completed outcome
  | .cancelledAfterAuthorize => .cancelledAfterAuthorize outcome
  | _ => .blocked outcome

/-- Once the file system has been changed, any failure leaves the intent to be recovered. -/
def finalizeRow (view : GateView Proposal) (s : GateStore Proposal)
    (intent : AuthorizedIntent Proposal) (permit : CommitPermit) (now : Instant) :
    MutationOutcome → IntentRow Proposal × AffectedScopeClosure × CommitGateResult
  | .notPerformed =>
      (abortedRow intent.row "operator_cancel", intent.closureAuthorized, .cancelledAfterAuthorize)
  | .applied observed =>
    match s.finalizeAppliedInner view intent permit observed now with
    | .ok done => done
    | .error inner =>
        (recoveryRow intent.row "mutation_failed", .empty, .blockedByMutationFailed inner)

/-- Phase C: the end of a permit. -/
def finalize (view : GateView Proposal) (s : GateStore Proposal) (permit : CommitPermit)
    (outcome : MutationOutcome) (now : Instant) :
    Except VoomError (FinalizeOutcome × GateStore Proposal) := do
  let intent ← s.readAuthorizedIntent permit.commitId permit.epoch
  let (row, closureFinal, result) := s.finalizeRow view intent permit now outcome
  view.appendEvent
  return (finalizeOutcome
      ⟨permit.commitId, intent.row.closureInitial, intent.closureAuthorized, closureFinal,
        permit.evaluatedLeaseIds, permit.revalidatedEvidence, result⟩,
    s.setIntent permit.commitId row)

def callerAbortReasonStr : AbortReason → Except VoomError String
  | .operatorCancel => .ok "operator_cancel"
  | .mutationFailed => .ok "mutation_failed"
  | .other _ => .ok "other"
  | reason => .error
      (.config (s!"abort: {reason.name} is a gate-driven or post-mutation variant; " ++
        "callers may only pass OperatorCancel, MutationFailed, or Other(_)"))

/-- The caller gives up an intent. -/
def abort (s : GateStore Proposal) (commitId : CommitId) (reason : AbortReason) :
    Except VoomError (GateStore Proposal) := do
  let reasonStr ← callerAbortReasonStr reason
  let row ← s.readPendingIntent commitId
  return s.setIntent commitId (abortedRow row reasonStr)

/-! ## The calls of the lease table -/

/-- What `acquire` sees of the other tables. -/
structure LeaseView where
  /-- Whether the row of the scope is retired, when it is there. -/
  retired : LeaseScope → Option Bool
  /-- The lock of the artifact commits. -/
  artifactIntentLock : LeaseScope → Option String

def validateAcquireInput (input : NewUseLease) : Except VoomError Unit :=
  match input.kind, input.ttl with
  | .manualLock, some _ => .error (.config "manual locks must not carry a TTL")
  | .manualLock, none => .ok ()
  | kind, none => .error (.config s!"TTL-bound lease kind {kind.name} requires a positive TTL")
  | _, some ttl =>
      if ttl ≤ 0 then .error (.config s!"TTL must be positive; got {ttl}") else .ok ()

def newUseLease (input : NewUseLease) : UseLease where
  kind := input.kind
  scope := input.scope
  blockingMode := input.blockingMode
  ttlBound := input.kind ≠ .manualLock
  acquiredAt := input.acquiredAt
  expiresAt := input.ttl.map (input.acquiredAt + ·)
  lastHeartbeatAt := none
  releaseReason := none

/-- A use lease, unless a commit is in flight. -/
def acquire (view : LeaseView) (s : GateStore Proposal) (input : NewUseLease) :
    Except VoomError (GateStore Proposal) := do
  validateAcquireInput input
  let scope := s!"use_lease scope {input.scope.typeStr} {input.scope.idU64}"
  let retired ← find (view.retired input.scope) (.notFound s!"{scope} not found")
  require (retired = false) (.conflict s!"{scope} is retired")
  match s.consultPendingCommitLock input.scope with
  | some (commitId, offending) =>
      .error (.conflict (s!"{scope} blocked by in-flight commit {commitId} on offending scope " ++
        s!"{offending.typeStr} {offending.idU64}"))
  | none =>
    match view.artifactIntentLock input.scope with
    | some reason => .error (.conflict s!"{scope} blocked by {reason}")
    | none => return { s with leases := s.leases ++ [newUseLease input] }

/-- The lease as a heartbeat leaves it: due again after the time it was granted for. -/
def renewed (lease : UseLease) (expiresAt now : Instant) : UseLease :=
  { lease with
    lastHeartbeatAt := some now
    expiresAt := some (now + (expiresAt - lease.lastHeartbeatAt.getD lease.acquiredAt)) }

/-- The lease lives on. -/
def heartbeat (s : GateStore Proposal) (leaseId : UseLeaseId) (now : Instant) :
    Except VoomError (GateStore Proposal) := do
  let lease ← find s.leases[leaseId]? (.notFound s!"use_lease {leaseId} not found")
  require (lease.releaseReason = none) (.conflict s!"use_lease {leaseId} is already terminal")
  require lease.ttlBound (.conflict "manual locks do not heartbeat")
  let expiresAt ← find lease.expiresAt
    (.database "TTL-bound lease missing expires_at — schema CHECK should have caught this")
  return { s with leases := s.leases.set leaseId (renewed lease expiresAt now) }

/-- The live leases that are picked end for a reason. -/
def endLeases (s : GateStore Proposal) (picked : UseLeaseId → Bool)
    (reason : UseLeaseReleaseReason) : GateStore Proposal :=
  { s with
    leases := s.leases.mapIdx fun id lease =>
      if picked id ∧ lease.releaseReason = none then { lease with releaseReason := some reason }
      else lease }

/-- `UPDATE … WHERE id = ? AND release_reason IS NULL`, and why no row was updated. -/
def endLease (s : GateStore Proposal) (leaseId : UseLeaseId) (reason : UseLeaseReleaseReason) :
    Except VoomError (GateStore Proposal) := do
  let lease ← find s.leases[leaseId]? (.notFound s!"use_lease {leaseId} not found")
  require (lease.releaseReason = none) (.conflict s!"use_lease {leaseId} already terminal")
  return s.endLeases (· = leaseId) reason

def release (s : GateStore Proposal) (leaseId : UseLeaseId) (reason : UseLeaseReleaseReason) :
    Except VoomError (GateStore Proposal) := do
  require (reason = .released ∨ reason = .superseded)
    (.config s!"SqliteUseLeaseRepo::release accepts Released or Superseded only; got {reason.name}")
  s.endLease leaseId reason

def forceRelease (s : GateStore Proposal) (leaseId : UseLeaseId) :
    Except VoomError (GateStore Proposal) :=
  s.endLease leaseId .forceReleased

def recoverStaleIssuer (s : GateStore Proposal) (leaseId : UseLeaseId) :
    Except VoomError (GateStore Proposal) := do
  let lease ← find s.leases[leaseId]? (.notFound s!"use_lease {leaseId} not found")
  require (lease.releaseReason = none) (.conflict s!"use_lease {leaseId} already terminal")
  require (lease.ttlBound = false)
    (.config "recover_stale_issuer applies to manual locks only")
  return s.endLeases (· = leaseId) .issuerLost

/-- How many leases one sweep ends at most. -/
def USE_LEASE_BATCH_LIMIT : Nat := 1000

/-- The due leases, by id. -/
def dueLeases (s : GateStore Proposal) (now : Instant) : List UseLeaseId :=
  (s.leases.zipIdx.filter fun (lease, _) =>
    lease.releaseReason.isNone && lease.ttlBound && lease.expiresAt.any (· < now)).map (·.2)

/-- Leases that are due are released. -/
def expireDue (s : GateStore Proposal) (now : Instant) : GateStore Proposal :=
  let batch := (s.dueLeases now).take USE_LEASE_BATCH_LIMIT
  s.endLeases (fun id => id ∈ batch) .expired

/-! ## Runs -/

/-- The calls of the gate. -/
inductive GateCall (Proposal : Type) where
  | prepare (view : GateView Proposal) (input : DestructiveCommit Proposal)
  | authorize (view : GateView Proposal) (commitId : CommitId)
  | finalize (view : GateView Proposal) (permit : CommitPermit) (outcome : MutationOutcome)
  | abort (commitId : CommitId) (reason : AbortReason)
  | acquire (view : LeaseView) (kind : UseLeaseKind) (scope : LeaseScope)
      (blockingMode : BlockingMode) (ttl : Option Int)
  | heartbeat (leaseId : UseLeaseId)
  | release (leaseId : UseLeaseId) (reason : UseLeaseReleaseReason)
  | forceRelease (leaseId : UseLeaseId)
  | recoverStaleIssuer (leaseId : UseLeaseId)
  | expireDue

/-- A call, and the time it is made at. -/
structure GateEvent (Proposal : Type) where
  now : Instant
  call : GateCall Proposal

/-- The tables after a call that may be rejected: a rejected one is rolled back. -/
def orRolledBack (s : GateStore Proposal) : Except VoomError (GateStore Proposal) →
    GateStore Proposal
  | .ok s' => s'
  | .error _ => s

def call (s : GateStore Proposal) (now : Instant) : GateCall Proposal → GateStore Proposal
  | .prepare view input => (s.prepare view input now).2
  | .authorize view commitId => s.orRolledBack ((s.authorize view commitId now).map (·.2))
  | .finalize view permit outcome =>
      s.orRolledBack ((s.finalize view permit outcome now).map (·.2))
  | .abort commitId reason => s.orRolledBack (s.abort commitId reason)
  | .acquire view kind scope blockingMode ttl =>
      s.orRolledBack (s.acquire view ⟨kind, scope, blockingMode, ttl, now⟩)
  | .heartbeat leaseId => s.orRolledBack (s.heartbeat leaseId now)
  | .release leaseId reason => s.orRolledBack (s.release leaseId reason)
  | .forceRelease leaseId => s.orRolledBack (s.forceRelease leaseId)
  | .recoverStaleIssuer leaseId => s.orRolledBack (s.recoverStaleIssuer leaseId)
  | .expireDue => s.expireDue now

def step (s : GateStore Proposal) (e : GateEvent Proposal) : Option (GateStore Proposal) :=
  some { s.call e.now e.call with clock := e.now }

end GateStore

end Voom
