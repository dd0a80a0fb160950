import VoomProof.IdentityStore
import VoomProof.Json
import VoomProof.RustPath

/-!
# Publishing what a scan has seen

A scan session sends observations of the files below a storage root. An observation may carry
evidence: the hash and size that hashing and probing agreed on, the device and inode, and the
sidecar files that go with it (`taxonomy/scan_evidence.rs`). When the session completes, every
observation with evidence is published (`voom-control-plane/src/scan/publish.rs`). A file whose
address is known is left alone if the bytes are the same; a new name of a known inode becomes
one more location of its version; anything else becomes a new asset. Sidecars become members of
the bundle of their primary file.

Publication only adds rows (`Grows`, `publishSessionEvidence_ok`). Events and time stamps are
left out.
-/

namespace Voom
open Fallible RustText List

/-! ## Locators and evidence -/

/-- The reason why a locator is refused. -/
def relativeLocatorProblem (value : String) : Option String :=
  let text := value.toList
  let parts := text.splitOnP (· = '/')
  if value.isEmpty then some "must not be empty"
  else if 4096 < value.utf8ByteSize then some "must be at most 4096 UTF-8 bytes"
  else if '\x00' ∈ text then some "must not contain NUL"
  else if text.head? = some '/' ∨ text.getLast? = some '/' then
    some "must not be absolute or end with a separator"
  else if '\\' ∈ text then some "must use forward-slash separators"
  else if (match parts.head? with
      | some (drive :: ':' :: _) => drive.isAlpha
      | _ => false) then
    some "must not contain a platform path prefix"
  else if parts.any fun part => part = [] ∨ part = ['.'] ∨ part = ['.', '.'] then
    some "components must not be empty, '.' or '..'"
  else none

/-- `ProviderRelativeLocator::new`. -/
def newProviderRelativeLocator (value : String) : Except VoomError String :=
  match relativeLocatorProblem value with
  | none => .ok value
  | some reason => .error (.config s!"provider-relative locator invalid: {reason}")

structure FileKeyFacts where
  dev : Nat
  ino : Nat
  nlink : Nat
  deriving DecidableEq

structure ScanSidecarEvidence where
  providerRelativeLocator : String
  role : String
  blake3Hex : String
  sizeBytes : Nat
  deriving DecidableEq

structure ScanObservationEvidence where
  contentHash : String
  sizeBytes : Nat
  fileKey : Option FileKeyFacts
  sidecars : List ScanSidecarEvidence
  probeSnapshot : Json

structure ScanObservation where
  providerRelativeLocator : String
  providerObjectIdentity : String
  sizeBytes : Nat
  stabilityStartedAt : Int
  stabilityConfirmedAt : Int
  evidence : Option ScanObservationEvidence

/-! ## The tables -/

/-- A row of `scan_file_facts`. -/
structure ScanFileFact where
  fileLocationId : FileLocationId
  dev : Nat
  ino : Nat
  nlink : Nat
  deriving DecidableEq

/-- A row of `media_snapshots`. -/
structure MediaSnapshotRow where
  fileVersionId : FileVersionId
  payload : Json

structure ScanCatalog where
  identity : IdentityStore
  facts : List ScanFileFact
  snapshots : List MediaSnapshotRow

/-- What publication reads beside these tables: the lock of the commit gate and the owners of
the roots. -/
structure PublishEnv where
  lock : LeaseScope → Option (CommitId × LeaseScope)
  ownerNodeId : StorageRootId → Option NodeId

/-- The live file at an address, or at another address of an inode. -/
structure ScannedMatch where
  fileAssetId : FileAssetId
  fileLocationId : FileLocationId
  fileVersionId : FileVersionId
  contentHash : String
  sizeBytes : Nat
  deriving DecidableEq

namespace IdentityStore

/-- The match of a live location, provided that its version is live. -/
def scannedMatch (s : IdentityStore) (id : FileLocationId) (row : FileLocation) :
    Option ScannedMatch :=
  (s.versions[row.fileVersionId]?.filter (·.retired = false)).map fun version =>
    ⟨version.fileAssetId, id, row.fileVersionId, version.contentHash, version.sizeBytes⟩

def findLiveScannedAddress (s : IdentityStore) (root : StorageRootId) (locator : String) :
    Option ScannedMatch :=
  s.locations.zipIdx.findSome? fun (row, id) =>
    if row.retired = false ∧ row.address = .rooted root locator then s.scannedMatch id row
    else none

/-- The latest live version of an asset. -/
def activeFileVersion (s : IdentityStore) (assetId : FileAssetId) : Option FileVersionId :=
  ((s.versions.zipIdx.filter fun (version, _) =>
    version.fileAssetId = assetId && !version.retired).map (·.2)).getLast?

def requireActiveFileVersion (s : IdentityStore) (assetId : FileAssetId)
    (expected : FileVersionId) : Except VoomError Unit := do
  let current ← find (s.activeFileVersion assetId)
    (.staleIdentityEvidence (s!"file asset {assetId} has no live file version; " ++
      s!"expected {expected}; replan from current inputs"))
  require (current = expected)
    (.staleIdentityEvidence (s!"file asset {assetId} expected active version {expected}, " ++
      s!"but current active version is {current}; replan from current inputs"))

/-! ### Bundles of primary files -/

def BundleMemberRole.debug : BundleMemberRole → String
  | .primaryVideo => "PrimaryVideo"
  | .commentaryAudio => "CommentaryAudio"
  | .externalAudio => "ExternalAudio"
  | .externalSubtitle => "ExternalSubtitle"
  | .poster => "Poster"
  | .nfo => "Nfo"
  | .trailer => "Trailer"
  | .transcript => "Transcript"
  | .thumbnail => "Thumbnail"
  | .report => "Report"

/-- The asset of the version, and the bundle it is the primary file of. -/
def primaryBundleForFileVersion (s : IdentityStore) (versionId : FileVersionId) :
    Except VoomError (FileAssetId × Option BundleId) := do
  let version ← find s.versions[versionId]? (.notFound s!"file_version {versionId}")
  s.requireActiveFileVersion version.fileAssetId versionId
  match s.getMemberByFileAsset version.fileAssetId with
  | none => return (version.fileAssetId, none)
  | some member =>
    require (member.role = .primaryVideo)
      (.conflict (s!"primary asset {version.fileAssetId} is already a " ++
        s!"{BundleMemberRole.debug member.role} bundle member"))
    return (version.fileAssetId, some member.bundleId)

def createPrimaryBundleIdentity (s : IdentityStore) (assetId : FileAssetId) (displayName : String) :
    Except VoomError (BundleId × IdentityStore) := do
  let (bundleId, s) := s.createBundle displayName
  let s ← s.addMember ⟨bundleId, assetId, .primaryVideo⟩
  return (bundleId, s)

def displayNameFromPath (path : String) : String :=
  match RustPath.fileStem path.toList with
  | some (c :: stem) => String.ofList (c :: stem)
  | _ => path

def resolveOrCreatePrimaryBundle (s : IdentityStore) (versionId : FileVersionId)
    (sourcePath : String) : Except VoomError (BundleId × IdentityStore) := do
  let (assetId, bundleId) ← s.primaryBundleForFileVersion versionId
  match bundleId with
  | some bundleId => return (bundleId, s)
  | none => s.createPrimaryBundleIdentity assetId (displayNameFromPath sourcePath)

/-! ### Sidecars -/

structure PublishedSidecar where
  role : BundleMemberRole
  providerRelativeLocator : String
  contentHash : String
  sizeBytes : Nat
  deriving DecidableEq

def requireSidecarMembership (s : IdentityStore) (bundleId : BundleId) (role : BundleMemberRole)
    (assetId : FileAssetId) : Except VoomError IdentityStore :=
  match s.getMemberByFileAsset assetId with
  | some member => do
    require (member.bundleId = bundleId ∧ member.role = role)
      (.conflict (s!"scan sidecar asset {assetId} is already in bundle {member.bundleId} as " ++
        BundleMemberRole.debug member.role))
    return s
  | none => s.addMember ⟨bundleId, assetId, role⟩

/-- The ids that an ingest has come to. -/
def ingestedIds (s : IdentityStore) : IngestOutcome → Except VoomError IngestedFile
  | .newFileAsset ingested => .ok ingested
  | .aliasAttached versionId locationId => do
    let version ← find s.versions[versionId]?
      (.internal s!"scan publication: file_version {versionId} vanished")
    return ⟨version.fileAssetId, versionId, locationId⟩

/-- A file that was not known before. -/
def ingestScanned (s : IdentityStore) (env : PublishEnv) (root : StorageRootId)
    (locator contentHash : String) (sizeBytes : Nat) :
    Except VoomError (IngestedFile × IdentityStore) := do
  let (outcome, s) ← s.recordDiscoveredFile env.lock ⟨root, locator, contentHash, sizeBytes, none⟩
    none
  let ingested ← s.ingestedIds outcome
  return (ingested, s)

def persistSidecar (s : IdentityStore) (env : PublishEnv) (bundleId : BundleId)
    (root : StorageRootId) (sidecar : PublishedSidecar) : Except VoomError IdentityStore :=
  match s.findLiveScannedAddress root sidecar.providerRelativeLocator with
  | some existing => do
    require (existing.contentHash = sidecar.contentHash ∧ existing.sizeBytes = sidecar.sizeBytes)
      (.conflict (s!"scan sidecar address ({root}, {sidecar.providerRelativeLocator}) " ++
        "already records different bytes"))
    s.requireSidecarMembership bundleId sidecar.role existing.fileAssetId
  | none => do
    let (ingested, s) ← s.ingestScanned env root sidecar.providerRelativeLocator
      sidecar.contentHash sidecar.sizeBytes
    s.requireSidecarMembership bundleId sidecar.role ingested.fileAssetId

def persistBundleSidecars (s : IdentityStore) (env : PublishEnv) (versionId : FileVersionId)
    (displayPath : String) (root : StorageRootId) (sidecars : List PublishedSidecar) :
    Except VoomError IdentityStore :=
  if sidecars = [] then .ok s
  else do
    let (bundleId, s) ← s.resolveOrCreatePrimaryBundle versionId displayPath
    sidecars.foldlM (fun s sidecar => s.persistSidecar env bundleId root sidecar) s

end IdentityStore

/-! ## Publication -/

namespace ScanCatalog
open IdentityStore

def roleFromEvidence (role : String) : Except VoomError BundleMemberRole :=
  if role = "external_subtitle" then .ok .externalSubtitle
  else if role = "nfo" then .ok .nfo
  else if role = "poster" then .ok .poster
  else if role = "trailer" then .ok .trailer
  else .error (.config s!"sidecar evidence role {role.quote} not in sidecar role vocab")

def sidecarFromEvidence (sidecar : ScanSidecarEvidence) : Except VoomError PublishedSidecar := do
  let role ← roleFromEvidence sidecar.role
  let locator ← newProviderRelativeLocator sidecar.providerRelativeLocator
  return ⟨role, locator, "blake3:" ++ sidecar.blake3Hex, sidecar.sizeBytes⟩

def sidecarsFromEvidence (sidecars : List ScanSidecarEvidence) :
    Except VoomError (List PublishedSidecar) :=
  sidecars.mapM sidecarFromEvidence

/-- The snapshot with an id for every stream. -/
def normalizeSnapshotStreamIds (snapshot : Json) : Except VoomError Json :=
  match snapshot, (snapshot.get "streams").bind Json.asArray with
  | .object fields, some streams => do
    let streams ← streams.mapM fun stream =>
      match stream with
      | .object stream =>
        if (stream.lookup "id").isSome then .ok (.object stream)
        else
          match (stream.lookup "index").bind (Json.asUnsigned 64) with
          | none => .error (.config "snapshot stream without id must include numeric index")
          | some index => .ok (.object (stream ++ [("id", .string s!"stream-{index}")]))
      | _ => .error (.config "snapshot stream entries must be objects")
    return .object (fields.map fun field =>
      if field.1 = "streams" then ("streams", .array streams) else field)
  | _, _ => .ok snapshot

/-- A number of the file system as the database has it. -/
def i64FromU64 (value : Nat) (field : String) : Except VoomError Unit :=
  require (value < 1 <<< 63) (.database s!"{field}: i64 conv from {value}")

def recordInodeFact (c : ScanCatalog) (locationId : FileLocationId)
    (fileKey : Option FileKeyFacts) : Except VoomError ScanCatalog :=
  match fileKey with
  | none => .ok c
  | some key => do
    i64FromU64 key.dev "dev"
    i64FromU64 key.ino "ino"
    i64FromU64 key.nlink "nlink"
    return { c with facts := c.facts ++ [⟨locationId, key.dev, key.ino, key.nlink⟩] }

/-- The first live location of the inode at another address, on a root of the same owner. -/
def findLiveHardlinkLocation (c : ScanCatalog) (env : PublishEnv) (key : FileKeyFacts)
    (root : StorageRootId) (locator : String) : Option ScannedMatch :=
  c.identity.locations.zipIdx.findSome? fun (row, id) =>
    match row.address with
    | .unassignedLegacy _ _ => none
    | .rooted existing at' =>
      if row.retired = false ∧ ¬ (existing = root ∧ at' = locator) ∧
          (env.ownerNodeId existing).isSome ∧ env.ownerNodeId existing = env.ownerNodeId root ∧
          c.facts.any fun fact => fact.fileLocationId = id && fact.dev = key.dev &&
            fact.ino = key.ino then
        c.identity.scannedMatch id row
      else none

/-- The file is known at its address, with the same bytes. -/
def resolveSameAddress (c : ScanCatalog) (evidence : ScanObservationEvidence)
    (root : StorageRootId) (locator : String) : Except VoomError (Option FileVersionId) :=
  match c.identity.findLiveScannedAddress root locator with
  | none => .ok none
  | some existing => do
    require (existing.contentHash = evidence.contentHash ∧ existing.sizeBytes = evidence.sizeBytes)
      (.conflict s!"scan address ({root}, {locator}) already records different bytes")
    return some existing.fileVersionId

/-- The known file of the inode, if its bytes are the same. -/
def hardlinkMatch (c : ScanCatalog) (env : PublishEnv) (evidence : ScanObservationEvidence)
    (root : StorageRootId) (locator : String) : Except VoomError (Option ScannedMatch) :=
  match evidence.fileKey with
  | none => .ok none
  | some key => do
    i64FromU64 key.dev "dev"
    i64FromU64 key.ino "ino"
    return (c.findLiveHardlinkLocation env key root locator).filter fun known =>
      known.contentHash = evidence.contentHash ∧ known.sizeBytes = evidence.sizeBytes

/-- A file that is not known at its address: a new name of a known one, or a new one. -/
def attachOrIngest (c : ScanCatalog) (env : PublishEnv) (evidence : ScanObservationEvidence)
    (root : StorageRootId) (locator : String) :
    Except VoomError (FileVersionId × Bool × ScanCatalog) := do
  match ← c.hardlinkMatch env evidence root locator with
  | some known =>
    let (locationId, identity) ← c.identity.attachLocalHardlinkLocation env.lock
      known.fileVersionId root locator
    let c ← { c with identity := identity }.recordInodeFact locationId evidence.fileKey
    return (known.fileVersionId, true, c)
  | none =>
    let (ingested, identity) ← c.identity.ingestScanned env root locator evidence.contentHash
      evidence.sizeBytes
    let c ← { c with identity := identity }.recordInodeFact ingested.fileLocationId evidence.fileKey
    return (ingested.fileVersionId, false, c)

/-- The version of the file, and whether it was attached as a hardlink. -/
def resolveIdentity (c : ScanCatalog) (env : PublishEnv) (evidence : ScanObservationEvidence)
    (root : StorageRootId) (locator : String) :
    Except VoomError (FileVersionId × Bool × ScanCatalog) := do
  match ← c.resolveSameAddress evidence root locator with
  | some versionId => return (versionId, false, c)
  | none => c.attachOrIngest env evidence root locator

def recordMediaSnapshot (c : ScanCatalog) (versionId : FileVersionId) (payload : Json) :
    ScanCatalog :=
  { c with snapshots := c.snapshots ++ [⟨versionId, payload⟩] }

def publishOne (c : ScanCatalog) (env : PublishEnv) (root : StorageRootId) (locator : String)
    (evidence : ScanObservationEvidence) : Except VoomError (Bool × ScanCatalog) := do
  let (versionId, hardlink, c) ← c.resolveIdentity env evidence root locator
  let snapshot ← normalizeSnapshotStreamIds evidence.probeSnapshot
  let c := c.recordMediaSnapshot versionId snapshot
  let sidecars ← sidecarsFromEvidence evidence.sidecars
  let identity ← c.identity.persistBundleSidecars env versionId locator root sidecars
  return (hardlink, { c with identity := identity })

structure PublicationSummary where
  published : Nat
  hardlinked : Nat
  deriving DecidableEq

/-- An observation without evidence publishes nothing. -/
def publishNext (env : PublishEnv) (root : StorageRootId) (so : PublicationSummary × ScanCatalog)
    (observation : ScanObservation) : Except VoomError (PublicationSummary × ScanCatalog) :=
  match observation.evidence with
  | none => .ok so
  | some evidence => do
    let (hardlink, c) ← so.2.publishOne env root observation.providerRelativeLocator evidence
    return (⟨so.1.published + 1, so.1.hardlinked + hardlink.toNat⟩, c)

def publishSessionEvidence (c : ScanCatalog) (env : PublishEnv) (root : StorageRootId)
    (observations : List ScanObservation) : Except VoomError (PublicationSummary × ScanCatalog) :=
  observations.foldlM (publishNext env root) (⟨0, 0⟩, c)

end ScanCatalog

/-! ## Publication adds rows -/

variable {versionId : FileVersionId} {sidecar published : PublishedSidecar}

namespace IdentityStore
open ListUpdate

/-- No two live rows have the same address. -/
def UniqueLive (s : IdentityStore) : Prop :=
  ∀ (i j : FileLocationId) (a b : FileLocation), s.locations[i]? = some a →
    s.locations[j]? = some b → a.retired = false → b.retired = false → a.address = b.address → i = j

/-- Every table has the rows it had, and maybe more. -/
structure Grows (s s' : IdentityStore) : Prop where
  assets : s.assets <+: s'.assets
  versions : s.versions <+: s'.versions
  locations : s.locations <+: s'.locations
  bundles : s.bundles <+: s'.bundles
  members : s.members <+: s'.members

/-- The tables grow, by live locations at these places of the root only. -/
structure Adds (root : StorageRootId) (names : List String) (s s' : IdentityStore) : Prop where
  grows : Grows s s'
  located : ∀ (id : FileLocationId) (row : FileLocation), s'.locations[id]? = some row →
    s.locations.length ≤ id →
      row.retired = false ∧ ∃ locator ∈ names, row.address = .rooted root locator
  unattributed : ∀ (id : FileLocationId) (row : FileLocation), s'.locations[id]? = some row →
    s.locations.length ≤ id → row.retiredByScanSession = none
  unique : s.UniqueLive → s'.UniqueLive

section Adds
variable {s s' s'' : IdentityStore} {root : StorageRootId} {names names' : List String}
  {env : PublishEnv} {id : FileLocationId} {row : FileLocation} {assetId : FileAssetId}
  {ingested : IngestedFile} {contentHash path locator : String} {known : ScannedMatch}
  {bundleId : BundleId}

theorem Grows.refl (s : IdentityStore) : Grows s s :=
  ⟨prefix_rfl, prefix_rfl, prefix_rfl, prefix_rfl, prefix_rfl⟩

theorem Grows.trans (h : Grows s s') (h' : Grows s' s'') : Grows s s'' :=
  ⟨h.assets.trans h'.assets, h.versions.trans h'.versions, h.locations.trans h'.locations,
    h.bundles.trans h'.bundles, h.members.trans h'.members⟩

theorem Grows.location (h : Grows s s') (hrow : s.locations[id]? = some row) :
    s'.locations[id]? = some row :=
  getElem?_of_isPrefix h.locations hrow

theorem Grows.member (h : Grows s s') {member : BundleMember}
    (hmem : s.getMemberByFileAsset assetId = some member) :
    s'.getMemberByFileAsset assetId = some member := by
  obtain ⟨_, hrest⟩ := h.members
  rw [getMemberByFileAsset, ← hrest, find?_append]
  exact congrArg (Option.or · _) hmem

/-- A change that leaves the locations alone. -/
theorem Adds.of_grows (h : Grows s s') (hlocs : s'.locations = s.locations) :
    Adds root names s s' := by
  have hnone : ∀ (id : FileLocationId) (row : FileLocation), s'.locations[id]? = some row →
      ¬ s.locations.length ≤ id := by
    intro _ _ hrow _
    have hlt := lt_length (hlocs ▸ hrow)
    omega
  refine ⟨h, fun id row hrow hnew => absurd hnew (hnone id row hrow),
    fun id row hrow hnew => absurd hnew (hnone id row hrow), ?_⟩
  intro huniq
  rw [UniqueLive, hlocs]
  exact huniq

theorem Adds.refl (s : IdentityStore) : Adds root names s s := .of_grows (.refl s) rfl

theorem Adds.mono (h : Adds root names s s') (hnames : names ⊆ names') : Adds root names' s s' := by
  refine ⟨h.grows, ?_, h.unattributed, h.unique⟩
  intro id row hrow hnew
  obtain ⟨hlive, locator, hmem, haddr⟩ := h.located id row hrow hnew
  exact ⟨hlive, locator, hnames hmem, haddr⟩

theorem Adds.trans (h : Adds root names s s') (h' : Adds root names s' s'') :
    Adds root names s s'' := by
  -- a row of the last table is one of the middle one, or new there
  have hcases : ∀ (id : FileLocationId) (row : FileLocation), s''.locations[id]? = some row →
      s'.locations[id]? = some row ∨ s'.locations.length ≤ id := by
    intro id _ hrow
    rcases Nat.lt_or_ge id s'.locations.length with hlt | hge
    · have hold := h'.grows.location (getElem?_eq_getElem hlt)
      obtain rfl := some_unique hold hrow
      exact .inl (getElem?_eq_getElem hlt)
    · exact .inr hge
  refine ⟨h.grows.trans h'.grows, ?_, ?_, fun huniq => h'.unique (h.unique huniq)⟩
  · intro id row hrow hnew
    rcases hcases id row hrow with hold | hge
    · exact h.located id row hold hnew
    · exact h'.located id row hrow hge
  · intro id row hrow hnew
    rcases hcases id row hrow with hold | hge
    · exact h.unattributed id row hold hnew
    · exact h'.unattributed id row hrow hge

/-- A live row at a free address. -/
theorem UniqueLive.concat (h : s.UniqueLive) (hfree : s.liveAt row.address = false) :
    UniqueLive { s with locations := s.locations ++ [row] } := by
  simp only [liveAt, any_eq_false, Bool.and_eq_true, Bool.not_eq_true', decide_eq_true_eq,
    not_and] at hfree
  intro i j a b hi hj ha hb hsame
  rcases getElem?_concat_cases hi with hold | ⟨hlast, rfl⟩ <;>
    rcases getElem?_concat_cases hj with hold' | ⟨hlast', rfl⟩
  · exact h i j a b hold hold' ha hb hsame
  · exact absurd hsame (hfree a (mem_of_getElem? hold) ha)
  · exact absurd hsame.symm (hfree b (mem_of_getElem? hold') hb)
  · exact hlast.trans hlast'.symm

theorem insertFileLocation_adds {input : NewFileLocation}
    (h : s.insertFileLocation input = .ok (id, s')) :
    Adds input.storageRootId [input.providerRelativeLocator] s s' := by
  simp only [insertFileLocation, bind_ok, require_ok] at h
  obtain ⟨_, ⟨-, -, hfree⟩, heq⟩ := h
  cases heq
  refine ⟨⟨prefix_rfl, prefix_rfl, prefix_append _ _, prefix_rfl, prefix_rfl⟩,
    ?_, ?_, fun huniq => huniq.concat hfree⟩
  · intro _ _ hrow _
    rcases getElem?_concat_cases hrow with hold | ⟨-, rfl⟩
    · have hlt := lt_length hold
      omega
    · exact ⟨rfl, _, mem_singleton_self _, rfl⟩
  · intro _ _ hrow _
    rcases getElem?_concat_cases hrow with hold | ⟨-, rfl⟩
    · have hlt := lt_length hold
      omega
    · rfl

theorem insertFile_adds {producedBy : ProducedBy} {source : Option FileVersionId}
    {file : DiscoveredFile} (h : s.insertFile producedBy source file = .ok (ingested, s')) :
    Adds file.storageRootId [file.providerRelativeLocator] s s' := by
  simp only [insertFile, insertFileVersion, bind_ok] at h
  obtain ⟨⟨_, t⟩, ⟨_, -, _, -, heq⟩, ⟨_, u⟩, hloc, heq'⟩ := h
  cases heq
  cases heq'
  refine (Adds.of_grows ?_ ?_).trans (insertFileLocation_adds hloc)
  · exact ⟨prefix_append _ _, prefix_append _ _, prefix_rfl, prefix_rfl, prefix_rfl⟩
  · rfl

/-- A file that the rows know by its address. -/
structure HoldsAt (s : IdentityStore) (root : StorageRootId) (locator : String)
    (known : ScannedMatch) : Prop where
  location : ∃ row, s.locations[known.fileLocationId]? = some row ∧ row.retired = false ∧
    row.address = .rooted root locator ∧ row.fileVersionId = known.fileVersionId
  version : ∃ version, s.versions[known.fileVersionId]? = some version ∧
    version.retired = false ∧ version.fileAssetId = known.fileAssetId ∧
    version.contentHash = known.contentHash ∧ version.sizeBytes = known.sizeBytes

theorem HoldsAt.grows (h : s.HoldsAt root locator known) (hgrows : Grows s s') :
    s'.HoldsAt root locator known := by
  obtain ⟨⟨row, hrow, hrest⟩, ⟨version, hver, hrest'⟩⟩ := h
  exact ⟨⟨row, hgrows.location hrow, hrest⟩,
    ⟨version, getElem?_of_isPrefix hgrows.versions hver, hrest'⟩⟩

theorem scannedMatch_eq_some_iff : s.scannedMatch id row = some known ↔ known.fileLocationId = id ∧
      row.fileVersionId = known.fileVersionId ∧
      ∃ version, s.versions[known.fileVersionId]? = some version ∧ version.retired = false ∧
        version.fileAssetId = known.fileAssetId ∧ version.contentHash = known.contentHash ∧
        version.sizeBytes = known.sizeBytes := by
  simp only [scannedMatch, Option.map_eq_some_iff, Option.filter_eq_some_iff, decide_eq_true_eq]
  constructor
  · rintro ⟨version, ⟨hver, hlive⟩, rfl⟩
    exact ⟨rfl, rfl, version, hver, hlive, rfl, rfl, rfl⟩
  · rintro ⟨rfl, hrow, version, hver, hlive, hasset, hhash, hsize⟩
    refine ⟨version, ⟨hrow ▸ hver, hlive⟩, ?_⟩
    rw [hasset, hhash, hsize, hrow]

theorem findLiveScannedAddress_holds (h : s.findLiveScannedAddress root locator = some known) :
    s.HoldsAt root locator known := by
  obtain ⟨⟨row, _⟩, hmem, hmatch⟩ := exists_of_findSome?_eq_some h
  have hrow := mk_mem_zipIdx_iff_getElem?.mp hmem
  dsimp only at hmatch
  split at hmatch
  next hat =>
    obtain ⟨rfl, hversionId, version, hver⟩ := scannedMatch_eq_some_iff.mp hmatch
    exact ⟨⟨row, hrow, hat.1, hat.2, hversionId⟩, ⟨version, hver⟩⟩
  · cases hmatch

/-- Where live addresses are unique, the look-up finds the one there is. -/
theorem findLiveScannedAddress_of_holds (huniq : s.UniqueLive) (h : s.HoldsAt root locator known) :
    s.findLiveScannedAddress root locator = some known := by
  obtain ⟨⟨row, hrow, hlive, haddr, hversionId⟩, ⟨version, hver⟩⟩ := h
  have hmatch : s.scannedMatch known.fileLocationId row = some known :=
    scannedMatch_eq_some_iff.mpr ⟨rfl, hversionId, version, hver⟩
  cases hfound : s.findLiveScannedAddress root locator with
  | none =>
    have hnone := findSome?_eq_none_iff.mp hfound (row, known.fileLocationId)
      (mk_mem_zipIdx_iff_getElem?.mpr hrow)
    dsimp only at hnone
    rw [if_pos ⟨hlive, haddr⟩, hmatch] at hnone
    cases hnone
  | some other =>
    obtain ⟨⟨row', hrow', hlive', haddr', hversionId'⟩, ⟨version', hver'⟩⟩ :=
      findLiveScannedAddress_holds hfound
    have hid := huniq _ _ row' row hrow' hrow hlive' hlive (haddr'.trans haddr.symm)
    rw [hid] at hrow'
    obtain rfl := some_unique hrow hrow'
    have hmatch' : s.scannedMatch known.fileLocationId row = some other :=
      scannedMatch_eq_some_iff.mpr ⟨hid, hversionId', version', hver'⟩
    exact hmatch'.symm.trans hmatch

theorem ingestScanned_ok {sizeBytes : Nat}
    (h : s.ingestScanned env root locator contentHash sizeBytes = .ok (ingested, s')) :
    Adds root [locator] s s' ∧ s'.HoldsAt root locator ⟨ingested.fileAssetId,
      ingested.fileLocationId, ingested.fileVersionId, contentHash, sizeBytes⟩ := by
  simp only [ingestScanned, recordDiscoveredFile, ingestNewFileAsset, Option.bind_none,
    bind_ok] at h
  obtain ⟨⟨_, t⟩, ⟨⟨_, u⟩, hins, heq⟩, _, hids, heq'⟩ := h
  cases heq
  cases hids
  cases heq'
  refine ⟨insertFile_adds hins, ?_⟩
  simp only [insertFile, insertFileVersion, insertFileLocation, bind_ok] at hins
  obtain ⟨⟨_, t⟩, ⟨_, -, _, -, heq⟩, ⟨_, u⟩, ⟨_, -, heq'⟩, heq''⟩ := hins
  cases heq
  cases heq'
  cases heq''
  constructor
  · exact ⟨_, getElem?_concat_length, rfl, rfl, rfl⟩
  · exact ⟨_, getElem?_concat_length, rfl, rfl, rfl, rfl⟩

/-! ### Members -/

theorem getMemberByFileAsset_asset {member : BundleMember}
    (h : s.getMemberByFileAsset assetId = some member) : member.fileAssetId = assetId := by
  simpa using find?_some h

theorem addMember_ok {input : BundleMember} (h : s.addMember input = .ok s') :
    Adds root names s s' ∧ s'.getMemberByFileAsset input.fileAssetId = some input := by
  simp only [addMember, bind_ok, require_ok, return_ok] at h
  obtain ⟨_, hnone, _, -, rfl⟩ := h
  constructor
  · exact .of_grows ⟨prefix_rfl, prefix_rfl, prefix_rfl, prefix_rfl, prefix_append _ _⟩ rfl
  · rw [getMemberByFileAsset] at hnone ⊢
    rw [find?_append, hnone]
    simp

theorem requireSidecarMembership_ok {role : BundleMemberRole}
    (h : s.requireSidecarMembership bundleId role assetId = .ok s') :
    Adds root names s s' ∧ s'.getMemberByFileAsset assetId = some ⟨bundleId, assetId, role⟩ := by
  unfold requireSidecarMembership at h
  split at h
  next hmem =>
    simp only [bind_ok, require_ok, return_ok] at h
    obtain ⟨_, ⟨rfl, rfl⟩, rfl⟩ := h
    refine ⟨.refl s, ?_⟩
    rw [hmem, ← getMemberByFileAsset_asset hmem]
  · exact addMember_ok h

theorem resolveOrCreatePrimaryBundle_ok
    (h : s.resolveOrCreatePrimaryBundle versionId path = .ok (bundleId, s')) :
    Adds root names s s' ∧ ∃ version, s.versions[versionId]? = some version ∧
      s'.getMemberByFileAsset version.fileAssetId =
        some ⟨bundleId, version.fileAssetId, .primaryVideo⟩ := by
  simp only [resolveOrCreatePrimaryBundle, primaryBundleForFileVersion, bind_ok, find_ok] at h
  obtain ⟨⟨_, _⟩, ⟨version, hver, _, -, hbundle⟩, h⟩ := h
  split at hbundle
  · cases hbundle
    simp only [createPrimaryBundleIdentity, bind_ok] at h
    obtain ⟨t, hadd, heq⟩ := h
    cases heq
    obtain ⟨hadds, hmem⟩ := addMember_ok hadd
    have hbundle : Adds root names s
        { s with bundles := s.bundles ++ [⟨displayNameFromPath path, 0⟩] } :=
      .of_grows ⟨prefix_rfl, prefix_rfl, prefix_rfl, prefix_append _ _, prefix_rfl⟩ rfl
    exact ⟨hbundle.trans hadds, version, hver, hmem⟩
  next hmem =>
  simp only [bind_ok, require_ok] at hbundle
  obtain ⟨_, hrole, heq⟩ := hbundle
  cases heq
  cases h
  refine ⟨.refl s, version, hver, ?_⟩
  rw [hmem, ← hrole, ← getMemberByFileAsset_asset hmem]

/-- The sidecar is known at its address, with its bytes, and is a member of the bundle. -/
def SidecarKnown (s : IdentityStore) (root : StorageRootId) (bundleId : BundleId)
    (sidecar : PublishedSidecar) : Prop :=
  ∃ known, s.HoldsAt root sidecar.providerRelativeLocator known ∧
    known.contentHash = sidecar.contentHash ∧ known.sizeBytes = sidecar.sizeBytes ∧
    s.getMemberByFileAsset known.fileAssetId = some ⟨bundleId, known.fileAssetId, sidecar.role⟩

theorem SidecarKnown.grows (h : s.SidecarKnown root bundleId sidecar) (hgrows : Grows s s') :
    s'.SidecarKnown root bundleId sidecar := by
  obtain ⟨known, hholds, hhash, hsize, hmem⟩ := h
  exact ⟨known, hholds.grows hgrows, hhash, hsize, hgrows.member hmem⟩

theorem persistSidecar_ok (h : s.persistSidecar env bundleId root sidecar = .ok s') :
    Adds root [sidecar.providerRelativeLocator] s s' ∧ s'.SidecarKnown root bundleId sidecar := by
  unfold persistSidecar at h
  split at h
  next known hfound =>
    simp only [bind_ok, require_ok] at h
    obtain ⟨_, ⟨hhash, hsize⟩, hmembership⟩ := h
    obtain ⟨hadds, hmem⟩ := requireSidecarMembership_ok hmembership
    exact ⟨hadds, known, (findLiveScannedAddress_holds hfound).grows hadds.grows, hhash, hsize,
      hmem⟩
  · simp only [bind_ok] at h
    obtain ⟨⟨_, t⟩, hingest, hmembership⟩ := h
    obtain ⟨hadds, hholds⟩ := ingestScanned_ok hingest
    obtain ⟨hadds', hmem⟩ := requireSidecarMembership_ok hmembership
    exact ⟨hadds.trans hadds', _, hholds.grows hadds'.grows, rfl, rfl, hmem⟩

theorem persistBundleSidecars_ok {sidecars : List PublishedSidecar}
    (h : s.persistBundleSidecars env versionId path root sidecars = .ok s') :
    Adds root (sidecars.map (·.providerRelativeLocator)) s s' ∧
      (sidecars ≠ [] → ∃ bundleId version, s.versions[versionId]? = some version ∧
        s'.getMemberByFileAsset version.fileAssetId =
          some ⟨bundleId, version.fileAssetId, .primaryVideo⟩ ∧
        ∀ sidecar ∈ sidecars, s'.SidecarKnown root bundleId sidecar) := by
  unfold persistBundleSidecars at h
  split at h
  next hnil =>
    cases h
    exact ⟨.refl s, fun hne => absurd hnil hne⟩
  · simp only [bind_ok] at h
    obtain ⟨⟨bundleId, t⟩, hbundle, hfold⟩ := h
    obtain ⟨hadds, version, hver, hmember⟩ := resolveOrCreatePrimaryBundle_ok hbundle
    obtain ⟨hadds', hknown⟩ := foldlM_each
      (R := Adds root (sidecars.map (·.providerRelativeLocator)))
      (Q := fun s sidecar => s.SidecarKnown root bundleId sidecar)
      .refl .trans (fun hadds hknown => hknown.grows hadds.grows) (fun _ hmem _ _ hstep => by
        obtain ⟨hadds, hknown⟩ := persistSidecar_ok hstep
        exact ⟨hadds.mono (cons_subset.mpr ⟨mem_map_of_mem hmem, nil_subset _⟩), hknown⟩) hfold
    exact ⟨hadds.trans hadds', fun _ => ⟨bundleId, version, hver,
      hadds'.grows.member hmember, hknown⟩⟩

end Adds

end IdentityStore

/-! ### Observations -/

namespace ScanCatalog
open IdentityStore

variable {c c' : ScanCatalog} {env : PublishEnv} {root : StorageRootId} {locator : String}
  {evidence : ScanObservationEvidence}

/-- The file of an observation is known at its address with its bytes, and its sidecars are
members of its bundle. -/
def Knows (s : IdentityStore) (root : StorageRootId) (locator : String)
    (evidence : ScanObservationEvidence) : Prop :=
  ∃ known, s.HoldsAt root locator known ∧ known.contentHash = evidence.contentHash ∧
    known.sizeBytes = evidence.sizeBytes ∧
    (evidence.sidecars ≠ [] → ∃ bundleId, s.getMemberByFileAsset known.fileAssetId =
        some ⟨bundleId, known.fileAssetId, .primaryVideo⟩ ∧
      ∀ sidecar ∈ evidence.sidecars, ∃ published, sidecarFromEvidence sidecar = .ok published ∧
        s.SidecarKnown root bundleId published)

theorem Knows.grows {s s' : IdentityStore} (h : Knows s root locator evidence)
    (hgrows : Grows s s') : Knows s' root locator evidence := by
  obtain ⟨known, hholds, hhash, hsize, hsides⟩ := h
  refine ⟨known, hholds.grows hgrows, hhash, hsize, fun hne => ?_⟩
  obtain ⟨bundleId, hmember, hall⟩ := hsides hne
  refine ⟨bundleId, hgrows.member hmember, fun sidecar hmem => ?_⟩
  obtain ⟨published, hpub, hknown⟩ := hall sidecar hmem
  exact ⟨published, hpub, hknown.grows hgrows⟩

theorem recordInodeFact_identity {id : FileLocationId} {fileKey : Option FileKeyFacts}
    (h : c.recordInodeFact id fileKey = .ok c') : c'.identity = c.identity := by
  unfold recordInodeFact at h
  split at h
  · cases h
    rfl
  · simp only [bind_ok, return_ok] at h
    obtain ⟨_, -, _, -, _, -, rfl⟩ := h
    rfl

theorem hardlinkMatch_some {known : ScannedMatch}
    (h : c.hardlinkMatch env evidence root locator = .ok (some known)) :
    known.contentHash = evidence.contentHash ∧ known.sizeBytes = evidence.sizeBytes ∧
      ∃ version, c.identity.versions[known.fileVersionId]? = some version ∧
        version.retired = false ∧ version.fileAssetId = known.fileAssetId ∧
        version.contentHash = known.contentHash ∧ version.sizeBytes = known.sizeBytes := by
  unfold hardlinkMatch at h
  split at h
  · cases h
  · simp only [bind_ok, return_ok, Option.filter_eq_some_iff, decide_eq_true_eq] at h
    obtain ⟨_, -, _, -, hfound, hhash, hsize⟩ := h
    refine ⟨hhash, hsize, ?_⟩
    obtain ⟨⟨_, _⟩, -, hmatch⟩ := exists_of_findSome?_eq_some hfound
    dsimp only at hmatch
    split at hmatch
    · cases hmatch
    · split at hmatch
      · exact (scannedMatch_eq_some_iff.mp hmatch).2.2
      · cases hmatch

theorem resolveIdentity_ok {hardlink : Bool}
    (h : c.resolveIdentity env evidence root locator = .ok (versionId, hardlink, c')) :
    Adds root [locator] c.identity c'.identity ∧ ∃ known, known.fileVersionId = versionId ∧
      c'.identity.HoldsAt root locator known ∧ known.contentHash = evidence.contentHash ∧
      known.sizeBytes = evidence.sizeBytes := by
  simp only [resolveIdentity, resolveSameAddress, bind_ok] at h
  obtain ⟨_, hsame, h⟩ := h
  split at hsame
  · cases hsame
    simp only [attachOrIngest, bind_ok] at h
    obtain ⟨known, hlink, h⟩ := h
    rcases known with _ | known
    · simp only [bind_ok] at h
      obtain ⟨⟨_, t⟩, hingest, _, hfact, heq⟩ := h
      cases heq
      obtain ⟨hadds, hholds⟩ := ingestScanned_ok hingest
      rw [recordInodeFact_identity hfact]
      exact ⟨hadds, _, rfl, hholds, rfl, rfl⟩
    · simp only [attachLocalHardlinkLocation, bind_ok] at h
      obtain ⟨⟨_, t⟩, ⟨_, -, hins⟩, _, hfact, heq⟩ := h
      cases heq
      obtain ⟨hhash, hsize, version, hver, hrest⟩ := hardlinkMatch_some hlink
      have hadds := insertFileLocation_adds hins
      simp only [insertFileLocation, bind_ok] at hins
      obtain ⟨_, -, heq⟩ := hins
      cases heq
      rw [recordInodeFact_identity hfact]
      refine ⟨hadds, ⟨known.fileAssetId, c.identity.locations.length, known.fileVersionId,
        known.contentHash, known.sizeBytes⟩, rfl, ⟨?_, ?_⟩, hhash, hsize⟩
      · exact ⟨_, getElem?_concat_length, rfl, rfl, rfl⟩
      · exact ⟨version, hver, hrest⟩
  next known hknown =>
  simp only [bind_ok, require_ok, return_ok] at hsame
  obtain ⟨_, ⟨hhash, hsize⟩, rfl⟩ := hsame
  cases h
  exact ⟨.refl _, known, rfl, findLiveScannedAddress_holds hknown, hhash, hsize⟩

theorem sidecarFromEvidence_ok {sidecar : ScanSidecarEvidence}
    (h : sidecarFromEvidence sidecar = .ok published) :
    published.providerRelativeLocator = sidecar.providerRelativeLocator ∧
      published.contentHash = "blake3:" ++ sidecar.blake3Hex ∧
      published.sizeBytes = sidecar.sizeBytes := by
  simp only [sidecarFromEvidence, newProviderRelativeLocator, bind_ok, return_ok] at h
  obtain ⟨_, -, _, hloc, rfl⟩ := h
  split at hloc
  · cases hloc
    exact ⟨rfl, rfl, rfl⟩
  · cases hloc

/-- The places that publishing an observation may write to. -/
def namedBy (locator : String) (evidence : ScanObservationEvidence) : List String :=
  locator :: evidence.sidecars.map (·.providerRelativeLocator)

/-- **A published observation is known, and only rows at its places have been added.** -/
theorem publishOne_ok {hardlink : Bool}
    (h : c.publishOne env root locator evidence = .ok (hardlink, c')) :
    Adds root (namedBy locator evidence) c.identity c'.identity ∧
      Knows c'.identity root locator evidence := by
  simp only [publishOne, bind_ok] at h
  obtain ⟨⟨_, _, _⟩, hresolve, _, -, sidecars, hsides, _, hpersist, heq⟩ := h
  cases heq
  obtain ⟨hadds, known, rfl, hholds, hhash, hsize⟩ := resolveIdentity_ok hresolve
  obtain ⟨hadds', hbundle⟩ := persistBundleSidecars_ok hpersist
  have hnames : sidecars.map (·.providerRelativeLocator) =
      evidence.sidecars.map (·.providerRelativeLocator) :=
    mapM_ok_map (fun a b hab => (sidecarFromEvidence_ok hab).1) hsides
  constructor
  · refine (hadds.mono ?_).trans (hadds'.mono ?_)
    · exact cons_subset.mpr ⟨mem_cons_self, nil_subset _⟩
    · rw [hnames]
      exact subset_cons_self _ _
  · refine ⟨known, hholds.grows hadds'.grows, hhash, hsize, fun hne => ?_⟩
    have hne' : sidecars ≠ [] := by
      rintro rfl
      exact hne (map_eq_nil_iff.mp hnames.symm)
    obtain ⟨bundleId, version, hver, hmember, hall⟩ := hbundle hne'
    obtain ⟨_, hver', -, hasset, -⟩ := hholds.version
    obtain rfl := some_unique hver' hver
    rw [hasset] at hmember
    refine ⟨bundleId, hmember, fun sidecar hmem => ?_⟩
    obtain ⟨published, hin, hpub⟩ := (mapM_ok_mem hsides).1 sidecar hmem
    exact ⟨published, hpub, hall published hin⟩

/-- The places that publishing the observations may write to. -/
def namedByAll (observations : List ScanObservation) : List String :=
  observations.flatMap fun observation =>
    observation.evidence.toList.flatMap (namedBy observation.providerRelativeLocator)

/-- **After publication every observation with evidence is known.** -/
theorem publishSessionEvidence_ok {observations : List ScanObservation}
    {summary : PublicationSummary}
    (h : c.publishSessionEvidence env root observations = .ok (summary, c')) :
    Adds root (namedByAll observations) c.identity c'.identity ∧
      ∀ observation ∈ observations, ∀ evidence ∈ observation.evidence,
        Knows c'.identity root observation.providerRelativeLocator evidence := by
  refine foldlM_each
    (R := fun so so' => Adds root (namedByAll observations) so.2.identity so'.2.identity)
    (Q := fun so observation => ∀ evidence ∈ observation.evidence,
      Knows so.2.identity root observation.providerRelativeLocator evidence)
    (fun _ => .refl _) .trans
    (fun hadds hknows evidence hmem => (hknows evidence hmem).grows hadds.grows) ?_ h
  intro observation hmem _ _ hstep
  unfold publishNext at hstep
  split at hstep
  next hnone =>
    cases hstep
    refine ⟨.refl _, fun _ hev => ?_⟩
    rw [hnone] at hev
    cases hev
  next hsome =>
  simp only [bind_ok, return_ok] at hstep
  obtain ⟨⟨_, _⟩, hpub, rfl⟩ := hstep
  obtain ⟨hadds, hknows⟩ := publishOne_ok hpub
  refine ⟨hadds.mono ?_, fun _ hother => ?_⟩
  · intro _ hname
    refine mem_flatMap.mpr ⟨observation, hmem, ?_⟩
    rw [hsome]
    simpa using hname
  · rw [hsome] at hother
    cases hother
    exact hknows

end ScanCatalog

end Voom
