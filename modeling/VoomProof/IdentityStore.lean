import VoomProof.CommitGate

/-!
# The identity tables

`voom-store` knows a file as an asset with versions (`repo/media/identity.rs`): a version has
the bytes, and its locations say where they are. Assets are members of bundles
(`repo/media/bundles.rs`). Rows are never deleted, members of bundles apart, but retired, so the
id of a row is its place in its table. Every update of a row raises its epoch, and most name the
epoch they expect to find.

A live location has an address of its own: no two live rows have the same root and locator.
Rows that older versions wrote without a root keep their old address and never get one.

Time stamps, evidence, media works and variants, and the ids of member rows are left out.
`lock` is the lock of the commit gate, which two of the calls consult.
-/

namespace Voom
open Fallible ListUpdate

abbrev StorageRootId := Nat
abbrev ScanSessionId := Nat

/-! ## Rows -/

/-- A row of `file_assets`. -/
structure FileAsset where
  retired : Bool
  epoch : Nat
  deriving DecidableEq

inductive ProducedBy where
  | ingest
  | transcode
  | remux
  | restore
  | externalObserved
  | stagedCommit
  deriving DecidableEq

def ProducedBy.asStr : ProducedBy → String
  | ingest => "ingest"
  | transcode => "transcode"
  | remux => "remux"
  | restore => "restore"
  | externalObserved => "external_observed"
  | stagedCommit => "staged_commit"

def ProducedBy.allowsNullParent : ProducedBy → Bool
  | ingest | externalObserved => true
  | _ => false

/-- A row of `file_versions`. -/
structure FileVersion where
  fileAssetId : FileAssetId
  contentHash : String
  sizeBytes : Nat
  producedBy : ProducedBy
  producedFromVersionId : Option FileVersionId
  retired : Bool
  epoch : Nat
  deriving DecidableEq

inductive FileLocationAddress where
  | rooted (storageRootId : StorageRootId) (providerRelativeLocator : String)
  | unassignedLegacy (kind locator : String)
  deriving DecidableEq

def FileLocationAddress.isRooted : FileLocationAddress → Bool
  | rooted _ _ => true
  | unassignedLegacy _ _ => false

/-- What tells that two locations are the same object. -/
inductive LocationProof where
  | localFileIdGeneration (fileId generation : Nat)
  | objectStoreVersion (bucket key versionId : String)
  deriving DecidableEq

def LocationProof.proofKind : LocationProof → String
  | localFileIdGeneration _ _ => "file_id_generation"
  | objectStoreVersion _ _ _ => "object_version_id"

/-- A row of `file_locations`. -/
structure FileLocation where
  fileVersionId : FileVersionId
  address : FileLocationAddress
  proof : Option LocationProof
  retired : Bool
  retiredByScanSession : Option ScanSessionId
  epoch : Nat
  deriving DecidableEq

/-- A row of `asset_bundles`. -/
structure AssetBundle where
  displayName : String
  epoch : Nat
  deriving DecidableEq

inductive BundleMemberRole where
  | primaryVideo
  | commentaryAudio
  | externalAudio
  | externalSubtitle
  | poster
  | nfo
  | trailer
  | transcript
  | thumbnail
  | report
  deriving DecidableEq

/-- A row of `asset_bundle_members`. -/
structure BundleMember where
  bundleId : BundleId
  fileAssetId : FileAssetId
  role : BundleMemberRole
  deriving DecidableEq

structure IdentityStore where
  assets : List FileAsset
  versions : List FileVersion
  locations : List FileLocation
  bundles : List AssetBundle
  members : List BundleMember
  /-- The rows of `library_roots`. -/
  roots : List StorageRootId
  deriving DecidableEq

namespace IdentityStore

def empty (roots : List StorageRootId) : IdentityStore := ⟨[], [], [], [], [], roots⟩

/-! ## Reads -/

/-- A live row has the address. -/
def liveAt (s : IdentityStore) (address : FileLocationAddress) : Bool :=
  s.locations.any fun location => !location.retired && location.address = address

/-- The live locations of a version, by id. -/
def listLiveFileLocationsByVersion (s : IdentityStore) (versionId : FileVersionId) :
    List FileLocationId :=
  (s.locations.zipIdx.filter fun (location, _) =>
    location.fileVersionId = versionId && !location.retired).map (·.2)

def rowEpoch (s : IdentityStore) : TargetMemberKind → Nat → Option Nat
  | .fileAsset, id => s.assets[id]?.map (·.epoch)
  | .fileVersion, id => s.versions[id]?.map (·.epoch)
  | .fileLocation, id => s.locations[id]?.map (·.epoch)
  | .bundle, id => s.bundles[id]?.map (·.epoch)

def hasRow (s : IdentityStore) : LeaseScope → Bool
  | .asset id => id < s.assets.length
  | .version id => id < s.versions.length
  | .location id => id < s.locations.length
  | .bundle id => id < s.bundles.length

/-- What the closure walk of the commit gate reads. -/
def tables (s : IdentityStore) : IdentityTables where
  location id := s.locations[id]?.map fun row => ⟨row.fileVersionId, row.retired⟩
  version id := s.versions[id]?.map (·.fileAssetId)
  liveLocations := s.listLiveFileLocationsByVersion
  bundles assetId := (s.members.filter (·.fileAssetId = assetId)).map (·.bundleId)

def getMemberByFileAsset (s : IdentityStore) (assetId : FileAssetId) : Option BundleMember :=
  s.members.find? (·.fileAssetId = assetId)

/-! ## Assets, versions and bundles -/

def createFileAsset (s : IdentityStore) : FileAssetId × IdentityStore :=
  (s.assets.length, { s with assets := s.assets ++ [⟨false, 0⟩] })

def retireFileAsset (s : IdentityStore) (id : FileAssetId) (expectedEpoch : Nat) :
    Except VoomError IdentityStore := do
  let refused : VoomError := .conflict
    s!"file_assets retire: id={id} expected_epoch={expectedEpoch} or already retired"
  let row ← find s.assets[id]? refused
  require (row.epoch = expectedEpoch ∧ row.retired = false) refused
  return { s with assets := s.assets.set id { row with retired := true, epoch := row.epoch + 1 } }

structure NewFileVersion where
  fileAssetId : FileAssetId
  contentHash : String
  sizeBytes : Nat
  producedBy : ProducedBy
  producedFromVersionId : Option FileVersionId
  deriving DecidableEq

/-- The row an insert of a version writes. -/
def NewFileVersion.row (input : NewFileVersion) : FileVersion where
  fileAssetId := input.fileAssetId
  contentHash := input.contentHash
  sizeBytes := input.sizeBytes
  producedBy := input.producedBy
  producedFromVersionId := input.producedFromVersionId
  retired := false
  epoch := 0

def insertFileVersion (s : IdentityStore) (input : NewFileVersion) :
    Except VoomError (FileVersionId × IdentityStore) := do
  require (input.sizeBytes < 1 <<< 63)
    (.config s!"file_versions: size_bytes {input.sizeBytes} overflows i64")
  require (input.fileAssetId < s.assets.length) (.database "file_versions insert")
  return (s.versions.length, { s with versions := s.versions ++ [input.row] })

/-- A version made from another is of the same asset. -/
def createFileVersion (s : IdentityStore) (input : NewFileVersion) :
    Except VoomError (FileVersionId × IdentityStore) := do
  require (input.producedBy.allowsNullParent ∨ input.producedFromVersionId.isSome)
    (.conflict
      s!"file_versions: produced_by={input.producedBy.asStr} requires produced_from_version_id")
  match input.producedFromVersionId with
  | none => s.insertFileVersion input
  | some parentId =>
    let parent ← find s.versions[parentId]?
      (.notFound s!"file_versions parent {parentId} missing")
    require (parent.fileAssetId = input.fileAssetId)
      (.conflict s!"file_versions: parent {parentId} belongs to a different file_asset")
    s.insertFileVersion input

def retireFileVersion (s : IdentityStore) (id : FileVersionId) (expectedEpoch : Nat) :
    Except VoomError IdentityStore := do
  let refused : VoomError := .conflict
    s!"file_versions retire: id={id} expected_epoch={expectedEpoch} or already retired"
  let row ← find s.versions[id]? refused
  require (row.epoch = expectedEpoch ∧ row.retired = false) refused
  return { s with
    versions := s.versions.set id { row with retired := true, epoch := row.epoch + 1 } }

def createBundle (s : IdentityStore) (displayName : String) : BundleId × IdentityStore :=
  (s.bundles.length, { s with bundles := s.bundles ++ [⟨displayName, 0⟩] })

def updateDisplayName (s : IdentityStore) (id : BundleId) (displayName : String)
    (expectedEpoch : Nat) : Except VoomError IdentityStore := do
  let refused : VoomError := .conflict
    (s!"asset_bundles update_display_name: id={id} expected_epoch={expectedEpoch} " ++ "mismatch")
  let row ← find s.bundles[id]? refused
  require (row.epoch = expectedEpoch) refused
  return { s with bundles := s.bundles.set id ⟨displayName, row.epoch + 1⟩ }

/-- An asset is a member of one bundle at most. -/
def addMember (s : IdentityStore) (input : BundleMember) : Except VoomError IdentityStore := do
  require (s.getMemberByFileAsset input.fileAssetId = none)
    (.conflict s!"asset {input.fileAssetId} already a bundle member")
  require (input.bundleId < s.bundles.length ∧ input.fileAssetId < s.assets.length)
    (.database "asset_bundle_members insert")
  return { s with members := s.members ++ [input] }

def removeMember (s : IdentityStore) (bundleId : BundleId) (assetId : FileAssetId) :
    Except VoomError IdentityStore := do
  require (s.members.any fun member => member.bundleId = bundleId && member.fileAssetId = assetId)
    (.notFound s!"asset_bundle_members not found: bundle={bundleId} asset={assetId}")
  return { s with
    members := s.members.filter fun member =>
      ¬ (member.bundleId = bundleId ∧ member.fileAssetId = assetId) }

/-! ## Locations -/

structure NewFileLocation where
  fileVersionId : FileVersionId
  storageRootId : StorageRootId
  providerRelativeLocator : String
  proof : Option LocationProof
  deriving DecidableEq

/-- The row an insert of a location writes. -/
def NewFileLocation.row (input : NewFileLocation) : FileLocation where
  fileVersionId := input.fileVersionId
  address := .rooted input.storageRootId input.providerRelativeLocator
  proof := input.proof
  retired := false
  retiredByScanSession := none
  epoch := 0

/-- Foreign keys and the unique index of live addresses. -/
def insertFileLocation (s : IdentityStore) (input : NewFileLocation) :
    Except VoomError (FileLocationId × IdentityStore) := do
  require (input.fileVersionId < s.versions.length ∧ input.storageRootId ∈ s.roots ∧
      s.liveAt input.row.address = false)
    (.database "file_locations insert")
  return (s.locations.length, { s with locations := s.locations ++ [input.row] })

def retiredLocation (row : FileLocation) : FileLocation :=
  { row with retired := true, epoch := row.epoch + 1 }

def setLocation (s : IdentityStore) (id : FileLocationId) (row : FileLocation) : IdentityStore :=
  { s with locations := s.locations.set id row }

/-- `WHERE id = ? AND epoch = ? AND retired_at IS NULL`. -/
def findLive (s : IdentityStore) (id : FileLocationId) (expectedEpoch : Nat)
    (refused : VoomError) : Except VoomError FileLocation := do
  let row ← find s.locations[id]? refused
  require (row.epoch = expectedEpoch ∧ row.retired = false) refused
  return row

def retireFileLocation (s : IdentityStore) (id : FileLocationId) (expectedEpoch : Nat) :
    Except VoomError IdentityStore := do
  let row ← s.findLive id expectedEpoch
    (.conflict s!"file_locations retire: id={id} expected_epoch={expectedEpoch} or already retired")
  return s.setLocation id (retiredLocation row)

def replaceFileLocation (s : IdentityStore) (retiredId : FileLocationId)
    (retiredExpectedEpoch : Nat) (newLocation : NewFileLocation) :
    Except VoomError (FileLocationId × IdentityStore) := do
  let retiredRow ← find s.locations[retiredId]?
    (.conflict s!"file_locations replace: id={retiredId} not found")
  require (retiredRow.retired = false)
    (.conflict s!"file_locations replace: id={retiredId} already retired")
  require (retiredRow.fileVersionId = newLocation.fileVersionId)
    (.conflict (s!"file_locations replace: id={retiredId} on version={retiredRow.fileVersionId} " ++
      s!"but new_location targets version={newLocation.fileVersionId}"))
  let row ← s.findLive retiredId retiredExpectedEpoch
    (.conflict (s!"file_locations replace: id={retiredId} " ++
      s!"expected_epoch={retiredExpectedEpoch} or already retired"))
  (s.setLocation retiredId (retiredLocation row)).insertFileLocation newLocation

/-- The new address is written into the row; one without a root fails the table's check. -/
def updateFileLocationAddress (s : IdentityStore) (id : FileLocationId) (expectedEpoch : Nat)
    (storageRootId : StorageRootId) (providerRelativeLocator : String) :
    Except VoomError IdentityStore := do
  let row ← s.findLive id expectedEpoch
    (.conflict (s!"file_locations address update: id={id} expected_epoch={expectedEpoch} " ++
      "or already retired"))
  let address : FileLocationAddress := .rooted storageRootId providerRelativeLocator
  require (row.address.isRooted ∧ storageRootId ∈ s.roots ∧
      (row.address = address ∨ s.liveAt address = false))
    (.database "file_locations address update")
  return s.setLocation id { row with address := address, epoch := row.epoch + 1 }

/-! ## Ingest -/

structure DiscoveredFile where
  storageRootId : StorageRootId
  providerRelativeLocator : String
  contentHash : String
  sizeBytes : Nat
  proof : Option LocationProof
  deriving DecidableEq

/-- The location of the discovered file, on a version. -/
def DiscoveredFile.location (file : DiscoveredFile) (versionId : FileVersionId) :
    NewFileLocation :=
  ⟨versionId, file.storageRootId, file.providerRelativeLocator, file.proof⟩

structure IngestedFile where
  fileAssetId : FileAssetId
  fileVersionId : FileVersionId
  fileLocationId : FileLocationId
  deriving DecidableEq

inductive IngestOutcome where
  | newFileAsset (ingested : IngestedFile)
  | aliasAttached (fileVersionId : FileVersionId) (newFileLocationId : FileLocationId)
  deriving DecidableEq

/-- An asset and its first version and location. -/
def insertFile (s : IdentityStore) (producedBy : ProducedBy) (source : Option FileVersionId)
    (file : DiscoveredFile) : Except VoomError (IngestedFile × IdentityStore) := do
  let (assetId, s) := s.createFileAsset
  let (versionId, s) ← s.insertFileVersion
    ⟨assetId, file.contentHash, file.sizeBytes, producedBy, source⟩
  let (locationId, s) ← s.insertFileLocation (file.location versionId)
  return (⟨assetId, versionId, locationId⟩, s)

def ingestNewFileAsset (s : IdentityStore) (file : DiscoveredFile) :
    Except VoomError (IngestedFile × IdentityStore) :=
  s.insertFile .ingest none file

/-- A proof that a file is another location of a known one. -/
structure AliasProof where
  proof : LocationProof
  priorLocationId : FileLocationId
  deriving DecidableEq

/-- The version a valid proof is about. -/
def validateAliasProof (s : IdentityStore) (file : DiscoveredFile) (aliasProof : AliasProof) :
    Option FileVersionId := do
  let prior ← s.locations[aliasProof.priorLocationId]?
  guard (prior.retired = false ∧ prior.proof = some aliasProof.proof)
  let version ← s.versions[prior.fileVersionId]?
  guard (version.contentHash = file.contentHash ∧ version.sizeBytes = file.sizeBytes)
  return prior.fileVersionId

variable (lock : LeaseScope → Option (CommitId × LeaseScope))

/-- No commit in flight is over the version. -/
def requireUnlocked (label : String) (versionId : FileVersionId) : Except VoomError Unit :=
  match lock (.version versionId) with
  | none => .ok ()
  | some (commitId, offending) =>
      .error (.conflict (s!"{label} on file_version {versionId} blocked by in-flight commit " ++
        s!"{commitId} on offending scope {offending.typeStr} {offending.idU64}"))

def recordDiscoveredFile (s : IdentityStore) (file : DiscoveredFile)
    (aliasProof : Option AliasProof) : Except VoomError (IngestOutcome × IdentityStore) := do
  match aliasProof.bind fun proof => (s.validateAliasProof file proof).map (proof, ·) with
  | none =>
    let (ingested, s) ← s.ingestNewFileAsset file
    return (.newFileAsset ingested, s)
  | some (aliasProof, versionId) =>
    let proof ← find file.proof
      (.conflict "proof drift on alias attach: discovered.proof is None but alias_proof set")
    require (proof = aliasProof.proof) (.conflict "proof drift on alias attach")
    requireUnlocked lock "alias attach" versionId
    let (locationId, s) ← s.insertFileLocation (file.location versionId)
    return (.aliasAttached versionId locationId, s)

def attachLocalHardlinkLocation (s : IdentityStore) (versionId : FileVersionId)
    (storageRootId : StorageRootId) (providerRelativeLocator : String) :
    Except VoomError (FileLocationId × IdentityStore) := do
  requireUnlocked lock "hardlink attach" versionId
  s.insertFileLocation ⟨versionId, storageRootId, providerRelativeLocator, none⟩

/-! ## Renames -/

structure RenameProof where
  priorLocationId : FileLocationId
  storageRootId : StorageRootId
  providerRelativeLocator : String
  proof : LocationProof
  priorObservedMissing : Bool
  deriving DecidableEq

/-- The row whose file has been renamed. -/
def validateRenameSource (s : IdentityStore) (rename : RenameProof) (contentHash : String)
    (sizeBytes : Nat) : Except VoomError FileLocation := do
  let prior ← find s.locations[rename.priorLocationId]?
    (.notFound s!"file_locations {rename.priorLocationId}")
  require (prior.retired = false)
    (.conflict s!"reconcile_rename: prior location {rename.priorLocationId} already retired")
  require (prior.proof.map (·.proofKind) = some rename.proof.proofKind)
    (.conflict s!"reconcile_rename: proof_kind mismatch on {rename.priorLocationId}")
  require (prior.proof = some rename.proof)
    (.conflict s!"reconcile_rename: proof_value mismatch on {rename.priorLocationId}")
  require rename.priorObservedMissing
    (.conflict "reconcile_rename: rename requires prior path missing")
  let version ← find s.versions[prior.fileVersionId]?
    (.internal s!"reconcile_rename: file_version {prior.fileVersionId} vanished")
  require (version.contentHash = contentHash)
    (.conflict "reconcile_rename: hash drift during rename")
  require (version.sizeBytes = sizeBytes)
    (.conflict "reconcile_rename: size drift during rename")
  return prior

def reconcileRename (s : IdentityStore) (rename : RenameProof) (contentHash : String)
    (sizeBytes : Nat) : Except VoomError (FileLocationId × IdentityStore) := do
  let prior ← s.validateRenameSource rename contentHash sizeBytes
  (s.setLocation rename.priorLocationId (retiredLocation prior)).insertFileLocation
    ⟨prior.fileVersionId, rename.storageRootId, rename.providerRelativeLocator, some rename.proof⟩

/-! ## Calls and what they change -/

inductive Call where
  | createFileAsset
  | retireFileAsset (id : FileAssetId) (expectedEpoch : Nat)
  | createFileVersion (input : NewFileVersion)
  | retireFileVersion (id : FileVersionId) (expectedEpoch : Nat)
  | createBundle (displayName : String)
  | updateDisplayName (id : BundleId) (displayName : String) (expectedEpoch : Nat)
  | addMember (input : BundleMember)
  | removeMember (bundleId : BundleId) (assetId : FileAssetId)
  | createFileLocation (input : NewFileLocation)
  | retireFileLocation (id : FileLocationId) (expectedEpoch : Nat)
  | replaceFileLocation (retired : FileLocationId) (expectedEpoch : Nat) (input : NewFileLocation)
  | updateFileLocationAddress (id : FileLocationId) (expectedEpoch : Nat)
      (storageRootId : StorageRootId) (providerRelativeLocator : String)
  | recordDiscoveredFile (file : DiscoveredFile) (aliasProof : Option AliasProof)
  | attachLocalHardlinkLocation (versionId : FileVersionId) (storageRootId : StorageRootId)
      (providerRelativeLocator : String)
  | reconcileRename (rename : RenameProof) (contentHash : String) (sizeBytes : Nat)
  /-- The file that a committed artifact becomes. -/
  | recordSidecarFile (source : FileVersionId) (file : DiscoveredFile)
  deriving DecidableEq

def call (s : IdentityStore) : Call → Except VoomError IdentityStore
  | .createFileAsset => .ok s.createFileAsset.2
  | .retireFileAsset id expectedEpoch => s.retireFileAsset id expectedEpoch
  | .createFileVersion input => (s.createFileVersion input).map (·.2)
  | .retireFileVersion id expectedEpoch => s.retireFileVersion id expectedEpoch
  | .createBundle displayName => .ok (s.createBundle displayName).2
  | .updateDisplayName id displayName expectedEpoch =>
      s.updateDisplayName id displayName expectedEpoch
  | .addMember input => s.addMember input
  | .removeMember bundleId assetId => s.removeMember bundleId assetId
  | .createFileLocation input => (s.insertFileLocation input).map (·.2)
  | .retireFileLocation id expectedEpoch => s.retireFileLocation id expectedEpoch
  | .replaceFileLocation retired expectedEpoch input =>
      (s.replaceFileLocation retired expectedEpoch input).map (·.2)
  | .updateFileLocationAddress id expectedEpoch storageRootId providerRelativeLocator =>
      s.updateFileLocationAddress id expectedEpoch storageRootId providerRelativeLocator
  | .recordDiscoveredFile file aliasProof =>
      (s.recordDiscoveredFile lock file aliasProof).map (·.2)
  | .attachLocalHardlinkLocation versionId storageRootId providerRelativeLocator =>
      (s.attachLocalHardlinkLocation lock versionId storageRootId providerRelativeLocator).map (·.2)
  | .reconcileRename rename contentHash sizeBytes =>
      (s.reconcileRename rename contentHash sizeBytes).map (·.2)
  | .recordSidecarFile source file => (s.insertFile .stagedCommit (some source) file).map (·.2)

/-- One write to the tables. -/
inductive Change (s : IdentityStore) : IdentityStore → Prop where
  | asset : Change s { s with assets := s.assets ++ [⟨false, 0⟩] }
  | assetSet {id : FileAssetId} {row : FileAsset} (row' : FileAsset)
      (hrow : s.assets[id]? = some row) (hepoch : row'.epoch = row.epoch + 1) :
      Change s { s with assets := s.assets.set id row' }
  | version (input : NewFileVersion) (hasset : input.fileAssetId < s.assets.length) :
      Change s { s with versions := s.versions ++ [input.row] }
  | versionRetired {id : FileVersionId} {row : FileVersion} (hrow : s.versions[id]? = some row) :
      Change s { s with
        versions := s.versions.set id { row with retired := true, epoch := row.epoch + 1 } }
  | bundle (displayName : String) : Change s { s with bundles := s.bundles ++ [⟨displayName, 0⟩] }
  | bundleSet {id : BundleId} {row : AssetBundle} (displayName : String)
      (hrow : s.bundles[id]? = some row) :
      Change s { s with bundles := s.bundles.set id ⟨displayName, row.epoch + 1⟩ }
  | members (members : List BundleMember) : Change s { s with members := members }
  | located (input : NewFileLocation) (hversion : input.fileVersionId < s.versions.length)
      (hroot : input.storageRootId ∈ s.roots) (hfree : s.liveAt input.row.address = false) :
      Change s { s with locations := s.locations ++ [input.row] }
  | retired {id : FileLocationId} {row : FileLocation} (hrow : s.locations[id]? = some row)
      (hlive : row.retired = false) : Change s (s.setLocation id (retiredLocation row))
  | moved {id : FileLocationId} {row : FileLocation} (storageRootId : StorageRootId)
      (providerRelativeLocator : String) (hrow : s.locations[id]? = some row)
      (hlive : row.retired = false) (hrooted : row.address.isRooted = true)
      (hroot : storageRootId ∈ s.roots)
      (hfree : row.address = .rooted storageRootId providerRelativeLocator ∨
        s.liveAt (.rooted storageRootId providerRelativeLocator) = false) :
      Change s (s.setLocation id
        { row with
          address := .rooted storageRootId providerRelativeLocator
          epoch := row.epoch + 1 })

/-- The writes of a call, one after the other. -/
abbrev Changes : IdentityStore → IdentityStore → Prop := Relation.ReflTransGen Change

/-- Every location is still there, at the same address. -/
def KeepsAddresses (s s' : IdentityStore) : Prop :=
  ∀ (id : FileLocationId) (row : FileLocation), s.locations[id]? = some row →
    ∃ row', s'.locations[id]? = some row' ∧ row'.address = row.address

/-- Writes that give no location another address. -/
structure Writes (s s' : IdentityStore) : Prop where
  changes : Changes s s'
  addresses : KeepsAddresses s s'

section Changes
variable {s s' s'' : IdentityStore} {id : FileLocationId} {input : NewFileLocation}
  {storageRootId : StorageRootId} {expectedEpoch : Nat} {providerRelativeLocator : String}
  {lock : LeaseScope → Option (CommitId × LeaseScope)}

theorem KeepsAddresses.refl (s : IdentityStore) : KeepsAddresses s s :=
  fun _ row hrow => ⟨row, hrow, rfl⟩

theorem Writes.trans (h : Writes s s') (h' : Writes s' s'') : Writes s s'' := by
  refine ⟨h.changes.trans h'.changes, fun id row hrow => ?_⟩
  obtain ⟨row', hrow', haddr⟩ := h.addresses id row hrow
  obtain ⟨row'', hrow'', haddr'⟩ := h'.addresses id row' hrow'
  exact ⟨row'', hrow'', haddr'.trans haddr⟩

theorem insertFileLocation_writes (h : s.insertFileLocation input = .ok (id, s')) :
    Writes s s' := by
  simp only [insertFileLocation, bind_ok, require_ok] at h
  obtain ⟨_, ⟨hver, hroot, hfree⟩, heq⟩ := h
  cases heq
  exact ⟨.single (.located input hver hroot hfree), fun _ row hrow =>
    ⟨row, getElem?_of_isPrefix (List.prefix_append _ _) hrow, rfl⟩⟩

theorem insertFileVersion_writes {input : NewFileVersion} {id : FileVersionId}
    (h : s.insertFileVersion input = .ok (id, s')) : Writes s s' := by
  simp only [insertFileVersion, bind_ok, require_ok] at h
  obtain ⟨_, -, _, hasset, heq⟩ := h
  cases heq
  exact ⟨.single (.version input hasset), .refl s⟩

theorem createFileVersion_writes {input : NewFileVersion} {id : FileVersionId}
    (h : s.createFileVersion input = .ok (id, s')) : Writes s s' := by
  simp only [createFileVersion, bind_ok] at h
  obtain ⟨_, -, h⟩ := h
  split at h
  · exact insertFileVersion_writes h
  · simp only [bind_ok] at h
    obtain ⟨_, -, _, -, h⟩ := h
    exact insertFileVersion_writes h

theorem findLive_ok {refused : VoomError} {row : FileLocation}
    (h : s.findLive id expectedEpoch refused = .ok row) :
    s.locations[id]? = some row ∧ row.epoch = expectedEpoch ∧ row.retired = false := by
  simp only [findLive, bind_ok, find_ok, require_ok, return_ok] at h
  obtain ⟨_, hrow, _, hguard, rfl⟩ := h
  exact ⟨hrow, hguard⟩

theorem retired_writes {row : FileLocation} (hrow : s.locations[id]? = some row)
    (hlive : row.retired = false) : Writes s (s.setLocation id (retiredLocation row)) := by
  refine ⟨.single (.retired hrow hlive), fun _ _ hfound => ?_⟩
  have haddr : (retiredLocation row).address = row.address := rfl
  exact exists_getElem?_set (R := fun a b => b.address = a.address) (fun _ => rfl) hrow haddr hfound

theorem retireFileLocation_writes (h : s.retireFileLocation id expectedEpoch = .ok s') :
    Writes s s' := by
  simp only [retireFileLocation, bind_ok, return_ok] at h
  obtain ⟨_, hfind, rfl⟩ := h
  obtain ⟨hrow, -, hlive⟩ := findLive_ok hfind
  exact retired_writes hrow hlive

theorem replaceFileLocation_writes {retiredId : FileLocationId}
    (h : s.replaceFileLocation retiredId expectedEpoch input = .ok (id, s')) : Writes s s' := by
  simp only [replaceFileLocation, bind_ok] at h
  obtain ⟨_, -, _, -, _, -, _, hfind, hins⟩ := h
  obtain ⟨hrow, -, hlive⟩ := findLive_ok hfind
  exact (retired_writes hrow hlive).trans (insertFileLocation_writes hins)

theorem updateFileLocationAddress_change
    (h : s.updateFileLocationAddress id expectedEpoch storageRootId providerRelativeLocator =
      .ok s') :
    Change s s' := by
  simp only [updateFileLocationAddress, bind_ok, require_ok, return_ok] at h
  obtain ⟨_, hfind, _, ⟨hrooted, hroot, hfree⟩, rfl⟩ := h
  obtain ⟨hrow, -, hlive⟩ := findLive_ok hfind
  exact .moved storageRootId providerRelativeLocator hrow hlive hrooted hroot hfree

theorem insertFile_writes {producedBy : ProducedBy} {source : Option FileVersionId}
    {file : DiscoveredFile} {ingested : IngestedFile}
    (h : s.insertFile producedBy source file = .ok (ingested, s')) : Writes s s' := by
  simp only [insertFile, bind_ok] at h
  obtain ⟨⟨_, t⟩, hver, ⟨_, u⟩, hloc, heq⟩ := h
  cases heq
  have hasset : Writes s s.createFileAsset.2 := ⟨.single .asset, .refl s⟩
  exact (hasset.trans (insertFileVersion_writes hver)).trans (insertFileLocation_writes hloc)

theorem reconcileRename_writes {rename : RenameProof} {contentHash : String} {sizeBytes : Nat}
    (h : s.reconcileRename rename contentHash sizeBytes = .ok (id, s')) : Writes s s' := by
  simp only [reconcileRename, validateRenameSource, bind_ok, find_ok, require_ok, return_ok] at h
  obtain ⟨_, ⟨_, hrow, _, hlive, _, -, _, -, _, -, _, -, _, -, _, -, rfl⟩, hins⟩ := h
  exact (retired_writes hrow hlive).trans (insertFileLocation_writes hins)

theorem attachLocalHardlinkLocation_writes {versionId : FileVersionId}
    (h : s.attachLocalHardlinkLocation lock versionId storageRootId providerRelativeLocator =
      .ok (id, s')) :
    Writes s s' := by
  simp only [attachLocalHardlinkLocation, bind_ok] at h
  obtain ⟨_, -, hins⟩ := h
  exact insertFileLocation_writes hins

theorem recordDiscoveredFile_writes {file : DiscoveredFile} {aliasProof : Option AliasProof}
    {outcome : IngestOutcome}
    (h : s.recordDiscoveredFile lock file aliasProof = .ok (outcome, s')) : Writes s s' := by
  unfold recordDiscoveredFile at h
  split at h
  · simp only [bind_ok] at h
    obtain ⟨⟨_, t⟩, hins, heq⟩ := h
    cases heq
    exact insertFile_writes hins
  · simp only [bind_ok] at h
    obtain ⟨_, -, _, -, _, -, ⟨_, t⟩, hins, heq⟩ := h
    cases heq
    exact insertFileLocation_writes hins

/-- **Every call is a series of writes**, and but for the address update each location stays
where it is. -/
theorem call_writes {c : Call} (h : s.call lock c = .ok s') : Writes s s' ∨
    ∃ id expectedEpoch root locator,
      c = .updateFileLocationAddress id expectedEpoch root locator := by
  cases c with
  | updateFileLocationAddress _ => exact .inr ⟨_, _, _, _, rfl⟩
  | createFileAsset =>
    cases h
    exact .inl ⟨.single .asset, .refl s⟩
  | retireFileAsset _ =>
    simp only [call, retireFileAsset, bind_ok, find_ok, return_ok] at h
    obtain ⟨_, hrow, _, -, rfl⟩ := h
    exact .inl ⟨.single (.assetSet _ hrow rfl), .refl s⟩
  | createFileVersion =>
    obtain ⟨_, h⟩ := map_snd_ok h
    exact .inl (createFileVersion_writes h)
  | retireFileVersion _ =>
    simp only [call, retireFileVersion, bind_ok, find_ok, return_ok] at h
    obtain ⟨_, hrow, _, -, rfl⟩ := h
    exact .inl ⟨.single (.versionRetired hrow), .refl s⟩
  | createBundle displayName =>
    cases h
    exact .inl ⟨.single (.bundle displayName), .refl s⟩
  | updateDisplayName _ displayName =>
    simp only [call, updateDisplayName, bind_ok, find_ok, return_ok] at h
    obtain ⟨_, hrow, _, -, rfl⟩ := h
    exact .inl ⟨.single (.bundleSet displayName hrow), .refl s⟩
  | addMember =>
    simp only [call, addMember, bind_ok, return_ok] at h
    obtain ⟨_, -, _, -, rfl⟩ := h
    exact .inl ⟨.single (.members _), .refl s⟩
  | removeMember =>
    simp only [call, removeMember, bind_ok, return_ok] at h
    obtain ⟨_, -, rfl⟩ := h
    exact .inl ⟨.single (.members _), .refl s⟩
  | createFileLocation =>
    obtain ⟨_, h⟩ := map_snd_ok h
    exact .inl (insertFileLocation_writes h)
  | retireFileLocation _ => exact .inl (retireFileLocation_writes h)
  | replaceFileLocation =>
    obtain ⟨_, h⟩ := map_snd_ok h
    exact .inl (replaceFileLocation_writes h)
  | recordDiscoveredFile =>
    obtain ⟨_, h⟩ := map_snd_ok h
    exact .inl (recordDiscoveredFile_writes h)
  | attachLocalHardlinkLocation =>
    obtain ⟨_, h⟩ := map_snd_ok h
    exact .inl (attachLocalHardlinkLocation_writes h)
  | reconcileRename rename =>
    obtain ⟨_, h⟩ := map_snd_ok h
    exact .inl (reconcileRename_writes h)
  | recordSidecarFile =>
    obtain ⟨_, h⟩ := map_snd_ok h
    exact .inl (insertFile_writes h)

theorem call_changes {c : Call} (h : s.call lock c = .ok s') : Changes s s' := by
  rcases call_writes h with hwrites | ⟨_, _, _, _, rfl⟩
  · exact hwrites.changes
  · exact .single (updateFileLocationAddress_change h)

/-! ## Rows stay -/

theorem rowEpoch_isSome_iff {kind : TargetMemberKind} {id : Nat} :
    (s.rowEpoch kind id).isSome ↔ id < match kind with
      | .fileAsset => s.assets.length
      | .fileVersion => s.versions.length
      | .fileLocation => s.locations.length
      | .bundle => s.bundles.length := by
  cases kind <;> simp [rowEpoch]

/-- No row is lost. -/
structure Extends (s s' : IdentityStore) : Prop where
  assets : s.assets.length ≤ s'.assets.length
  versions : s.versions.length ≤ s'.versions.length
  locations : s.locations.length ≤ s'.locations.length
  bundles : s.bundles.length ≤ s'.bundles.length

theorem Change.extends (h : Change s s') : Extends s s' := by
  cases h <;> constructor <;> simp [setLocation]

theorem Changes.extends (h : Changes s s') : Extends s s' := by
  induction h with
  | refl => exact ⟨Nat.le_refl _, Nat.le_refl _, Nat.le_refl _, Nat.le_refl _⟩
  | tail _ hchange ih =>
    have hstep := hchange.extends
    exact ⟨ih.assets.trans hstep.assets, ih.versions.trans hstep.versions,
      ih.locations.trans hstep.locations, ih.bundles.trans hstep.bundles⟩

end Changes

end IdentityStore

end Voom
