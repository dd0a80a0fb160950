import VoomProof.ScanPublication

/-!
# Where media operations write

A media ticket carries a `media_dispatch` envelope: the address of its source, what the source
is expected to be, and the addresses of its planned outputs (`workflow/plan/binding.rs`,
`workflow/plan/envelope.rs`). An address is a storage root and a locator below it. The root is a
configured default of the library; the locator is `<branch id>/<file name>`, where the name is
made of the stem of the source and of what the operation makes of it. A backup of a library file
goes to `v<version>/<file name>`.

Policy tickets have the branch id `root`; tickets that a scan expands into have one that
`branchIdsFromPaths` derives from the scan's paths (`plan/expansion.rs`).

The rows that are read are a `MediaCatalog`. Stream selections and encoder settings are
left out, since no address depends on them; what the planner's payload decodes to is a
parameter of the operation.
-/

namespace Voom
open Fallible RustText RustPath List String

/-- A file below a storage root. -/
structure Address where
  storageRootId : Nat
  locator : String
  deriving DecidableEq

/-! ## Destination roots -/

inductive DestinationRole
  | output
  | staging
  | backup
  deriving DecidableEq

def DestinationRole.asStr : DestinationRole → String
  | .output => "output"
  | .staging => "staging"
  | .backup => "backup"

structure LibraryRoot where
  id : Nat
  defaultOutputRootId : Option Nat
  defaultStagingRootId : Option Nat
  defaultBackupRootId : Option Nat
  deriving DecidableEq

def rootDefault (root : LibraryRoot) : DestinationRole → Option Nat
  | .output => root.defaultOutputRootId
  | .staging => root.defaultStagingRootId
  | .backup => root.defaultBackupRootId

def namesDefault (root : LibraryRoot) (configured : Nat) (role : DestinationRole) : Bool :=
  rootDefault root role = some configured

/-- The root's own default, or that of a root that names this one as its default for the
same role. -/
def destinationRoot (roots : List LibraryRoot) (role : DestinationRole) (configured : Nat) :
    Except VoomError Nat :=
  match (roots.find? (·.id = configured)).bind (rootDefault · role) with
  | some direct => .ok direct
  | none =>
    find ((roots.filter (namesDefault · configured role)).findSome? (rootDefault · role))
      (.config (s!"no default {role.asStr} root configured for storage root {configured}; " ++
        s!"configure one with `voom library root update --root-id {configured} " ++
        s!"--{role.asStr}-root <id>`"))

/-! ## Sources -/

inductive MediaDispatchSource
  | location (storageRootId fileLocationId : Nat) (locator : String)
  | recordedStagedOutput (storageRootId : Nat) (locator : String)
  deriving DecidableEq

namespace MediaDispatchSource

def addressRef : MediaDispatchSource → Address
  | .location root _ locator => ⟨root, locator⟩
  | .recordedStagedOutput root locator => ⟨root, locator⟩

def locationRef (operation : String) : MediaDispatchSource → Except String Address
  | .location root _ locator => .ok ⟨root, locator⟩
  | .recordedStagedOutput _ _ =>
    .error (s!"{operation} requires a live location source; a recorded " ++
      "staged-output address is reserved for artifact verification")

def stagedTargetRef : MediaDispatchSource → Except String Address
  | .recordedStagedOutput root locator => .ok ⟨root, locator⟩
  | .location _ _ _ =>
    .error "verify_artifact targets a recorded staged-output address, not a library location"

end MediaDispatchSource

def mediaSourceFileName (source : MediaDispatchSource) : Except String String :=
  let locator := source.addressRef.locator
  match (locator.toList.splitOnP (· = '/')).getLast? with
  | some (c :: tail) => .ok (String.ofList (c :: tail))
  | _ => .error s!"source locator `{locator}` has no file-name component"

/-- The stem of a file name, as every output name starts with it. -/
def stemOrOutput (name : String) : String :=
  match fileStem name.toList with
  | some (c :: stem) => String.ofList (c :: stem)
  | _ => "output"

def mediaSourceStem (source : MediaDispatchSource) : Except String String := do
  return stemOrOutput (← mediaSourceFileName source)

/-! ## Output names -/

def sanitizeProfileId (profileId : String) : String :=
  String.ofList (profileId.toList.map fun c =>
    if c.isAlphanum ∨ c = '.' ∨ c = '_' ∨ c = '-' then c else '-')

/-- `transcode::stage::output_file_name`. -/
def outputFileName (sourcePath profileId codec container : String) : String :=
  stemOrOutput sourcePath ++ "." ++ sanitizeProfileId profileId ++ "." ++ codec ++ "." ++ container

/-- The stem is handed on as a path, so that what follows its last dot is cut off again. -/
def transcodeVideoOutputFileName (sourceStem profileId codec container : String) : String :=
  outputFileName sourceStem profileId codec container

def remuxOutputFileName (sourceStem container : String) : String :=
  sourceStem ++ ".remux." ++ container

def transcodeAudioOutputFileName (sourceStem codec container : String) : String :=
  sourceStem ++ ".audio-" ++ codec ++ "." ++ container

def extractAudioOutputFileName (sourceStem snapshotStreamId codec : String) : String :=
  sourceStem ++ "." ++ snapshotStreamId ++ "." ++ codec ++ ".ogg"

def plannedOutputLocator (branchId fileName : String) : Except String String :=
  match newProviderRelativeLocator (branchId ++ "/" ++ fileName) with
  | .ok locator => .ok locator
  | .error e =>
    .error s!"planned output locator `{branchId}/{fileName}` is not addressable: {e.display}"

def backupDestinationLocator (fileVersionId : Nat) (fileName : String) : Except String String :=
  let composed := "v" ++ toString fileVersionId ++ "/" ++ fileName
  match newProviderRelativeLocator composed with
  | .ok locator => .ok locator
  | .error e => .error s!"backup destination locator `{composed}` is not addressable: {e.display}"

/-! ## Envelopes -/

structure SourceFacts where
  sizeBytes : Nat
  contentHash : String
  deriving DecidableEq

structure MediaExtractOutput where
  outputId : String
  snapshotStreamId : String
  audioCodec : String
  output : Address
  deriving DecidableEq

inductive MediaDispatch
  | probe (source : Address) (expected : SourceFacts)
  | transcodeAudio (source : Address) (expected : SourceFacts) (outputContainer : String)
      (output : Address) (targetCodec : String)
  | extractAudio (source : Address) (expected : SourceFacts) (outputContainer : String)
      (outputs : List MediaExtractOutput)
  | transcodeVideo (source : Address) (expected : SourceFacts)
      (outputContainer outputVideoCodec : String) (output : Address)
  | remux (source : Address) (expected : SourceFacts) (outputContainer : String) (output : Address)
  | backUpFile (source destination : Address)
  | verifyArtifact (target : Address) (expected : SourceFacts)
  deriving DecidableEq

namespace MediaDispatch

def source : MediaDispatch → Address
  | probe source _ | transcodeAudio source _ _ _ _ | extractAudio source _ _ _
  | transcodeVideo source _ _ _ _ | remux source _ _ _ | backUpFile source _
  | verifyArtifact source _ => source

/-- The addresses of the planned outputs, in the order the agent takes them. -/
def outputs : MediaDispatch → List Address
  | probe _ _ | verifyArtifact _ _ => []
  | transcodeAudio _ _ _ output _ | transcodeVideo _ _ _ _ output | remux _ _ _ output
  | backUpFile _ output => [output]
  | extractAudio _ _ _ outputs => outputs.map (·.output)

/-- What the envelope pins the source to; a backup copies whatever is there. -/
def expectedSourceFacts : MediaDispatch → Option SourceFacts
  | probe _ facts | transcodeAudio _ facts _ _ _ | extractAudio _ facts _ _
  | transcodeVideo _ facts _ _ _ | remux _ facts _ _ | verifyArtifact _ facts => some facts
  | backUpFile _ _ => none

/-- The single output or destination, for the children of the ticket. -/
def parentEnvelopeOutput : MediaDispatch → Option Address
  | transcodeAudio _ _ _ output _ | transcodeVideo _ _ _ _ output | remux _ _ _ output
  | backUpFile _ output => some output
  | probe _ _ | extractAudio _ _ _ _ | verifyArtifact _ _ => none

end MediaDispatch

structure VideoProfile where
  name : String
  targetCodec : String
  deriving DecidableEq

def VideoProfile.defaultHevc : VideoProfile := ⟨"default-hevc", "hevc"⟩

structure MediaExtractionRequest where
  outputId : String
  snapshotStreamId : String
  audioCodec : String
  deriving DecidableEq

def renderMediaDispatchProbe (source : MediaDispatchSource) (expected : SourceFacts) :
    Except String MediaDispatch := do
  return .probe (← source.locationRef "probe") expected

/-- The source, and one output in the branch that is named after the stem of the source. -/
def renderStaged (operation branchId : String) (source : MediaDispatchSource)
    (fileName : String → String) (destinationRootId : Nat) : Except String (Address × Address) := do
  let stem ← mediaSourceStem source
  let sourceRef ← source.locationRef operation
  let locator ← plannedOutputLocator branchId (fileName stem)
  return (sourceRef, ⟨destinationRootId, locator⟩)

def renderMediaDispatchTranscodeAudio (branchId : String) (source : MediaDispatchSource)
    (expected : SourceFacts) (targetCodec : String) (destinationRootId : Nat) :
    Except String MediaDispatch := do
  let staged ← renderStaged "transcode_audio" branchId source
    (transcodeAudioOutputFileName · targetCodec "mkv") destinationRootId
  return .transcodeAudio staged.1 expected "mkv" staged.2 targetCodec

def renderExtraction (branchId stem : String) (destinationRootId : Nat)
    (extraction : MediaExtractionRequest) : Except String MediaExtractOutput := do
  let locator ← plannedOutputLocator branchId
    (extractAudioOutputFileName stem extraction.snapshotStreamId extraction.audioCodec)
  return ⟨extraction.outputId, extraction.snapshotStreamId, extraction.audioCodec,
    ⟨destinationRootId, locator⟩⟩

def renderMediaDispatchExtractAudio (branchId : String) (source : MediaDispatchSource)
    (expected : SourceFacts) (extractions : List MediaExtractionRequest)
    (destinationRootId : Nat) : Except String MediaDispatch := do
  let stem ← mediaSourceStem source
  let outputs ← extractions.mapM (renderExtraction branchId stem destinationRootId)
  let sourceRef ← source.locationRef "extract_audio"
  return .extractAudio sourceRef expected "ogg" outputs

def renderMediaDispatchTranscodeVideo (branchId : String) (source : MediaDispatchSource)
    (expected : SourceFacts) (destinationRootId : Nat) (profile : VideoProfile) :
    Except String MediaDispatch := do
  let staged ← renderStaged "transcode_video" branchId source
    (transcodeVideoOutputFileName · profile.name profile.targetCodec "mkv") destinationRootId
  return .transcodeVideo staged.1 expected "mkv" profile.targetCodec staged.2

def renderMediaDispatchRemux (branchId : String) (source : MediaDispatchSource)
    (expected : SourceFacts) (destinationRootId : Nat) : Except String MediaDispatch := do
  let staged ← renderStaged "remux" branchId source (remuxOutputFileName · "mkv") destinationRootId
  return .remux staged.1 expected "mkv" staged.2

def renderMediaDispatchBackUpFile (source : MediaDispatchSource) (fileVersionId : Nat)
    (destinationRootId : Nat) : Except String MediaDispatch := do
  let fileName ← mediaSourceFileName source
  let sourceRef ← source.locationRef "back_up_file"
  let locator ← backupDestinationLocator fileVersionId fileName
  return .backUpFile sourceRef ⟨destinationRootId, locator⟩

def renderMediaDispatchBackUpStagedOutput (branchId : String) (source : MediaDispatchSource)
    (destinationRootId : Nat) : Except String MediaDispatch := do
  let fileName ← mediaSourceFileName source
  let locator ← plannedOutputLocator branchId fileName
  return .backUpFile source.addressRef ⟨destinationRootId, locator⟩

def renderMediaDispatchVerifyArtifact (source : MediaDispatchSource) (expected : SourceFacts) :
    Except String MediaDispatch := do
  return .verifyArtifact (← source.stagedTargetRef) expected

def bindingResult (result : Except String MediaDispatch) :
    Except VoomError (Option MediaDispatch) :=
  match result with
  | .ok dispatch => .ok (some dispatch)
  | .error e => .error (.config s!"media dispatch envelope binding: {e}")

/-! ## Tickets of a policy -/

/-- A row of `file_locations`; the address is missing if it is not a rooted one. -/
structure SourceLocation where
  fileVersionId : Nat
  retired : Bool
  address : Option Address
  deriving DecidableEq

structure MediaCatalog where
  roots : List LibraryRoot
  location : Nat → Option SourceLocation
  version : Nat → Option SourceFacts

def locationSource (catalog : MediaCatalog) (storageRootId fileLocationId : Nat) :
    Except VoomError MediaDispatchSource := do
  let location ← find (catalog.location fileLocationId)
    (.config s!"media dispatch envelope: file_location {fileLocationId} vanished")
  require (location.retired = false) (.config (s!"media dispatch envelope: file_location " ++
    s!"{fileLocationId} is not live rooted: not found: file_location {fileLocationId} is retired"))
  let address ← find location.address (.config (s!"media dispatch envelope: file_location " ++
    s!"{fileLocationId} is not live rooted: config error: file_location {fileLocationId} " ++
    "must have a rooted address"))
  require (address.storageRootId = storageRootId) (.config (s!"file_location {fileLocationId} " ++
    s!"moved to storage root {address.storageRootId}, " ++
    s!"but the ticket declares root {storageRootId}"))
  return .location address.storageRootId fileLocationId address.locator

/-- What the payload and the snapshot of an extraction decode to. -/
structure ExtractPlan where
  targetCodec : String
  /-- The stable output id, and the stream. -/
  outputs : List (Option String × String)
  deriving DecidableEq

/-- The operation of a policy node with what its payload and the pinned snapshot decode to, or
the error of decoding them.  An audio block is decoded before the destination is resolved, and
its selection is derived after it. -/
inductive PolicyOperation
  | probeFile
  | backUpFile
  | transcodeVideo (profile : Except VoomError VideoProfile)
  | remux (selection : Except VoomError Unit)
  | transcodeAudio (decoded : Except VoomError Unit) (targetCodec : Except VoomError String)
  | extractAudio (decoded : Except VoomError Unit) (plan : Except VoomError ExtractPlan)
  | other

structure PolicyFileSource where
  fileVersionId : Nat
  storageRootId : Nat
  locationId : Nat
  deriving DecidableEq

def stagingDestination (catalog : MediaCatalog) (storageRootId : Nat) : Except VoomError Nat :=
  destinationRoot catalog.roots .staging storageRootId

def extractionRequest (targetCodec : String) (output : Option String × String) :
    Except VoomError MediaExtractionRequest := do
  let outputId ← find output.1
    (.config "media dispatch envelope: extract-audio output carries no stable output id")
  return ⟨outputId, output.2, targetCodec⟩

def policyEnvelope (catalog : MediaCatalog) (branchId : String) (operation : PolicyOperation)
    (source : PolicyFileSource) : Except VoomError (Option MediaDispatch) := do
  let sourceRef ← locationSource catalog source.storageRootId source.locationId
  let facts ← find (catalog.version source.fileVersionId)
    (.config s!"media dispatch envelope: file_version {source.fileVersionId} vanished")
  match operation with
  | .probeFile => bindingResult (renderMediaDispatchProbe sourceRef facts)
  | .backUpFile =>
    let destination ← destinationRoot catalog.roots .backup source.storageRootId
    bindingResult (renderMediaDispatchBackUpFile sourceRef source.fileVersionId destination)
  | .transcodeVideo profile =>
    let profile ← profile
    let destination ← stagingDestination catalog source.storageRootId
    bindingResult (renderMediaDispatchTranscodeVideo branchId sourceRef facts destination profile)
  | .remux selection =>
    selection
    let destination ← stagingDestination catalog source.storageRootId
    bindingResult (renderMediaDispatchRemux branchId sourceRef facts destination)
  | .transcodeAudio decoded targetCodec =>
    decoded
    let destination ← stagingDestination catalog sourceRef.addressRef.storageRootId
    let targetCodec ← targetCodec
    bindingResult
      (renderMediaDispatchTranscodeAudio branchId sourceRef facts targetCodec destination)
  | .extractAudio decoded plan =>
    decoded
    let destination ← stagingDestination catalog sourceRef.addressRef.storageRootId
    let plan ← plan
    let extractions ← plan.outputs.mapM (extractionRequest plan.targetCodec)
    bindingResult
      (renderMediaDispatchExtractAudio branchId sourceRef facts extractions destination)
  | .other => return none

/-! ## Tickets that a scan expands into -/

def branchIdFromPath (path : String) : Except VoomError String :=
  match fileStem path.toList with
  | some stem => .ok (String.ofList stem)
  | none => .error (.config s!"cannot derive branch id from `{path}`")

def longestCommonDir : List (List Component) → List Component
  | [] => []
  | first :: dirs => dirs.foldl
      (fun common dir => common.take
        ((common.zip dir).takeWhile fun pair => pair.1 = pair.2).length) first

def branchIdFromRelativePath (path : String) (commonDir : List Component) :
    Except VoomError String :=
  let parts := pathComponents path.toList
  let relative := if commonDir.isPrefixOf parts then parts.drop commonDir.length else parts
  let names := relative.filterMap fun part =>
    match part with
    | .normal name => some (String.ofList name)
    | _ => none
  let branchId := String.intercalate "/" names
  if branchId = "" then
    .error (.config s!"cannot derive disambiguated branch id from `{path}`")
  else
    .ok branchId

/-- The path's branch id: its stem, or, if another path of the scan has the same stem, what
distinguishes it from those below their common directory. -/
def disambiguatedBranchId (paths : List String) (path : String) : Except VoomError String := do
  let branchId ← branchIdFromPath path
  let colliding := paths.filter fun other => fileStem other.toList = fileStem path.toList
  if colliding.any (· ≠ path) then
    branchIdFromRelativePath path
      (longestCommonDir (colliding.map fun other => (pathComponents other.toList).dropLast))
  else
    return branchId

/-- `HashMap::insert` into the paths seen so far: the latest path of a branch id comes first. -/
def noteBranchId (seen : List (String × String)) (entry : String × String) :
    Except VoomError (List (String × String)) := do
  match seen.lookup entry.1 with
  | some existing =>
    require (existing = entry.2) (.config
      s!"paths `{existing}` and `{entry.2}` both derive branch id `{entry.1}`")
  | none => pure ()
  return entry :: seen

def ensureUniqueBranchIdsForDistinctPaths (paths branchIds : List String) :
    Except VoomError Unit := do
  let _ ← (branchIds.zip paths).foldlM noteBranchId []
  return ()

def branchIdsFromPaths (paths : List String) : Except VoomError (List String) := do
  let _ ← paths.mapM branchIdFromPath
  let branchIds ← paths.mapM (disambiguatedBranchId paths)
  ensureUniqueBranchIdsForDistinctPaths paths branchIds
  return branchIds

/-- What a child ticket takes over from its parent. -/
structure BranchContext where
  branchId : String
  /-- The facts the scan has recorded, or the error of decoding them. -/
  sourceFile : Option (Except VoomError SourceFacts)
  /-- Storage root and location; a child of a staged output names no location. -/
  storageSource : Option (Nat × Nat)

inductive ExpansionOperation
  | probeFile
  | transcodeVideo (profile : Except VoomError VideoProfile)
  | remux (selection : Except VoomError Unit)
  | verifyArtifact
  | other (name : String)

def ExpansionOperation.asStr : ExpansionOperation → String
  | .probeFile => "probe_file"
  | .transcodeVideo _ => "transcode_video"
  | .remux _ => "remux"
  | .verifyArtifact => "verify_artifact"
  | .other name => name

def expansionEnvelope (catalog : MediaCatalog) (operation : ExpansionOperation)
    (branch : BranchContext) : Except VoomError (Option MediaDispatch) := do
  let sourceFile ← find branch.sourceFile (.config (s!"media dispatch envelope: expansion child " ++
    s!"{operation.asStr} carries no scan-recorded facts"))
  let declared ← find branch.storageSource
    (.config (s!"media dispatch envelope: expansion child " ++
    s!"{operation.asStr} declares no rooted location"))
  let sourceRef ← locationSource catalog declared.1 declared.2
  let facts ← sourceFile
  match operation with
  | .probeFile => bindingResult (renderMediaDispatchProbe sourceRef facts)
  | .transcodeVideo profile =>
    let profile ← profile
    let destination ← stagingDestination catalog declared.1
    bindingResult
      (renderMediaDispatchTranscodeVideo branch.branchId sourceRef facts destination profile)
  | .remux selection =>
    selection
    let destination ← stagingDestination catalog declared.1
    bindingResult (renderMediaDispatchRemux branch.branchId sourceRef facts destination)
  | .verifyArtifact => return none
  | .other name =>
    .error (.config
      s!"media dispatch envelope: expansion child operation {name} has no envelope arm")

/-- The backup child of a ticket that has staged an output. -/
def backupChildEnvelope (catalog : MediaCatalog) (branchId : String) (parent : MediaDispatch) :
    Except VoomError (Option MediaDispatch) := do
  let output ← find parent.parentEnvelopeOutput (.config
    (s!"media dispatch envelope: parent of backup child {branchId} recorded no staged " ++
      "output"))
  let destination ← destinationRoot catalog.roots .backup output.storageRootId
  bindingResult (renderMediaDispatchBackUpStagedOutput branchId
    (.recordedStagedOutput output.storageRootId output.locator) destination)

/-- The verify child of a backup.  The ticket has a result when its lease was released, with the
facts of the first output if they were observed. -/
def verifyChildEnvelope (parent : MediaDispatch) (result : Option (Option SourceFacts)) :
    Except VoomError (Option MediaDispatch) := do
  let result ← find result
    (.config "media dispatch envelope: parent of verify child released no result")
  let output ← find parent.parentEnvelopeOutput
    (.config "media dispatch envelope: parent of verify child recorded no staged output")
  let facts ← find result
    (.config "media dispatch envelope: parent of verify child observed no output facts")
  bindingResult (renderMediaDispatchVerifyArtifact
    (.recordedStagedOutput output.storageRootId output.locator) facts)

/-- The branch id of every ticket of a policy. -/
def policyBranchId : String := "root"

/-! ## From a transform to its backup -/

/-- The default in the row of the root itself. -/
def ownDefault (roots : List LibraryRoot) (role : DestinationRole) (root : Nat) : Option Nat :=
  (roots.find? (·.id = root)).bind (rootDefault · role)

/-- The search among the other rows finds nothing but the root it started from. -/
theorem destinationRoot_ok_iff {roots : List LibraryRoot} {role : DestinationRole}
    {root destination : Nat} :
    destinationRoot roots role root = .ok destination ↔
      ownDefault roots role root = some destination ∨
        ownDefault roots role root = none ∧ destination = root ∧
          ∃ owner ∈ roots, rootDefault owner role = some root := by
  unfold destinationRoot
  cases hown : ownDefault roots role root with
  | some =>
    rw [ownDefault] at hown
    simp [hown]
  | none =>
    rw [ownDefault] at hown
    simp only [hown, find_ok, reduceCtorEq, false_or, true_and]
    cases hnames : roots.filter (namesDefault · root role) with
    | nil =>
      refine iff_of_false (by simp) ?_
      rintro ⟨_, owner, hmem, hroot⟩
      exact filter_eq_nil_iff.mp hnames owner hmem (decide_eq_true hroot)
    | cons first =>
      obtain ⟨hmem, hfirst⟩ := mem_filter.mp (hnames ▸ mem_cons_self)
      have hroot : rootDefault first role = some root := of_decide_eq_true hfirst
      rw [findSome?_cons, hroot]
      exact ⟨fun h => ⟨(Option.some.inj h).symm, first, hmem, hroot⟩, fun h => h.1 ▸ rfl⟩

/-- What a root's destination should be: its own default, or else the default of a root that
names this one as any of its defaults. -/
def Assigned (roots : List LibraryRoot) (role : DestinationRole) (root destination : Nat) : Prop :=
  ownDefault roots role root = some destination ∨
    ownDefault roots role root = none ∧ ∃ owner ∈ roots,
      (∃ named, rootDefault owner named = some root) ∧ rootDefault owner role = some destination

/-- An assigned destination is found where the root has a default of its own, or is itself a
default for the role, or where there is none to be found. -/
theorem destinationRoot_assigned_iff {roots : List LibraryRoot} {role : DestinationRole}
    {root : Nat} :
    ((∃ assigned, Assigned roots role root assigned) →
        ∃ destination, destinationRoot roots role root = .ok destination ∧
          Assigned roots role root destination) ↔
      ownDefault roots role root ≠ none ∨ (∃ owner ∈ roots, rootDefault owner role = some root) ∨
        ∀ owner ∈ roots, (∃ named, rootDefault owner named = some root) →
          rootDefault owner role = none := by
  constructor
  · intro hlaw
    by_contra hnone
    push Not at hnone
    obtain ⟨hown, hself, owner, hmem, hnames, hdefault⟩ := hnone
    obtain ⟨assigned, hassigned⟩ := Option.ne_none_iff_exists'.mp hdefault
    obtain ⟨_, hfound, -⟩ := hlaw ⟨assigned, .inr ⟨hown, owner, hmem, hnames, hassigned⟩⟩
    rcases destinationRoot_ok_iff.mp hfound with hdirect | ⟨-, -, owner', hmem', hroot⟩
    · cases hown.symm.trans hdirect
    · exact hself owner' hmem' hroot
  · rintro (hown | ⟨owner, hmem, hroot⟩ | hnone) ⟨assigned, hassigned⟩
    · obtain ⟨direct, hdirect⟩ := Option.ne_none_iff_exists'.mp hown
      exact ⟨direct, destinationRoot_ok_iff.mpr (.inl hdirect), .inl hdirect⟩
    · cases hown : ownDefault roots role root with
      | some direct => exact ⟨direct, destinationRoot_ok_iff.mpr (.inl hown), .inl hown⟩
      | none =>
        exact ⟨root, destinationRoot_ok_iff.mpr (.inr ⟨hown, rfl, owner, hmem, hroot⟩),
          .inr ⟨hown, owner, hmem, ⟨role, hroot⟩, hroot⟩⟩
    · rcases hassigned with hdirect | ⟨-, owner, hmem, hnames, hdefault⟩
      · exact ⟨assigned, destinationRoot_ok_iff.mpr (.inl hdirect), .inl hdirect⟩
      · cases (hnone owner hmem hnames).symm.trans hdefault
/-- Where a copy of the output is planned: under its name, in the branch. -/
def CopyLocator (branchId : String) (output : Address) (locator : String) : Prop :=
  ∃ name, mediaSourceFileName (.recordedStagedOutput output.storageRootId output.locator) =
    .ok name ∧ plannedOutputLocator branchId name = .ok locator

theorem backupChildEnvelope_ok_iff {catalog : MediaCatalog} {branchId : String}
    {parent child : MediaDispatch} {output : Address}
    (houtput : parent.parentEnvelopeOutput = some output) :
    backupChildEnvelope catalog branchId parent = .ok (some child) ↔
      ∃ root, destinationRoot catalog.roots .backup output.storageRootId = .ok root ∧
        ∃ locator, CopyLocator branchId output locator ∧
          child = .backUpFile output ⟨root, locator⟩ := by
  obtain ⟨_, _⟩ := output
  have hbinding : ∀ result, bindingResult result = .ok (some child) ↔ result = .ok child := by
    rintro (_ | _) <;> simp [bindingResult]
  simp only [backupChildEnvelope, houtput, bind_ok, find_ok, Option.some.injEq, exists_eq_left',
    hbinding, renderMediaDispatchBackUpStagedOutput, return_ok, MediaDispatchSource.addressRef,
    CopyLocator]
  grind

/-- **A leaf without a backup default of its own is backed up on the backup root of its library
exactly if that is the leaf itself**, since a default of another role is not looked for.  A backup
child copies the output of its parent, and its verify child reads what it has written.  For any
role and root, an assigned destination is found exactly where the root has a default of its own,
is itself a default for the role, or has none assigned. -/
theorem backup_chain_iff {catalog : MediaCatalog} {branchId : String} {parent : MediaDispatch}
    {output : Address} {library : LibraryRoot} {backup : Nat} (hlibrary : library ∈ catalog.roots)
    (hbackup : library.defaultBackupRootId = some backup)
    (hleaf : ∀ root ∈ catalog.roots, root.id = output.storageRootId →
      root.defaultBackupRootId = none)
    (houtput : parent.parentEnvelopeOutput = some output) :
    (∀ locator, backupChildEnvelope catalog branchId parent =
        .ok (some (.backUpFile output ⟨backup, locator⟩)) ↔
      backup = output.storageRootId ∧ CopyLocator branchId output locator) ∧
    (∀ child, backupChildEnvelope catalog branchId parent = .ok (some child) →
      ∃ destination, child = .backUpFile output destination ∧ ∀ facts,
        verifyChildEnvelope child (some (some facts)) =
          .ok (some (.verifyArtifact destination facts))) ∧
    (∀ role root destination, destinationRoot catalog.roots role root = .ok destination ↔
      ownDefault catalog.roots role root = some destination ∨
        ownDefault catalog.roots role root = none ∧ destination = root ∧
          ∃ owner ∈ catalog.roots, rootDefault owner role = some root) ∧
    ∀ role root, ((∃ assigned, Assigned catalog.roots role root assigned) →
        ∃ destination, destinationRoot catalog.roots role root = .ok destination ∧
          Assigned catalog.roots role root destination) ↔
      ownDefault catalog.roots role root ≠ none ∨
        (∃ owner ∈ catalog.roots, rootDefault owner role = some root) ∨
        ∀ owner ∈ catalog.roots, (∃ named, rootDefault owner named = some root) →
          rootDefault owner role = none := by
  have hown : ownDefault catalog.roots .backup output.storageRootId = none := by
    rw [ownDefault, Option.bind_eq_none_iff]
    intro root hroot
    exact hleaf root (mem_of_find?_eq_some hroot) (by simpa using find?_some hroot)
  refine ⟨fun locator => ⟨?_, ?_⟩, ?_, fun _ _ _ => destinationRoot_ok_iff,
    fun _ _ => destinationRoot_assigned_iff⟩
  · intro hchild
    obtain ⟨_, hroot, _, hlocator, heq⟩ := (backupChildEnvelope_ok_iff houtput).mp hchild
    cases heq
    rcases destinationRoot_ok_iff.mp hroot with hdirect | ⟨-, hself, -⟩
    · cases hown.symm.trans hdirect
    · exact ⟨hself, hlocator⟩
  · rintro ⟨rfl, hlocator⟩
    have hroot := destinationRoot_ok_iff.mpr (.inr ⟨hown, rfl, library, hlibrary, hbackup⟩)
    exact (backupChildEnvelope_ok_iff houtput).mpr ⟨_, hroot, locator, hlocator, rfl⟩
  · intro _ hchild
    obtain ⟨_, -, _, -, rfl⟩ := (backupChildEnvelope_ok_iff houtput).mp hchild
    exact ⟨_, rfl, fun _ => rfl⟩

/-- A library whose staging root is also its backup root. -/
def MediaWorld.episodes : MediaCatalog where
  roots := [⟨1, none, some 2, some 2⟩, ⟨2, none, none, none⟩]
  location id :=
    if id = 1 then some ⟨1, false, some ⟨1, "Show.S01E01.mkv"⟩⟩
    else if id = 2 then some ⟨2, false, some ⟨1, "Show.S01E02.mkv"⟩⟩
    else none
  version _ := some ⟨1, "h"⟩

/-- The remux of the first episode. -/
def episodeRemux : MediaDispatch :=
  .remux ⟨1, "Show.S01E01.mkv"⟩ ⟨1, "h"⟩ "mkv" ⟨2, "b/Show.S01E01.remux.mkv"⟩

theorem episode_backed_up : backupChildEnvelope MediaWorld.episodes "b" episodeRemux =
    .ok (some (.backUpFile ⟨2, "b/Show.S01E01.remux.mkv"⟩ ⟨2, "b/Show.S01E01.remux.mkv"⟩)) := by
  have hlibrary : ⟨1, none, some 2, some 2⟩ ∈ MediaWorld.episodes.roots := mem_cons_self
  exact ((backup_chain_iff hlibrary rfl (by decide) rfl).1 _).mpr ⟨rfl, "Show.S01E01.remux.mkv",
    rfl, rfl⟩

/-- With a backup root apart from the staging root, the remux is rendered and its backup is not. -/
theorem separate_backup_refused :
    let catalog := { MediaWorld.episodes with roots :=
      [⟨1, none, some 2, some 3⟩, ⟨2, none, none, none⟩, ⟨3, none, none, none⟩] }
    expansionEnvelope catalog (.remux (.ok ())) ⟨"b", some (.ok ⟨1, "h"⟩), some (1, 1)⟩ =
        .ok (some episodeRemux) ∧
      backupChildEnvelope catalog "b" episodeRemux =
        .error (.config ("no default backup root configured for storage root 2; configure one " ++
          "with `voom library root update --root-id 2 --backup-root <id>`")) :=
  ⟨rfl, rfl⟩

/-! ## Which name a source gives to its output -/

/-- The last component of the locator has this stem. -/
structure HasStem (source : MediaDispatchSource) (stem : String) : Prop where
  named : ∃ name, mediaSourceFileName source = .ok name ∧ fileStem name.toList = some stem.toList
  nonempty : stem ≠ ""

/-- Nothing of the stem is cut off when it is taken for a path. -/
abbrev Undotted (stem : String) : Prop := '.' ∉ stem.toList.drop 1 ∧ stem ≠ "."

variable {source : MediaDispatchSource} {stem : String}

theorem stemOrOutput_eq {name : String} (h : fileStem name.toList = some stem.toList)
    (hne : stem ≠ "") : stemOrOutput name = stem := by
  rw [stemOrOutput, h]
  cases hchars : stem.toList with
  | nil => exact absurd (toList_eq_nil_iff.mp hchars) hne
  | cons c => rw [← ofList_toList (s := stem), hchars]

theorem stemOrOutput_eq_self_iff (hslash : '/' ∉ stem.toList) (hne : stem ≠ "") :
    stemOrOutput stem = stem ↔ Undotted stem := by
  have hundotted : Undotted stem ↔ fileStem stem.toList = some stem.toList := by
    rw [fileStem_eq_self_iff hslash (by simpa using hne), Undotted, ne_eq, ne_eq, ← toList_inj]
    rfl
  rw [hundotted]
  refine ⟨fun h => ?_, fun h => stemOrOutput_eq h hne⟩
  unfold stemOrOutput at h
  split at h
  next c _ hstem => rw [hstem, ← h, toList_ofList]
  next =>
    subst h
    decide

theorem HasStem.spec (h : HasStem source stem) (root : String) :
    mediaSourceStem source = .ok stem ∧ '/' ∉ stem.toList ∧
      stemOrOutput (root ++ "/" ++ source.addressRef.locator) = stem := by
  obtain ⟨⟨name, hname, hstem⟩, hne⟩ := h
  have hlast : (source.addressRef.locator.toList.splitOnP (· = '/')).getLast? =
      some name.toList := by
    simp only [mediaSourceFileName] at hname
    split at hname
    next c _ hlast => rw [hlast, ← Except.ok.inj hname, toList_ofList]
    next => cases hname
  have hpath : ((root ++ "/" ++ source.addressRef.locator).toList.splitOnP (· = '/')).getLast? =
      some name.toList := by
    have htext : (root ++ "/" ++ source.addressRef.locator).toList =
        root.toList ++ '/' :: source.addressRef.locator.toList := by simp
    rw [htext, splitOnP_append_cons _ _ (by rfl), getLast?_append, hlast, Option.some_or]
  obtain ⟨_, hfile, hfileStem⟩ := Option.map_eq_some_iff.mp hstem
  obtain ⟨hname', rfl⟩ := fileName_of_getLast? hpath hfile
  refine ⟨?_, fun hslash => ?_, stemOrOutput_eq ?_ hne⟩
  · rw [mediaSourceStem, hname]
    exact congrArg Except.ok (stemOrOutput_eq hstem hne)
  · exact absurd ((of_mem_splitOnP (mem_of_getLast? hlast)).2 _
      (stemOf_subset _ (hfileStem ▸ hslash))) (by decide)
  · rw [fileStem, hname', ← hfileStem]
    rfl

theorem outputFileName_inj_iff {path path' profileId codec container : String} :
    outputFileName path profileId codec container = outputFileName path' profileId codec container ↔
      stemOrOutput path = stemOrOutput path' := by
  rw [outputFileName, outputFileName, ← toList_inj, ← toList_inj]
  simp

/-- **The name that an envelope is rendered with is that for the whole path of the source exactly
if the stem of the source has no dot behind its first character and is no dot.**  Sources with such
stems have different names if their stems differ. -/
theorem transcodeVideoOutputFileName_eq_iff {source' : MediaDispatchSource} {stem' : String}
    (h : HasStem source stem) (h' : HasStem source' stem')
    (root profileId codec container : String) :
    mediaSourceStem source = .ok stem ∧
      outputFileName (root ++ "/" ++ source.addressRef.locator) profileId codec container =
        stem ++ "." ++ sanitizeProfileId profileId ++ "." ++ codec ++ "." ++ container ∧
      (transcodeVideoOutputFileName stem profileId codec container =
          outputFileName (root ++ "/" ++ source.addressRef.locator) profileId codec container ↔
        Undotted stem) ∧
      (Undotted stem → Undotted stem' →
        transcodeVideoOutputFileName stem profileId codec container =
          transcodeVideoOutputFileName stem' profileId codec container → stem = stem') := by
  obtain ⟨hsource, hslash, hpath⟩ := h.spec root
  obtain ⟨-, hslash', -⟩ := h'.spec root
  have hself := stemOrOutput_eq_self_iff hslash h.nonempty
  have hself' := stemOrOutput_eq_self_iff hslash' h'.nonempty
  refine ⟨hsource, by rw [outputFileName, hpath], ?_, ?_⟩
  · rw [transcodeVideoOutputFileName, outputFileName_inj_iff, hpath, hself]
  · intro hstem hstem' hname
    rw [← hself.mpr hstem, ← hself'.mpr hstem']
    exact outputFileName_inj_iff.mp hname

theorem plain_stems_differ :
    transcodeVideoOutputFileName "a" "hd" "hevc" "mkv" =
      outputFileName "/m/a.mkv" "hd" "hevc" "mkv" ∧
      transcodeVideoOutputFileName "a" "hd" "hevc" "mkv" ≠
        transcodeVideoOutputFileName "b" "hd" "hevc" "mkv" := by
  have ha : HasStem (.location 1 1 "a.mkv") "a" := ⟨⟨"a.mkv", by decide, by decide⟩, by decide⟩
  have hb : HasStem (.location 1 1 "b.mkv") "b" := ⟨⟨"b.mkv", by decide, by decide⟩, by decide⟩
  obtain ⟨-, -, hname, hdiffer⟩ := transcodeVideoOutputFileName_eq_iff ha hb "/m" "hd" "hevc" "mkv"
  exact ⟨hname.mpr (by decide), fun h => absurd (hdiffer (by decide) (by decide) h) (by decide)⟩

/-- The two parts of a film get one name, and neither gets the one for its path. -/
theorem parts_share_name :
    mediaSourceStem (.location 1 1 "film/m.1.mkv") = .ok "m.1" ∧
      mediaSourceStem (.location 1 2 "film/m.2.mkv") = .ok "m.2" ∧
      outputFileName "/media/film/m.1.mkv" "hd" "hevc" "mkv" = "m.1.hd.hevc.mkv" ∧
      transcodeVideoOutputFileName "m.1" "hd" "hevc" "mkv" = "m.hd.hevc.mkv" ∧
      transcodeVideoOutputFileName "m.2" "hd" "hevc" "mkv" = "m.hd.hevc.mkv" := by
  decide

end Voom
