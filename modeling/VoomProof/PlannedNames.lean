import VoomProof.PlannedOutputs

/-!
# What planned outputs are called after

The addresses of an envelope, from what it is rendered from: the default roots in the table, the
branch id, the stem of the source and the words of the operation. A `PlannedName` is a root, a
directory and a name; an operation gives one name for each `Product`, and every envelope that is
rendered has the addresses of its `TicketNames` (`policyEnvelope_rendered`,
`expansionEnvelope_rendered`, `backupChildEnvelope_rendered`). Names without a slash have one
address only if they agree in all three parts (`PlannedName.address_inj`).
-/

namespace Voom
open Fallible RustText RustPath List String

/-! ## Names -/

/-- What a planned output is called after: its root, its directory and its name. -/
structure PlannedName where
  root : Nat
  directory : String
  name : String
  deriving DecidableEq

def PlannedName.address (output : PlannedName) : Address :=
  ⟨output.root, output.directory ++ "/" ++ output.name⟩

/-- **Outputs whose names are plain have one address exactly if root, directory and name are the
same.** -/
theorem PlannedName.address_inj {output output' : PlannedName} (hname : '/' ∉ output.name.toList)
    (hname' : '/' ∉ output'.name.toList) : output.address = output'.address ↔ output = output' := by
  obtain ⟨_, directory, name⟩ := output
  obtain ⟨_, directory', name'⟩ := output'
  have htext : directory ++ "/" ++ name = directory' ++ "/" ++ name' ↔
      directory.toList ++ '/' :: name.toList = directory'.toList ++ '/' :: name'.toList := by
    rw [← toList_inj]
    simp
  rw [address, address, Address.mk.injEq, mk.injEq, htext, append_separator_inj hname hname',
    toList_inj, toList_inj]

/-- What an operation makes of its source, in the words that its name is made of. -/
inductive Product
  | video (profile : VideoProfile)
  | remux
  | audio (codec : String)
  | extracted (snapshotStreamId codec : String)
  deriving DecidableEq

namespace Product

def fileName (stem : String) : Product → String
  | video profile => transcodeVideoOutputFileName stem profile.name profile.targetCodec "mkv"
  | remux => remuxOutputFileName stem "mkv"
  | audio codec => transcodeAudioOutputFileName stem codec "mkv"
  | extracted snapshotStreamId codec => extractAudioOutputFileName stem snapshotStreamId codec

/-- As much of the stem as the name shows. -/
def shownStem (stem : String) : Product → String
  | video _ => stemOrOutput stem
  | remux | audio _ | extracted _ _ => stem

/-- Sources get one name for a product exactly if it shows the same of their stems. -/
theorem fileName_eq_iff {product : Product} {stem stem' : String} :
    product.fileName stem = product.fileName stem' ↔
      product.shownStem stem = product.shownStem stem' := by
  cases product with
  | video => exact outputFileName_inj_iff
  | _ =>
    rw [← toList_inj, shownStem, shownStem, ← toList_inj]
    simp [fileName, remuxOutputFileName, transcodeAudioOutputFileName, extractAudioOutputFileName]

end Product

/-! ## Rendering -/

theorem newProviderRelativeLocator_eq {text locator : String}
    (h : newProviderRelativeLocator text = .ok locator) : locator = text := by
  unfold newProviderRelativeLocator at h
  split at h
  · exact (Except.ok.inj h).symm
  · cases h

theorem plannedOutputLocator_ok {branchId fileName locator : String}
    (h : plannedOutputLocator branchId fileName = .ok locator) :
    locator = branchId ++ "/" ++ fileName := by
  unfold plannedOutputLocator at h
  split at h
  next hok => exact (Except.ok.inj h).symm.trans (newProviderRelativeLocator_eq hok)
  next => cases h

theorem backupDestinationLocator_ok {version : Nat} {fileName locator : String}
    (h : backupDestinationLocator version fileName = .ok locator) :
    locator = "v" ++ toString version ++ "/" ++ fileName := by
  unfold backupDestinationLocator at h
  dsimp only at h
  split at h
  next hok => exact (Except.ok.inj h).symm.trans (newProviderRelativeLocator_eq hok)
  next => cases h

/-- Where the table sends what a root has no default for: to the root itself. -/
def destinationOf (roots : List LibraryRoot) (role : DestinationRole) (root : Nat) : Nat :=
  (ownDefault roots role root).getD root

theorem destinationRoot_eq {roots : List LibraryRoot} {role : DestinationRole}
    {root destination : Nat} (h : destinationRoot roots role root = .ok destination) :
    destination = destinationOf roots role root := by
  rcases destinationRoot_ok_iff.mp h with hown | ⟨hown, rfl, -⟩
  · rw [destinationOf, hown, Option.getD_some]
  · rw [destinationOf, hown, Option.getD_none]

def lastComponent (locator : String) : String :=
  String.ofList ((locator.toList.splitOnP (· = '/')).getLast?.getD [])

theorem lastComponent_append (directory name : String) :
    lastComponent (directory ++ "/" ++ name) = lastComponent name := by
  have htext : (directory ++ "/" ++ name).toList = directory.toList ++ '/' :: name.toList := by
    simp
  have hne : name.toList.splitOnP (· = '/') ≠ [] := splitOnP_ne_nil _ _
  rw [lastComponent, lastComponent, htext, splitOnP_append_cons _ _ (by rfl), getLast?_append,
    getLast?_eq_some_getLast hne, Option.some_or]

theorem lastComponent_of_plain {name : String} (h : '/' ∉ name.toList) :
    lastComponent name = name := by
  rw [lastComponent,
    splitOnP_eq_singleton fun c hc => decide_eq_false (ne_of_mem_of_not_mem hc h)]
  exact ofList_toList

theorem mediaSourceFileName_eq {source : MediaDispatchSource} {name : String}
    (h : mediaSourceFileName source = .ok name) :
    name = lastComponent source.addressRef.locator := by
  simp only [mediaSourceFileName] at h
  split at h
  next hlast => rw [lastComponent, hlast, ← Except.ok.inj h, Option.getD_some]
  next => cases h

/-- The stem that the names of a source's outputs start with. -/
def sourceStem (locator : String) : String := stemOrOutput (lastComponent locator)

theorem mediaSourceStem_eq {source : MediaDispatchSource} {stem : String}
    (h : mediaSourceStem source = .ok stem) : stem = sourceStem source.addressRef.locator := by
  simp only [mediaSourceStem, bind_ok, return_ok] at h
  obtain ⟨_, hname, rfl⟩ := h
  rw [sourceStem, mediaSourceFileName_eq hname]

theorem bindingResult_ok {result : Except String MediaDispatch} {dispatch : MediaDispatch} :
    bindingResult result = .ok (some dispatch) ↔ result = .ok dispatch := by
  rcases result with _ | _ <;> simp [bindingResult]

section Rendered
variable {branchId operation : String} {root location destination : Nat} {locator : String}
  {facts : SourceFacts} {dispatch : MediaDispatch}

theorem renderStaged_eq {name : String → String} {staged : Address × Address}
    (h : renderStaged operation branchId (.location root location locator) name destination =
      .ok staged) :
    staged = (⟨root, locator⟩, ⟨destination, branchId ++ "/" ++ name (sourceStem locator)⟩) := by
  simp only [renderStaged, bind_ok, return_ok] at h
  obtain ⟨_, hstem, _, hsource, _, hlocator, rfl⟩ := h
  rw [← Except.ok.inj hsource, plannedOutputLocator_ok hlocator, mediaSourceStem_eq hstem]
  rfl

/-- What a ticket reads, and what its outputs are called after. -/
structure TicketNames where
  source : Address
  outputs : List PlannedName

/-- The envelope has these addresses. -/
structure Rendered (dispatch : MediaDispatch) (names : TicketNames) : Prop where
  source : dispatch.source = names.source
  outputs : dispatch.outputs = names.outputs.map PlannedName.address

/-- The names of the products of a file, in a branch. -/
def branchNames (destination : Nat) (branchId : String) (file : Address)
    (products : List Product) : TicketNames where
  source := file
  outputs := products.map fun product =>
    ⟨destination, branchId, product.fileName (sourceStem file.locator)⟩

theorem renderProbe_rendered
    (h : renderMediaDispatchProbe (.location root location locator) facts = .ok dispatch) :
    Rendered dispatch (branchNames destination branchId ⟨root, locator⟩ []) := by
  cases h
  exact ⟨rfl, rfl⟩

theorem renderTranscodeVideo_rendered {profile : VideoProfile}
    (h : renderMediaDispatchTranscodeVideo branchId (.location root location locator) facts
      destination profile = .ok dispatch) :
    Rendered dispatch (branchNames destination branchId ⟨root, locator⟩ [.video profile]) := by
  simp only [renderMediaDispatchTranscodeVideo, bind_ok, return_ok] at h
  obtain ⟨_, hstaged, rfl⟩ := h
  obtain rfl := renderStaged_eq hstaged
  exact ⟨rfl, rfl⟩

theorem renderRemux_rendered
    (h : renderMediaDispatchRemux branchId (.location root location locator) facts destination =
      .ok dispatch) :
    Rendered dispatch (branchNames destination branchId ⟨root, locator⟩ [.remux]) := by
  simp only [renderMediaDispatchRemux, bind_ok, return_ok] at h
  obtain ⟨_, hstaged, rfl⟩ := h
  obtain rfl := renderStaged_eq hstaged
  exact ⟨rfl, rfl⟩

theorem renderTranscodeAudio_rendered {codec : String}
    (h : renderMediaDispatchTranscodeAudio branchId (.location root location locator) facts codec
      destination = .ok dispatch) :
    Rendered dispatch (branchNames destination branchId ⟨root, locator⟩ [.audio codec]) := by
  simp only [renderMediaDispatchTranscodeAudio, bind_ok, return_ok] at h
  obtain ⟨_, hstaged, rfl⟩ := h
  obtain rfl := renderStaged_eq hstaged
  exact ⟨rfl, rfl⟩

theorem renderExtractAudio_rendered {extractions : List MediaExtractionRequest}
    (h : renderMediaDispatchExtractAudio branchId (.location root location locator) facts
      extractions destination = .ok dispatch) :
    Rendered dispatch (branchNames destination branchId ⟨root, locator⟩
      (extractions.map fun extraction =>
        .extracted extraction.snapshotStreamId extraction.audioCodec)) := by
  simp only [renderMediaDispatchExtractAudio, bind_ok, return_ok] at h
  obtain ⟨_, hstem, outputs, houtputs, _, hsource, rfl⟩ := h
  obtain rfl := mediaSourceStem_eq hstem
  refine ⟨(Except.ok.inj hsource).symm, ?_⟩
  rw [branchNames, List.map_map, List.map_map]
  refine mapM_ok_map (fun extraction output houtput => ?_) houtputs
  simp only [renderExtraction, bind_ok, return_ok] at houtput
  obtain ⟨_, hlocator, rfl⟩ := houtput
  rw [plannedOutputLocator_ok hlocator]
  rfl

theorem renderBackUpFile_rendered {version : Nat}
    (h : renderMediaDispatchBackUpFile (.location root location locator) version destination =
      .ok dispatch) :
    Rendered dispatch ⟨⟨root, locator⟩,
      [⟨destination, "v" ++ toString version, lastComponent locator⟩]⟩ := by
  simp only [renderMediaDispatchBackUpFile, bind_ok, return_ok] at h
  obtain ⟨_, hname, _, hsource, _, hlocator, rfl⟩ := h
  obtain rfl := mediaSourceFileName_eq hname
  refine ⟨(Except.ok.inj hsource).symm, ?_⟩
  rw [backupDestinationLocator_ok hlocator]
  rfl

end Rendered

/-! ## Envelopes -/

/-- The address in the row of a location. -/
def locationAddress (catalog : MediaCatalog) (location : Nat) : Option Address :=
  (catalog.location location).bind (·.address)

theorem locationSource_eq {catalog : MediaCatalog} {root location : Nat}
    {source : MediaDispatchSource} (h : locationSource catalog root location = .ok source) :
    ∃ locator, source = .location root location locator ∧
      locationAddress catalog location = some ⟨root, locator⟩ := by
  simp only [locationSource, bind_ok, find_ok, require_ok, return_ok] at h
  obtain ⟨row, hrow, -, -, ⟨root, locator⟩, haddress, -, rfl, rfl⟩ := h
  refine ⟨locator, rfl, ?_⟩
  rw [locationAddress, hrow, Option.bind_some, haddress]

def PolicyOperation.products : PolicyOperation → List Product
  | .transcodeVideo (.ok profile) => [.video profile]
  | .remux _ => [.remux]
  | .transcodeAudio _ (.ok codec) => [.audio codec]
  | .extractAudio _ (.ok plan) => plan.outputs.map fun output =>
    .extracted output.2 plan.targetCodec
  | _ => []

def ExpansionOperation.products : ExpansionOperation → List Product
  | .transcodeVideo (.ok profile) => [.video profile]
  | .remux _ => [.remux]
  | _ => []

def stagedNames (catalog : MediaCatalog) (branchId : String) (products : List Product)
    (file : Address) : TicketNames :=
  branchNames (destinationOf catalog.roots .staging file.storageRootId) branchId file products

def policyNames (catalog : MediaCatalog) (fileVersionId : Nat) :
    PolicyOperation → Address → TicketNames
  | .backUpFile, file => ⟨file, [⟨destinationOf catalog.roots .backup file.storageRootId,
      "v" ++ toString fileVersionId, lastComponent file.locator⟩]⟩
  | operation, file => stagedNames catalog policyBranchId operation.products file

theorem policyEnvelope_rendered {catalog : MediaCatalog} {operation : PolicyOperation}
    {source : PolicyFileSource} {dispatch : MediaDispatch}
    (h : policyEnvelope catalog policyBranchId operation source = .ok (some dispatch)) :
    ∃ file, locationAddress catalog source.locationId = some file ∧
      Rendered dispatch (policyNames catalog source.fileVersionId operation file) := by
  simp only [policyEnvelope, bind_ok, find_ok] at h
  obtain ⟨_, hsource, facts, -, h⟩ := h
  obtain ⟨locator, rfl, haddress⟩ := locationSource_eq hsource
  refine ⟨_, haddress, ?_⟩
  cases operation with
  | probeFile => exact renderProbe_rendered (bindingResult_ok.mp h)
  | backUpFile =>
    simp only [bind_ok, bindingResult_ok] at h
    obtain ⟨_, hroot, h⟩ := h
    obtain rfl := destinationRoot_eq hroot
    exact renderBackUpFile_rendered h
  | transcodeVideo profile =>
    simp only [bind_ok, bindingResult_ok] at h
    obtain ⟨profile, rfl, _, hroot, h⟩ := h
    obtain rfl := destinationRoot_eq hroot
    exact renderTranscodeVideo_rendered h
  | remux =>
    simp only [bind_ok, bindingResult_ok] at h
    obtain ⟨_, -, _, hroot, h⟩ := h
    obtain rfl := destinationRoot_eq hroot
    exact renderRemux_rendered h
  | transcodeAudio =>
    simp only [bind_ok, bindingResult_ok] at h
    obtain ⟨_, -, _, hroot, codec, rfl, h⟩ := h
    obtain rfl := destinationRoot_eq hroot
    exact renderTranscodeAudio_rendered h
  | extractAudio =>
    simp only [bind_ok, bindingResult_ok] at h
    obtain ⟨_, -, _, hroot, plan, rfl, extractions, hextractions, h⟩ := h
    obtain rfl := destinationRoot_eq hroot
    have hstreams : extractions.map (fun extraction =>
          Product.extracted extraction.snapshotStreamId extraction.audioCodec) =
        plan.outputs.map fun output => .extracted output.2 plan.targetCodec := by
      refine mapM_ok_map (fun output extraction hextraction => ?_) hextractions
      simp only [extractionRequest, bind_ok, return_ok] at hextraction
      obtain ⟨_, -, rfl⟩ := hextraction
      rfl
    rw [policyNames, stagedNames, PolicyOperation.products, ← hstreams]
    · exact renderExtractAudio_rendered h
    · intro hbackup
      cases hbackup
  | other => cases h

theorem expansionEnvelope_rendered {catalog : MediaCatalog} {operation : ExpansionOperation}
    {branch : BranchContext} {dispatch : MediaDispatch}
    (h : expansionEnvelope catalog operation branch = .ok (some dispatch)) :
    ∃ file, branch.storageSource.bind (locationAddress catalog ·.2) = some file ∧
      Rendered dispatch (stagedNames catalog branch.branchId operation.products file) := by
  simp only [expansionEnvelope, bind_ok, find_ok] at h
  obtain ⟨_, -, declared, hdeclared, _, hsource, facts, -, h⟩ := h
  obtain ⟨locator, rfl, haddress⟩ := locationSource_eq hsource
  refine ⟨_, by rw [hdeclared, Option.bind_some, haddress], ?_⟩
  cases operation with
  | probeFile => exact renderProbe_rendered (bindingResult_ok.mp h)
  | transcodeVideo profile =>
    simp only [bind_ok, bindingResult_ok] at h
    obtain ⟨profile, rfl, _, hroot, h⟩ := h
    obtain rfl := destinationRoot_eq hroot
    exact renderTranscodeVideo_rendered h
  | remux =>
    simp only [bind_ok, bindingResult_ok] at h
    obtain ⟨_, -, _, hroot, h⟩ := h
    obtain rfl := destinationRoot_eq hroot
    exact renderRemux_rendered h
  | verifyArtifact => cases h
  | other => cases h

/-- What is planned for the copy of a staged output. -/
def copyName (catalog : MediaCatalog) (output : PlannedName) : PlannedName :=
  ⟨destinationOf catalog.roots .backup output.root, output.directory, lastComponent output.name⟩

theorem parentEnvelopeOutput_outputs {parent : MediaDispatch} {output : Address}
    (h : parent.parentEnvelopeOutput = some output) : parent.outputs = [output] := by
  cases parent <;> cases h <;> rfl

theorem backupChildEnvelope_rendered {catalog : MediaCatalog} {output : PlannedName}
    {parent dispatch : MediaDispatch}
    (houtput : parent.parentEnvelopeOutput = some output.address)
    (h : backupChildEnvelope catalog output.directory parent = .ok (some dispatch)) :
    Rendered dispatch ⟨output.address, [copyName catalog output]⟩ := by
  obtain ⟨_, hroot, _, ⟨_, hname, hlocator⟩, rfl⟩ := (backupChildEnvelope_ok_iff houtput).mp h
  obtain rfl := destinationRoot_eq hroot
  obtain rfl := mediaSourceFileName_eq hname
  refine ⟨rfl, ?_⟩
  rw [plannedOutputLocator_ok hlocator]
  have hlast : lastComponent output.address.locator = lastComponent output.name :=
    lastComponent_append _ _
  simp only [MediaDispatchSource.addressRef, hlast]
  rfl

/-- A staged output is copied onto itself exactly if its root is sent to itself. -/
theorem copyName_eq_self_iff {catalog : MediaCatalog} {output : PlannedName}
    (hname : '/' ∉ output.name.toList) :
    (copyName catalog output).address = output.address ↔
      destinationOf catalog.roots .backup output.root = output.root := by
  rw [copyName, lastComponent_of_plain hname, PlannedName.address, PlannedName.address,
    Address.mk.injEq]
  exact and_iff_left rfl

end Voom
