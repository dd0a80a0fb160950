import VoomProof.RemuxPlanner

/-!
# Plans of operations

The types of `model.rs`, `diagnostic.rs` and `hash.rs` in `voom-plan` that all planners share:
the snapshot a plan is made for, the kinds of operations, what a planner returns for one
operation, and the ids made from a hash. The payload of an operation is kept as the values it is
rendered from.
-/

namespace Voom

/-! ## Snapshots -/

inductive TargetKind where
  | mediaWork
  | mediaVariant
  | assetBundle
  | fileAsset
  | fileVersion
  | fileLocation
  deriving DecidableEq

def TargetKind.asStr : TargetKind → String
  | mediaWork => "media_work"
  | mediaVariant => "media_variant"
  | assetBundle => "asset_bundle"
  | fileAsset => "file_asset"
  | fileVersion => "file_version"
  | fileLocation => "file_location"

inductive TargetRef where
  | stored (kind : TargetKind) (id : Nat)
  | synthetic (key : String) (kind : TargetKind)
  deriving DecidableEq

def targetKey : TargetRef → String
  | .stored kind id => kind.asStr ++ ":" ++ toString id
  | .synthetic key kind => "synthetic:" ++ kind.asStr ++ ":" ++ key

/-- A snapshot with the facts that conditions and the other planners read. -/
structure MediaSnapshot extends MediaSnapshotInput where
  target : TargetRef
  videoCodec : Option String
  width : Option Nat
  height : Option Nat
  hdr : Option String
  bitrate : Option Nat
  durationMillis : Option Nat

namespace Planner
open RemuxPlanner (NodeStatus PlanningDiagnosticSeverity)

/-- What the planners take from libraries: the digest of a text in hexadecimal digits, and
the lowercase form of a character. -/
structure Library where
  blake3Hex : String → String
  charLowercase : Char → List Char

/-- The first sixteen digits of a digest behind a word. -/
def Library.stableId (lib : Library) (word preimage : String) : String :=
  word ++ "_" ++ String.ofList ((lib.blake3Hex preimage).toList.take 16)

/-! ## Operations and diagnostics -/

inductive PlanOperationKind where
  | remux
  | setContainer
  | keepTracks
  | removeTracks
  | reorderTracks
  | setDefaults
  | clearTrackActions
  | clearTags
  | setTag
  | deleteTag
  | transcodeVideo
  | transcodeAudio
  | extractAudio
  | verifyArtifact
  | conditional
  | rules
  deriving DecidableEq

def PlanOperationKind.asStr : PlanOperationKind → String
  | remux => "remux"
  | setContainer => "set_container"
  | keepTracks => "keep_tracks"
  | removeTracks => "remove_tracks"
  | reorderTracks => "reorder_tracks"
  | setDefaults => "set_defaults"
  | clearTrackActions => "clear_track_actions"
  | clearTags => "clear_tags"
  | setTag => "set_tag"
  | deleteTag => "delete_tag"
  | transcodeVideo => "transcode_video"
  | transcodeAudio => "transcode_audio"
  | extractAudio => "extract_audio"
  | verifyArtifact => "verify_artifact"
  | conditional => "conditional"
  | rules => "rules"

/-- Synthesis and compatibility go under the kinds of the workers that do them. -/
def operationKind : CompiledOperation → PlanOperationKind
  | .ensureAudioCompatibility => .transcodeAudio
  | .placeAudioCompatibility => .remux
  | .setContainer _ => .setContainer
  | .keepTracks _ _ => .keepTracks
  | .removeTracks _ _ => .removeTracks
  | .reorderTracks _ _ => .reorderTracks
  | .setDefaults _ _ _ => .setDefaults
  | .clearTrackActions _ => .clearTrackActions
  | .clearTags => .clearTags
  | .setTag _ _ => .setTag
  | .deleteTag _ => .deleteTag
  | .transcodeVideo _ _ _ => .transcodeVideo
  | .transcodeAudio _ _ _ | .synthesizeAudio _ _ _ _ => .transcodeAudio
  | .extractAudio _ _ _ => .extractAudio
  | .verifyArtifact => .verifyArtifact
  | .conditional _ _ => .conditional
  | .rules _ _ => .rules

inductive PlanningDiagnosticCode where
  | unsupportedOperation
  | insufficientSnapshotFacts
  | unsupportedMediaShape
  | emptyTrackFilterSelection
  | ambiguousTrackFilterSelection
  | emptyPolicyPhases
  | emptyInputSet
  | invalidPlanningRequest
  | untaggedTrackLanguageDefaulted
  | audioCompatibilitySourceMissing
  | unsupportedAudioCompatibilityLayout
  | invalidAudioCompatibilityAssociation
  deriving DecidableEq

structure PlanningDiagnostic where
  severity : PlanningDiagnosticSeverity
  code : PlanningDiagnosticCode
  message : String
  target : Option TargetRef := none
  phaseName : Option String := none
  operationKind : Option String := none
  deriving DecidableEq

/-- An error about an operation of a phase on one snapshot. -/
def operationDiagnostic (severity : PlanningDiagnosticSeverity) (code : PlanningDiagnosticCode)
    (message phaseName : String) (snapshot : MediaSnapshot) (kind : PlanOperationKind) :
    PlanningDiagnostic where
  severity
  code
  message
  target := some snapshot.target
  phaseName := some phaseName
  operationKind := some kind.asStr

/-! ## Payloads -/

inductive AudioOperationType where
  | transcodeAudio
  | extractAudio
  | synthesizeAudio
  | ensureAudioCompatibility
  deriving DecidableEq

inductive AudioBundleRole where
  | commentaryAudio
  | externalAudio
  deriving DecidableEq

structure ExtractAudioOutputDescriptor where
  outputId : String
  sourceSnapshotStreamId : String
  sourceProviderStreamIndex : Nat
  nameSuffix : String
  bundleRole : AudioBundleRole
  deriving DecidableEq

structure SynthesizeAudioCompanionDescriptor where
  companionId : String
  sourceSnapshotStreamId : String
  sourceProviderStreamIndex : Nat
  resultSnapshotStreamId : String
  deriving DecidableEq

structure CompatibilityStreamIdentity where
  snapshotStreamId : String
  providerStreamIndex : Nat
  deriving DecidableEq

structure AudioCompatibilityDescriptor where
  retainedStreams : List CompatibilityStreamIdentity
  sourceSnapshotStreamId : String
  sourceProviderStreamIndex : Nat
  sourceChannels : Nat
  sourceChannelLayout : String
  targetChannelLayout : String
  resultSnapshotStreamId : String
  deriving DecidableEq

structure AudioOperationPayload where
  operationType : AudioOperationType
  operationId : Option String
  targetCodec : String
  container : String
  sourceMediaSnapshotId : Option Nat
  filter : Option TrackFilter
  outputs : Option (List ExtractAudioOutputDescriptor)
  companions : Option (List SynthesizeAudioCompanionDescriptor)
  targetChannels : Option Nat
  compatibility : Option AudioCompatibilityDescriptor

structure TranscodeVideoProfile where
  name : String
  targetCodec : String
  encoder : String
  crf : Option Nat
  cq : Option Nat
  qp : Option Nat
  bitrateKbps : Option Nat
  preset : Option String
  tune : Option String
  codecProfile : Option String
  codecLevel : Option String
  pixelFormat : Option String
  maxWidth : Option Nat
  maxHeight : Option Nat
  decode : VideoDecodeMode
  copyCompatible : Bool
  deriving DecidableEq

structure TranscodeVideoPayload where
  targetCodec : String
  container : String
  profile : String
  resolvedProfile : TranscodeVideoProfile
  sourceVideoCodec : Option String
  sourceVideoPixelFormat : Option String
  deriving DecidableEq

inductive OperationPayload where
  | remux (payload : RemuxOperationPayload)
  | audio (payload : AudioOperationPayload)
  | video (payload : TranscodeVideoPayload)
  | container (container : String)
  | verifyArtifact (sourceMediaSnapshotId : Option Nat)
  /-- The operation itself, where nothing has been planned. -/
  | operation (operation : CompiledOperation)
  | kindOnly (kind : PlanOperationKind)

structure OperationPlan where
  operationKind : PlanOperationKind
  operationPayload : OperationPayload
  observedState : Option Json
  status : NodeStatus
  statusReason : String
  capability : Option String
  resourceNotes : List String := []
  diagnostics : List PlanningDiagnostic := []

/-- Nothing to report is no state at all. -/
def observedObject (fields : List (String × Json)) : Option Json :=
  if fields.isEmpty then none else some (.object fields)

def observedContainer (snapshot : MediaSnapshot) : List (String × Json) :=
  snapshot.container.toList.map fun container => ("container", .string container)

end Planner

end Voom
