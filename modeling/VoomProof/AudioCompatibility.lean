import Mathlib.Data.Prod.Lex
import VoomProof.AudioPlanner

/-!
# Compatibility audio

`planner/audio/compatibility.rs` of `voom-plan` and the two plans made from it. A file has
at most one compatibility stream: the first English, or else untagged, original stream that
is no commentary, or a companion derived from it that every player can decode. `ensure`
plans to add the companion when there is none, `place` to move it to the head of the audio
streams and make it their only default.

The streams are read in one pass; the resolution must not depend on the order of the array.
-/

namespace Voom.Planner
open Fallible RustText StableOrder
open RemuxPlanner (NodeStatus)

structure AudioCompatibilityTarget where
  codec : String
  channels : Nat
  channelLayout : String
  deriving DecidableEq

structure AudioCompatibilityResolution where
  retainedStreams : List CompatibilityStreamIdentity
  sourceSnapshotStreamId : String
  sourceProviderStreamIndex : Nat
  sourceChannels : Nat
  sourceChannelLayout : String
  target : AudioCompatibilityTarget
  /-- Absent when the companion has still to be encoded. -/
  resolvedSnapshotStreamId : Option String
  deriving DecidableEq

inductive AudioCompatibilityError where
  | invalidFacts (detail : String)
  | noEligibleSource
  | unsupportedLayout (channels : Nat) (layout : String)
  | invalidAssociation (detail : String)
  deriving DecidableEq

/-- The layouts that are encoded as E-AC-3. -/
def COMPATIBILITY_EAC3_LAYOUTS : List (Nat × String) :=
  [(3, "2.1"), (3, "3.0"), (3, "3.0(back)"), (4, "3.1"), (4, "4.0"), (4, "quad"),
    (4, "quad(side)"), (4, "4 channels (FL+FR+LFE+BC)"), (5, "4.1"), (5, "5.0"),
    (5, "5.0(side)"), (6, "5.1"), (6, "5.1(side)"), (8, "7.1")]

def canonicalLayout : String → String
  | "quad" => "quad(side)"
  | "5.0" => "5.0(side)"
  | "5.1" | "7.1" => "5.1(side)"
  | other => other

def compatibilityCodec (channels : Nat) (layout : String) : Option String :=
  if [(1, "mono"), (2, "stereo")].contains (channels, layout) then some "aac"
  else if COMPATIBILITY_EAC3_LAYOUTS.contains (channels, layout) then some "eac3"
  else none

def compatibilityTarget (channels : Nat) (layout : String) :
    Except AudioCompatibilityError AudioCompatibilityTarget := do
  let codec ← find (compatibilityCodec channels layout) (.unsupportedLayout channels layout)
  return {
    codec
    channels := if channels = 8 then 6 else channels
    channelLayout := canonicalLayout layout }

/-! ## Facts of one stream -/

namespace Compatibility

def factError (stream : Json) (key : String) : AudioCompatibilityError :=
  let label := match (stream.get "id").bind Json.asStr with
    | some id => String.ofList (id.toList.take 80)
    | none => "<unidentified>"
  .invalidFacts s!"invalid {key} for stream {label}"

def text (stream : Json) (key : String) : Except AudioCompatibilityError String :=
  find (((stream.get key).bind Json.asStr).filter (!blank ·)) (factError stream key)

def association (stream : Json) : Except AudioCompatibilityError (Option String) :=
  match stream.get "compatibility_source_snapshot_stream_id" with
  | none => .ok none
  | some (.string id) =>
      if blank id then .error malformed else .ok (some id)
  | some _ => .error malformed
where
  malformed : AudioCompatibilityError :=
    .invalidAssociation "compatibility_source_snapshot_stream_id must be a nonempty string"

/-- Three bytes, all lowercase letters. -/
def isLanguageTag (value : String) : Bool :=
  value.toList.length = 3 && value.toList.all fun c => 'a' ≤ c && c ≤ 'z'

def language (stream : Json) : Except AudioCompatibilityError String :=
  match stream.get "compatibility_invalid_language" with
  | none | some (.bool false) =>
      match stream.get "language" with
      | none => .ok "und"
      | some (.string value) =>
          if isLanguageTag value then .ok value else .error (factError stream "language")
      | some _ => .error (factError stream "language")
  | some _ => .error (factError stream "language")

def channels (stream : Json) : Except AudioCompatibilityError Nat :=
  find (((stream.get "channels").bind (Json.asUnsigned 32)).filter (0 < ·))
    (factError stream "channels")

/-- The disposition is looked for under two names. -/
def commentaryFact (stream : Json) : Option Json :=
  ((stream.get "disposition").bind (·.get "commentary")).or
    ((stream.get "disposition").bind (·.get "comment"))

def commentary (stream : Json) : Except AudioCompatibilityError Bool :=
  find ((commentaryFact stream).bind Json.asBool) (factError stream "commentary")

/-- Facts that are there must be well formed. -/
def validatePresentAudioFacts (stream : Json) : Except AudioCompatibilityError Unit := do
  if (stream.get "channels").isSome then let _ ← channels stream
  if (stream.get "codec_name").isSome then let _ ← text stream "codec_name"
  if (stream.get "channel_layout").isSome then let _ ← text stream "channel_layout"
  if (commentaryFact stream).isSome then let _ ← commentary stream

/-! ## The pass over the streams -/

/-- What a stream can be used for. -/
inductive StreamRole where
  /-- The source, if no original has a smaller rank. -/
  | original (rank : Nat)
  /-- The companion of the stream with this id. -/
  | derived (sourceId : String)
  | other
  deriving DecidableEq

/-- A stream the pass has met. -/
structure Entry where
  id : String
  index : Nat
  stream : Json
  role : StreamRole

/-- English originals come before those without a language. -/
def originalRole (stream : Json) : Except AudioCompatibilityError StreamRole := do
  let lang ← language stream
  if lang = "eng" ∨ lang = "und" then
    if ← commentary stream then return .other
    else return .original (if lang = "eng" then 0 else 1)
  else return .other

def streamRole (stream : Json) : Except AudioCompatibilityError StreamRole := do
  let kind ← text stream "kind"
  if kind ≠ "audio" then return .other
  else
    validatePresentAudioFacts stream
    match ← association stream with
    | some sourceId => return .derived sourceId
    | none => originalRole stream

def addStream (met : List Entry) (stream : Json) :
    Except AudioCompatibilityError (List Entry) := do
  let id ← text stream "id"
  let index ← find ((stream.get "index").bind (Json.asUnsigned 32))
    (.invalidFacts s!"invalid index: {id}")
  require (∀ other ∈ met, other.id ≠ id ∧ other.index ≠ index)
    (.invalidFacts s!"duplicate stream identity: {id}")
  let role ← streamRole stream
  return met ++ [⟨id, index, stream, role⟩]

def Entry.rank? (entry : Entry) : Option (Nat × Entry) :=
  match entry.role with
  | .original rank => some (rank, entry)
  | _ => none

def Entry.sourceId? (entry : Entry) : Option (String × Json) :=
  match entry.role with
  | .derived sourceId => some (sourceId, entry.stream)
  | _ => none

/-- A derived stream comes from another audio stream that is an original. -/
def validateAssociation (met : List Entry) (derived : String × Json) :
    Except AudioCompatibilityError Unit := do
  let sourceId := derived.1
  let source ← find (met.find? (·.id = sourceId))
    (.invalidAssociation s!"missing source {sourceId}")
  let kind ← text source.stream "kind"
  require (kind = "audio") (.invalidAssociation s!"non-original source {sourceId}")
  let from? ← association source.stream
  require (from? = none) (.invalidAssociation s!"non-original source {sourceId}")
  let id ← text derived.2 "id"
  require (id ≠ sourceId) (.invalidAssociation s!"non-original source {sourceId}")

/-- The companion must be what would be encoded from the source. -/
def companionId (sourceId : String) (source companion : Json) (target : AudioCompatibilityTarget) :
    Except AudioCompatibilityError String := do
  let mismatch := AudioCompatibilityError.invalidAssociation
    s!"incompatible companion for {sourceId}"
  let codec ← text companion "codec_name"
  require (codec = target.codec) mismatch
  let count ← channels companion
  require (count = target.channels) mismatch
  let layout ← text companion "channel_layout"
  require (layout = target.channelLayout) mismatch
  let lang ← language companion
  let sourceLang ← language source
  require (lang = sourceLang) mismatch
  let isCommentary ← commentary companion
  require (isCommentary = false) mismatch
  text companion "id"

def associatedId (derived : List (String × Json)) (sourceId : String) (source : Json)
    (target : AudioCompatibilityTarget) : Except AudioCompatibilityError (Option String) :=
  match derived.filter (·.1 = sourceId) with
  | [] => .ok none
  | [(_, companion)] => do return some (← companionId sourceId source companion target)
  | _ => .error (.invalidAssociation s!"multiple companions for {sourceId}")

/-- The source: the first English original, or else the first without a language. -/
def sourceOf (met : List Entry) : Option Entry :=
  (sortBy (fun (rank, entry) => toLex (rank, entry.index)) (met.filterMap Entry.rank?)).head?.map
    (·.2)

def resolve (met : List Entry) : Except AudioCompatibilityError AudioCompatibilityResolution := do
  let derived := met.filterMap Entry.sourceId?
  derived.foldlM (fun _ derived => validateAssociation met derived) ()
  let entry ← find (sourceOf met) .noEligibleSource
  let source := entry.stream
  let sourceId ← text source "id"
  let sourceChannels ← channels source
  let sourceLayout ← text source "channel_layout"
  let sourceCodec ← text source "codec_name"
  let target ← compatibilityTarget sourceChannels sourceLayout
  let associated ← associatedId derived sourceId source target
  return {
    retainedStreams := (sortBy (·.index) met).map fun other => ⟨other.id, other.index⟩
    sourceSnapshotStreamId := sourceId
    sourceProviderStreamIndex := entry.index
    sourceChannels
    sourceChannelLayout := sourceLayout
    target
    resolvedSnapshotStreamId :=
      if sourceCodec = target.codec ∧ sourceChannels = target.channels then some sourceId
      else associated }

end Compatibility

open Compatibility in
def resolveAudioCompatibility (snapshot : MediaSnapshot) :
    Except AudioCompatibilityError AudioCompatibilityResolution := do
  let streams ← find ((snapshot.streamSummary.get "streams").bind Json.asArray)
    (.invalidFacts "streams absent")
  resolve (← streams.foldlM addStream [])

/-! ## Plans -/

section Plans
variable (phaseName : String) (snapshot : MediaSnapshot)

def compatibilityDiagnostic : AudioCompatibilityError → PlanningDiagnosticCode × String
  | .invalidFacts detail => (.insufficientSnapshotFacts, detail)
  | .noEligibleSource =>
      (.audioCompatibilitySourceMissing, "compatibility audio requires an English or " ++
        "unknown-language non-commentary original source")
  | .unsupportedLayout channels layout =>
      (.unsupportedAudioCompatibilityLayout,
        s!"unsupported compatibility audio layout {layout} with {channels} channels")
  | .invalidAssociation detail => (.invalidAudioCompatibilityAssociation, detail)

def blockedCompatibilityPlan (kind : PlanOperationKind) (error : AudioCompatibilityError) :
    OperationPlan :=
  let (code, message) := compatibilityDiagnostic error
  { operationKind := kind
    operationPayload := .kindOnly kind
    observedState := none
    status := .blocked
    statusReason := message
    capability := none
    diagnostics := [operationDiagnostic .error code message phaseName snapshot kind] }

def ensurePlan (lib : Library) (operationId : String)
    (resolution : AudioCompatibilityResolution) : OperationPlan :=
  let resolved := resolution.resolvedSnapshotStreamId
  let resultId := resolved.getD
    (synthesisCompanionId lib operationId resolution.sourceSnapshotStreamId)
  { operationKind := .transcodeAudio
    operationPayload := .audio {
      operationType := .ensureAudioCompatibility
      operationId := some operationId
      targetCodec := resolution.target.codec
      container := "mkv"
      sourceMediaSnapshotId := snapshot.existingMediaSnapshotId
      filter := none
      outputs := none
      companions :=
        if resolved.isSome then none
        else some [{
          companionId := resultId
          sourceSnapshotStreamId := resolution.sourceSnapshotStreamId
          sourceProviderStreamIndex := resolution.sourceProviderStreamIndex
          resultSnapshotStreamId := resultId }]
      targetChannels := some resolution.target.channels
      compatibility := some {
        retainedStreams := resolution.retainedStreams
        sourceSnapshotStreamId := resolution.sourceSnapshotStreamId
        sourceProviderStreamIndex := resolution.sourceProviderStreamIndex
        sourceChannels := resolution.sourceChannels
        sourceChannelLayout := resolution.sourceChannelLayout
        targetChannelLayout := resolution.target.channelLayout
        resultSnapshotStreamId := resultId } }
    observedState := none
    status := if resolved.isSome then .noOp else .planned
    statusReason :=
      if resolved.isSome then "compatibility audio already exists"
      else "one non-default compatibility companion will be synthesized"
    capability := if resolved.isSome then none else some "transcode_audio" }

def planEnsureCompatibility (lib : Library) (operationId : String) : OperationPlan :=
  match resolveAudioCompatibility snapshot with
  | .ok resolution => ensurePlan snapshot lib operationId resolution
  | .error error => blockedCompatibilityPlan phaseName snapshot .transcodeAudio error

/-- Whether the audio streams are as a placement would leave them. -/
def placementUnchanged (selectedId : String) (audio : List SnapshotStreamFact) :
    Except AudioCompatibilityError Bool :=
  audio.foldlM (fun unchanged stream => do
    let isDefault ← match stream.isDefault with
      | .value value => .ok value
      | .missing | .malformed =>
          .error (.invalidFacts ("invalid default disposition on " ++ stream.snapshotStreamId))
    return unchanged && isDefault = decide (stream.snapshotStreamId = selectedId))
    (audio.head?.any (·.snapshotStreamId = selectedId) && snapshot.container = some "mkv")

/-- The stream to place, and whether it is in its place. -/
def resolvePlacement : Except AudioCompatibilityError (String × Bool) := do
  let resolution ← resolveAudioCompatibility snapshot
  let selectedId ← find resolution.resolvedSnapshotStreamId
    (.invalidAssociation "ensure audio compatibility has not published the required companion")
  let facts ← (streamFacts snapshot.toMediaSnapshotInput).mapError fun _ =>
    .invalidFacts "compatibility placement has invalid stream facts"
  let audio := sortBy (·.providerStreamIndex) (facts.filter (·.kind = .audio))
  return (selectedId, ← placementUnchanged snapshot selectedId audio)

def planPlaceCompatibility : OperationPlan :=
  match resolvePlacement snapshot with
  | .error error => blockedCompatibilityPlan phaseName snapshot .remux error
  | .ok (selectedId, unchanged) =>
      { operationKind := .remux
        operationPayload := .remux {
          container := "mkv"
          sourceMediaSnapshotId := snapshot.existingMediaSnapshotId
          trackActions := []
          trackOrder := []
          headSnapshotStreamId := none
          audioHeadSnapshotStreamId := some selectedId
          defaults := [⟨.audio, .preserve, some selectedId⟩] }
        observedState := none
        status := if unchanged then .noOp else .planned
        statusReason :=
          "compatibility audio must be first among audio and the sole audio default"
        capability := if unchanged then none else some "remux" }

end Plans

end Voom.Planner
