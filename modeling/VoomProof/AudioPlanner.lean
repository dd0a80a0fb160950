import VoomProof.PlanModel

/-!
# Planning audio operations

`planner/audio/selection.rs` and `planner/audio/mod.rs` of `voom-plan`: the facts of the
audio streams of a snapshot, the streams a filter selects, and the plans to transcode them,
to extract them into files of their own and to add a downmixed companion to each.

Unlike those of a remux, the facts here leave out every stream that is not audio, and a
disposition that is not an object is one without flags.
-/

namespace Voom.Planner
open Fallible RustText StableOrder
open RemuxPlanner (NodeStatus PlanningDiagnosticSeverity filterReferencesLanguage videoStreamCount)

/-! ## Facts -/

structure AudioDispositionFact where
  isDefault : Bool
  isForced : Bool
  commentary : Option Bool
  deriving DecidableEq

structure SnapshotAudioStreamFact where
  snapshotStreamId : String
  providerStreamIndex : Nat
  codec : Option String
  language : Option String
  title : Option String
  channels : Option Nat
  channelLayout : Option String
  isDefault : Bool
  disposition : AudioDispositionFact
  commentary : Option Bool
  deriving DecidableEq

inductive AudioPlanningBlock where
  | insufficientSnapshotFacts
  | unsupportedSelector
  | zeroMatches
  | noVideo
  | unsupportedMediaShape
  | synthesisNotDownmix
  deriving DecidableEq

inductive AudioPlanShape where
  | noOp
  | planned
  | blocked (block : AudioPlanningBlock)
  deriving DecidableEq

namespace AudioFacts

def requiredString (value : Option Json) : Except AudioPlanningBlock String :=
  find ((value.bind Json.asStr).filter (!blank ·)) .insufficientSnapshotFacts

def dispositionFlag (disposition : Option Json) (key : String) : Bool :=
  ((disposition.bind (·.get key)).bind Json.asBool).getD false

def audioDisposition (disposition : Option Json) : AudioDispositionFact where
  isDefault := dispositionFlag disposition "default"
  isForced := dispositionFlag disposition "forced"
  commentary :=
    (disposition.bind fun object => (object.get "commentary").or (object.get "comment")).bind
      Json.asBool

/-- The facts of an audio stream that do not tell it from the others. -/
def audioFact (stream : Json) (id : String) (index : Nat) : SnapshotAudioStreamFact :=
  let disposition := audioDisposition (stream.get "disposition")
  { snapshotStreamId := id
    providerStreamIndex := index
    codec := (stream.get "codec_name").bind Json.asStr
    language := (stream.get "language").bind Json.asStr
    title := (stream.get "title").bind Json.asStr
    channels := (stream.get "channels").bind (Json.asUnsigned 32)
    channelLayout := (stream.get "channel_layout").bind Json.asStr
    isDefault := disposition.isDefault
    disposition
    commentary := disposition.commentary }

/-- The facts so far, after one more stream. -/
def addStream (facts : List SnapshotAudioStreamFact) (stream : Json) :
    Except AudioPlanningBlock (List SnapshotAudioStreamFact) := do
  let _ ← find stream.asObject .insufficientSnapshotFacts
  let kind ← requiredString (stream.get "kind")
  if kind ≠ "audio" then return facts
  else
    let id ← requiredString (stream.get "id")
    require (∀ fact ∈ facts, fact.snapshotStreamId ≠ id) .insufficientSnapshotFacts
    let index ← find ((stream.get "index").bind (Json.asUnsigned 32)) .insufficientSnapshotFacts
    require (∀ fact ∈ facts, fact.providerStreamIndex ≠ index) .insufficientSnapshotFacts
    return facts ++ [audioFact stream id index]

end AudioFacts

def audioStreamFacts (snapshot : MediaSnapshot) :
    Except AudioPlanningBlock (List SnapshotAudioStreamFact) := do
  let streams ← find ((snapshot.streamSummary.get "streams").bind Json.asArray)
    .insufficientSnapshotFacts
  streams.foldlM AudioFacts.addStream []

/-! ## Filters -/

mutual

def evaluateSupportedAudioFilter :
    TrackFilter → SnapshotAudioStreamFact → Except AudioPlanningBlock Bool
  | .languageIn values, stream => return stream.language.getD "und" ∈ values
  | .codecIn values, stream => do
      let codec ← find stream.codec .insufficientSnapshotFacts
      return codec ∈ values
  | .channels op value, stream => do
      let channels ← find stream.channels .insufficientSnapshotFacts
      return compareU64 channels op value
  | .commentary, stream => find stream.commentary .insufficientSnapshotFacts
  | .forced, stream => return stream.disposition.isForced
  | .default, stream => return stream.isDefault
  | .titleContains value, stream => do
      let title ← find stream.title .insufficientSnapshotFacts
      return value.toList <:+: title.toList
  | .not inner, stream => return !(← evaluateSupportedAudioFilter inner stream)
  | .and filters, stream => evaluateAudioAnd filters stream false
  | .or filters, stream => evaluateAudioOr filters stream false
  | .font, _ | .titleMatches _, _ => .error .unsupportedSelector

/-- The first filter that does not match decides, also over facts that were missing. -/
def evaluateAudioAnd : List TrackFilter → SnapshotAudioStreamFact → Bool →
    Except AudioPlanningBlock Bool
  | [], _, insufficient =>
      if insufficient then .error .insufficientSnapshotFacts else .ok true
  | filter :: rest, stream, insufficient =>
      match evaluateSupportedAudioFilter filter stream with
      | .ok true => evaluateAudioAnd rest stream insufficient
      | .ok false => .ok false
      | .error .insufficientSnapshotFacts => evaluateAudioAnd rest stream true
      | .error block => .error block

def evaluateAudioOr : List TrackFilter → SnapshotAudioStreamFact → Bool →
    Except AudioPlanningBlock Bool
  | [], _, insufficient =>
      if insufficient then .error .insufficientSnapshotFacts else .ok false
  | filter :: rest, stream, insufficient =>
      match evaluateSupportedAudioFilter filter stream with
      | .ok true => .ok true
      | .ok false => evaluateAudioOr rest stream insufficient
      | .error .insufficientSnapshotFacts => evaluateAudioOr rest stream true
      | .error block => .error block

end

mutual

def audioFilterHasUnsupportedSelector : TrackFilter → Bool
  | .font | .titleMatches _ => true
  | .not inner => audioFilterHasUnsupportedSelector inner
  | .and filters | .or filters => anyHasUnsupportedSelector filters
  | _ => false

def anyHasUnsupportedSelector : List TrackFilter → Bool
  | [] => false
  | filter :: rest => audioFilterHasUnsupportedSelector filter || anyHasUnsupportedSelector rest

end

def evaluateAudioFilter (filter : TrackFilter) (stream : SnapshotAudioStreamFact) :
    Except AudioPlanningBlock Bool := do
  require (audioFilterHasUnsupportedSelector filter = false) .unsupportedSelector
  evaluateSupportedAudioFilter filter stream

def pushIfSelected (filter : Option TrackFilter) (selected : List SnapshotAudioStreamFact)
    (stream : SnapshotAudioStreamFact) :
    Except AudioPlanningBlock (List SnapshotAudioStreamFact) := do
  let matched ← match filter with
    | some filter => evaluateAudioFilter filter stream
    | none => .ok true
  return if matched then selected ++ [stream] else selected

def selectedAudioStreams (snapshot : MediaSnapshot) (filter : Option TrackFilter) :
    Except AudioPlanningBlock (List SnapshotAudioStreamFact) := do
  let count ← find (videoStreamCount snapshot.toMediaSnapshotInput) .insufficientSnapshotFacts
  require (count ≠ 0) .noVideo
  let facts ← audioStreamFacts snapshot
  facts.foldlM (pushIfSelected filter) []

/-! ## Shapes -/

/-- The layouts that the E-AC-3 encoder keeps. -/
def EAC3_LAYOUTS : List (Nat × String) :=
  [(1, "mono"), (2, "stereo"), (2, "2 channels (FC+LFE)"), (3, "2.1"), (3, "3.0"),
    (3, "3.0(back)"), (4, "3.1"), (4, "4.0"), (4, "quad"), (4, "quad(side)"),
    (4, "4 channels (FL+FR+LFE+BC)"), (5, "4.1"), (5, "5.0"), (5, "5.0(side)"), (6, "5.1"),
    (6, "5.1(side)")]

/-- What stands against keeping the layout of a stream, if anything does. -/
def eac3Block (stream : SnapshotAudioStreamFact) : Option AudioPlanningBlock :=
  match stream.channels, stream.channelLayout with
  | some channels, some layout =>
      if (channels, layout) ∈ EAC3_LAYOUTS then none else some .unsupportedMediaShape
  | _, _ => some .insufficientSnapshotFacts

def transcodeShapeOf (container : Option String) (selected : List SnapshotAudioStreamFact)
    (targetCodec targetContainer : String) : AudioPlanShape :=
  if selected = [] then .blocked .zeroMatches
  else
    match container with
    | none => .blocked .insufficientSnapshotFacts
    | some current =>
        if selected.any (·.codec.isNone) then .blocked .insufficientSnapshotFacts
        else if eqIgnoreAsciiCase current targetContainer &&
            selected.all (·.codec = some targetCodec) then .noOp
        else if targetCodec = "eac3" then
          match selected.findSome? eac3Block with
          | some block => .blocked block
          | none => .planned
        else .planned

def transcodeAudioShape (snapshot : MediaSnapshot) (targetCodec container : String)
    (filter : Option TrackFilter) : AudioPlanShape :=
  match selectedAudioStreams snapshot filter with
  | .ok selected => transcodeShapeOf snapshot.container selected targetCodec container
  | .error block => .blocked block

/-- What stands against a downmix of a stream, if anything does. -/
def downmixBlock (targetChannels : Nat) (stream : SnapshotAudioStreamFact) :
    Option AudioPlanningBlock :=
  match stream.channels with
  | none => some .insufficientSnapshotFacts
  | some channels =>
      if targetChannels = 0 ∨ channels ≤ targetChannels then some .synthesisNotDownmix else none

def synthesizeShapeOf (selected : List SnapshotAudioStreamFact) (targetChannels : Nat) :
    AudioPlanShape :=
  if selected = [] then .blocked .zeroMatches
  else
    match selected.findSome? (downmixBlock targetChannels) with
    | some block => .blocked block
    | none => .planned

def synthesizeAudioShape (snapshot : MediaSnapshot) (targetChannels : Nat)
    (filter : Option TrackFilter) : AudioPlanShape :=
  match selectedAudioStreams snapshot filter with
  | .ok selected => synthesizeShapeOf selected targetChannels
  | .error block => .blocked block

/-! ## Companions and outputs -/

section Descriptors
variable (lib : Library) (snapshot : MediaSnapshot) (filter : Option TrackFilter)

def synthesisCompanionId (operationId snapshotStreamId : String) : String :=
  lib.stableId "synth_companion"
    ("voom.synthesize_audio.companion.v1\x00" ++ operationId ++ "\x00" ++ snapshotStreamId)

def extractOutputId (operationId snapshotStreamId : String) : String :=
  lib.stableId "extract_output"
    ("voom.extract_audio.output.v1\x00" ++ operationId ++ "\x00" ++ snapshotStreamId)

/-- The selected streams in source order; there must be one. -/
def selectedInOrder : Except AudioPlanningBlock (List SnapshotAudioStreamFact) := do
  let selected ← selectedAudioStreams snapshot filter
  require (selected ≠ []) .zeroMatches
  return sortBy (·.providerStreamIndex) selected

def synthesizeAudioCompanions (operationId : String) :
    Except AudioPlanningBlock (List SynthesizeAudioCompanionDescriptor) := do
  let selected ← selectedInOrder snapshot filter
  return selected.map fun stream =>
    let companionId := synthesisCompanionId lib operationId stream.snapshotStreamId
    { companionId
      sourceSnapshotStreamId := stream.snapshotStreamId
      sourceProviderStreamIndex := stream.providerStreamIndex
      resultSnapshotStreamId := companionId }

def extractionRole (stream : SnapshotAudioStreamFact) :
    Except AudioPlanningBlock AudioBundleRole :=
  match stream.commentary with
  | some true => .ok .commentaryAudio
  | some false => .ok .externalAudio
  | none => .error .insufficientSnapshotFacts

def sanitizeComponent (value : String) : String :=
  let sanitized := value.toList.map fun c =>
    if c.isAlphanum || c = '-' || c = '_' then c else '-'
  if sanitized.isEmpty then "stream" else String.ofList sanitized

/-- The name given to one output so far. -/
structure OutputName where
  outputId : String
  base : String
  name : String
  suffixed : Bool
  deriving DecidableEq

/-- Another output has the same name but for the case of its letters. -/
def collides (names : List OutputName) (name : OutputName) : Bool :=
  1 < names.countP fun other => eqIgnoreAsciiCase other.name name.name

def suffixName (targetCodec : String) (names : List OutputName) (name : OutputName) :
    Except AudioPlanningBlock OutputName :=
  if collides names name && !name.suffixed then do
    let hash ← find (stripPrefix "extract_output_".toList name.outputId.toList)
      .unsupportedMediaShape
    return { name with
      name := name.base ++ "-" ++ String.ofList hash ++ "." ++ targetCodec ++ ".ogg"
      suffixed := true }
  else return name

/-- Names are suffixed until no two collide; each round suffixes one more, or fails. -/
def settleNames (targetCodec : String) : Nat → List OutputName →
    Except AudioPlanningBlock (List OutputName)
  | rounds, names =>
      if ¬names.any (collides names) then return names
      else if ¬names.any (fun name => collides names name && !name.suffixed) then
        .error .unsupportedMediaShape
      else
        match rounds with
        | 0 => .error .unsupportedMediaShape
        | rounds + 1 => do
            settleNames targetCodec rounds (← names.mapM (suffixName targetCodec names))

def extractOutputNameSuffixes (outputs : List ExtractAudioOutputDescriptor) (targetCodec : String) :
    Except AudioPlanningBlock (List String) := do
  let names := outputs.map fun output =>
    let base := sanitizeComponent output.sourceSnapshotStreamId
    { outputId := output.outputId, base, name := base ++ "." ++ targetCodec ++ ".ogg"
      suffixed := false : OutputName }
  let settled ← settleNames targetCodec outputs.length names
  return settled.map (·.name)

def extractOutput (operationId : String) (stream : SnapshotAudioStreamFact) :
    Except AudioPlanningBlock ExtractAudioOutputDescriptor := do
  let bundleRole ← extractionRole stream
  return {
    outputId := extractOutputId lib operationId stream.snapshotStreamId
    sourceSnapshotStreamId := stream.snapshotStreamId
    sourceProviderStreamIndex := stream.providerStreamIndex
    nameSuffix := ""
    bundleRole }

def extractAudioOutputs (operationId targetCodec : String) :
    Except AudioPlanningBlock (List ExtractAudioOutputDescriptor) := do
  let selected ← selectedInOrder snapshot filter
  let outputs ← selected.mapM (extractOutput lib operationId)
  let names ← extractOutputNameSuffixes outputs targetCodec
  return outputs.zipWith (fun output name => { output with nameSuffix := name }) names

end Descriptors

/-! ## Plans -/

def audioObservedState (snapshot : MediaSnapshot) (filter : Option TrackFilter) : Option Json :=
  let selected := match selectedAudioStreams snapshot filter with
    | .ok selected =>
        let codecs := selected.filterMap (·.codec)
        ("selected_audio_stream_count", .integer selected.length) ::
          if codecs.isEmpty then [] else [("audio_codecs", .array (codecs.map .string))]
    | .error _ => []
  observedObject (observedContainer snapshot ++ selected)

def audioBlockDiagnostic (kind : PlanOperationKind) :
    AudioPlanningBlock → PlanningDiagnosticCode × String
  | .insufficientSnapshotFacts =>
      (.insufficientSnapshotFacts, "snapshot stream facts are insufficient for audio planning")
  | .unsupportedSelector =>
      (.unsupportedMediaShape, "audio selector is not supported by audio planning")
  | .zeroMatches =>
      (.unsupportedMediaShape,
        if kind = .extractAudio then "extract_audio selector matched zero audio streams"
        else "transcode_audio selector matched zero audio streams")
  | .noVideo => (.unsupportedMediaShape, "audio planning requires at least one video stream")
  | .unsupportedMediaShape =>
      (.unsupportedMediaShape, "media shape is not supported by audio planning")
  | .synthesisNotDownmix =>
      (.unsupportedMediaShape,
        "synthesize audio target channel count must be fewer than the source (a downmix)")

def audioHasUntaggedLanguage (snapshot : MediaSnapshot) : Bool :=
  succeedsWith (audioStreamFacts snapshot) fun facts => facts.any (·.language.isNone)

/-- What comes of a shape: status, reason, capability and the code of a diagnostic. -/
structure AudioOutcome where
  status : NodeStatus
  reason : String
  capability : Option String := none
  code : Option PlanningDiagnosticCode := none
  deriving DecidableEq

def AudioOutcome.blocked (diagnostic : PlanningDiagnosticCode × String) : AudioOutcome where
  status := .blocked
  reason := diagnostic.2
  code := some diagnostic.1

/-- The plan of an audio operation, with its diagnostic and the warning about streams that
have no language. -/
def audioPlan (phaseName : String) (snapshot : MediaSnapshot) (kind : PlanOperationKind)
    (filter : Option TrackFilter) (payload : AudioOperationPayload) (outcome : AudioOutcome) :
    OperationPlan :=
  let blocked := outcome.code.toList.map fun code =>
    operationDiagnostic .error code outcome.reason phaseName snapshot kind
  let warned := outcome.status ≠ .blocked ∧ filter.any filterReferencesLanguage = true ∧
    audioHasUntaggedLanguage snapshot = true
  { operationKind := kind
    operationPayload := .audio payload
    observedState := audioObservedState snapshot filter
    status := outcome.status
    statusReason := outcome.reason
    capability := outcome.capability
    diagnostics := blocked ++ if warned then
      [operationDiagnostic .warning .untaggedTrackLanguageDefaulted
        "an untagged audio track was matched as language und by this filter" phaseName snapshot
        kind]
      else [] }

section Plans
variable (lib : Library) (phaseName : String) (snapshot : MediaSnapshot)
  (targetCodec container : String) (filter : Option TrackFilter)

def transcodeOutcome : AudioPlanShape → AudioOutcome
  | .noOp =>
      { status := .noOp, reason := s!"selected audio is already {targetCodec} in {container}" }
  | .planned =>
      { status := .planned
        reason := s!"selected audio will be transcoded to {targetCodec} in {container}"
        capability := some "transcode_audio" }
  | .blocked block =>
      if targetCodec = "eac3" ∧ block = .unsupportedMediaShape then
        .blocked (.unsupportedMediaShape,
          "E-AC-3 transcode cannot preserve this source channel layout; " ++
          "choose a preserving codec or explicit synthesize audio " ++
          "for an intentional downmixed companion")
      else .blocked (audioBlockDiagnostic .transcodeAudio block)

def planTranscode : OperationPlan :=
  audioPlan phaseName snapshot .transcodeAudio filter
    { operationType := .transcodeAudio
      operationId := none
      targetCodec
      container
      sourceMediaSnapshotId := snapshot.existingMediaSnapshotId
      filter
      outputs := none
      companions := none
      targetChannels := none
      compatibility := none }
    (transcodeOutcome targetCodec container
      (transcodeAudioShape snapshot targetCodec container filter))

def extractOutcome : Except AudioPlanningBlock (List ExtractAudioOutputDescriptor) → AudioOutcome
  | .ok _ =>
      { status := .planned
        reason := s!"selected audio will be extracted as {targetCodec} in {container}"
        capability := some "extract_audio" }
  | .error block => .blocked (audioBlockDiagnostic .extractAudio block)

def planExtract (operationId : String) : OperationPlan :=
  let outputs := extractAudioOutputs lib snapshot filter operationId targetCodec
  audioPlan phaseName snapshot .extractAudio filter
    { operationType := .extractAudio
      operationId := some operationId
      targetCodec
      container
      sourceMediaSnapshotId := snapshot.existingMediaSnapshotId
      filter
      outputs := outputs.toOption
      companions := none
      targetChannels := none
      compatibility := none }
    (extractOutcome targetCodec container outputs)

def synthesizeOutcome (targetChannels : Nat) : AudioPlanShape → AudioOutcome
  | .noOp =>
      { status := .noOp
        reason := "synthesize audio adds a companion track and produced no change" }
  | .planned =>
      { status := .planned
        reason := s!"a {targetChannels}-channel {targetCodec} companion track will be " ++
          s!"synthesized in {container}"
        capability := some "transcode_audio" }
  | .blocked block => .blocked (audioBlockDiagnostic .transcodeAudio block)

def planSynthesize (targetChannels : Nat) (operationId : String) : OperationPlan :=
  audioPlan phaseName snapshot .transcodeAudio filter
    { operationType := .synthesizeAudio
      operationId := some operationId
      targetCodec
      container
      sourceMediaSnapshotId := snapshot.existingMediaSnapshotId
      filter
      outputs := none
      companions := (synthesizeAudioCompanions lib snapshot filter operationId).toOption
      targetChannels := some targetChannels
      compatibility := none }
    (synthesizeOutcome targetCodec container targetChannels
      (synthesizeAudioShape snapshot targetChannels filter))

end Plans

end Voom.Planner
