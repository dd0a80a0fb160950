import VoomProof.EncoderCaps
import VoomProof.PlanModel

/-!
# Planning a transcode of the video

`planner/transcode_video/mod.rs` of `voom-plan`, with the parts of `voom-core` it asks
about codecs and pixel formats. The video is compared with a resolved profile: what the
profile does not name is left as it is, and what it names and the snapshot does not tell
blocks the plan.

Its pixel format, profile and level are read from the first stream of the array that is video
and not cover art (`videoStreamField`).
-/

namespace Voom.Planner
open Fallible RustText
open RemuxPlanner (NodeStatus videoStreamCount)
open StreamFacts (isCoverArt)

/-! ## Codecs and pixel formats -/

def normalizeCodecToken (lib : Library) (token : String) : Text :=
  (token.toList.filter (!isWhitespace ·)).flatMap lib.charLowercase

def canonicalVideoCodec (codec : String) : Option String :=
  if eqIgnoreAsciiCase codec "hevc" || eqIgnoreAsciiCase codec "h265" then some "hevc"
  else if eqIgnoreAsciiCase codec "av1" then some "av1"
  else if eqIgnoreAsciiCase codec "h264" then some "h264"
  else none

def h265Alias (codec : String) : String := if eqIgnoreAsciiCase codec "h265" then "hevc" else codec

def NVIDIA_VIDEO_DECODERS : List (String × String) :=
  [("h264", "h264_cuvid"), ("hevc", "hevc_cuvid"), ("av1", "av1_cuvid")]

def nvidiaDecoderForVideoCodec (codec : String) : Option String :=
  (NVIDIA_VIDEO_DECODERS.find? fun (candidate, _) =>
    eqIgnoreAsciiCase (h265Alias codec) candidate).map (·.2)

def VAAPI_VIDEO_DECODERS : List String := ["h264", "hevc", "av1"]

def vaapiVideoDecodeCodec (codec : String) : Option String :=
  VAAPI_VIDEO_DECODERS.find? (eqIgnoreAsciiCase (h265Alias codec))

def videoPixelFormatDepth (pixelFormat : String) : Option Nat :=
  if pixelFormat ∈ ["yuv420p", "nv12"] then some 8
  else if pixelFormat ∈ ["yuv420p10le", "p010le", "p010"] then some 10
  else none

/-- The surfaces of a hardware encoder and the formats it writes for them. -/
def surfaceOutputPixelFormats (descriptor : EncoderDescriptor) : List (String × String) :=
  if descriptor.encoder = "hevc_vaapi" then [("nv12", "yuv420p"), ("p010", "yuv420p10le")] else []

def outputPixelFormat (descriptor : EncoderDescriptor) (pixelFormat : String) : Option String :=
  if surfaceOutputPixelFormats descriptor = [] then some pixelFormat
  else (surfaceOutputPixelFormats descriptor).lookup pixelFormat

def expectedOutputPixelFormat (profile : TranscodeVideoProfile) : Except String (Option String) :=
  match profile.pixelFormat with
  | none => .ok none
  | some pixelFormat => do
      let encoder := profile.encoder
      let descriptor ← find (encoderDescriptor encoder) s!"unknown encoder `{encoder}`"
      let format ← find (outputPixelFormat descriptor pixelFormat)
        s!"`{encoder}` records no output pixel format for `{pixelFormat}`"
      return some format

/-! ## Facts of the video stream -/

def isPrimaryVideo (stream : Json) : Bool :=
  (stream.get "kind").bind Json.asStr = some "video" && !isCoverArt stream

def streamsOf (snapshot : MediaSnapshot) : Option (List Json) :=
  (snapshot.streamSummary.get "streams").bind Json.asArray

/-- A field of the first primary video stream. -/
def videoStreamField (snapshot : MediaSnapshot) (key : String) : Option String :=
  (((streamsOf snapshot).bind (·.find? isPrimaryVideo)).bind (·.get key)).bind Json.asStr

/-! ## Shapes -/

inductive TranscodeVideoShape where
  | compliant
  | needsTranscode
  | insufficientFacts (message : String)
  | unsupportedShape (message : String)
  deriving DecidableEq

section Shape
variable (lib : Library) (snapshot : MediaSnapshot) (resolved : TranscodeVideoProfile)

/-- Whether a dimension exceeds the cap on it. -/
def exceedsCap (cap size : Option Nat) (unknown : String) : Except TranscodeVideoShape Bool :=
  match cap with
  | none => .ok false
  | some cap => do
      let size ← find size (.insufficientFacts unknown)
      return cap < size

def dimensionsNeedChange : Except TranscodeVideoShape Bool := do
  let wide ← exceedsCap resolved.maxWidth snapshot.width "snapshot video width is unknown"
  let high ← exceedsCap resolved.maxHeight snapshot.height "snapshot video height is unknown"
  return wide || high

def pixelFormatNeedsChange : Except TranscodeVideoShape Bool := do
  match ← (expectedOutputPixelFormat resolved).mapError .unsupportedShape with
  | none => return false
  | some target =>
      let observed ← find (videoStreamField snapshot "pixel_format")
        (.insufficientFacts "snapshot video pixel_format is unknown")
      return !eqIgnoreAsciiCase observed target

/-- Whether a token of the stream is another than the one the profile names. -/
def tokenNeedsChange (target : Option String) (key unknown : String) :
    Except TranscodeVideoShape Bool :=
  match target with
  | none => .ok false
  | some target => do
      let observed ← find (videoStreamField snapshot key) (.insufficientFacts unknown)
      return decide (normalizeCodecToken lib observed ≠ normalizeCodecToken lib target)

def codecProfileNeedsChange : Except TranscodeVideoShape Bool :=
  tokenNeedsChange lib snapshot resolved.codecProfile "profile"
    "snapshot video codec profile is unknown"

def codecLevelNeedsChange : Except TranscodeVideoShape Bool :=
  tokenNeedsChange lib snapshot resolved.codecLevel "level" "snapshot video codec level is unknown"

def transcodeVideoNeedsChange (container videoCodec targetContainer : String) :
    Except TranscodeVideoShape Bool := do
  let codecMatches := (canonicalVideoCodec videoCodec).any
    (eqIgnoreAsciiCase · resolved.targetCodec)
  let containerMatches := eqIgnoreAsciiCase container targetContainer
  let dimensions ← dimensionsNeedChange snapshot resolved
  let pixelFormat ← pixelFormatNeedsChange snapshot resolved
  let codecProfile ← codecProfileNeedsChange lib snapshot resolved
  let codecLevel ← codecLevelNeedsChange lib snapshot resolved
  return !codecMatches || !containerMatches || dimensions || pixelFormat || codecProfile ||
    codecLevel

/-- The codecs of cover art that a container keeps. -/
def coverArtCodecs (container : String) : List String :=
  if container = "mkv" then ["mjpeg", "png", "gif", "tiff"]
  else if container = "mp4" then ["mjpeg", "png"]
  else []

def coverArtBlock (container : String) (stream : Json) : Option TranscodeVideoShape :=
  match (stream.get "codec_name").bind Json.asStr with
  | none => some (.insufficientFacts "cover art codec is unknown")
  | some codec =>
      if codec ∈ coverArtCodecs container then none
      else some (.unsupportedShape
        s!"{container} target cannot preserve cover art codec `{codec}`")

def coverArtShape (container : String) : Option TranscodeVideoShape :=
  (streamsOf snapshot).bind fun streams =>
    (streams.filter isCoverArt).findSome? (coverArtBlock container)

def unsupportedHardwareDecodeShape (videoCodec : String) : Option TranscodeVideoShape :=
  if resolved.decode = .nvidia ∧ nvidiaDecoderForVideoCodec videoCodec = none then
    some (.unsupportedShape s!"NVIDIA decode does not support source video codec `{videoCodec}`")
  else if resolved.decode = .vaapi ∧ vaapiVideoDecodeCodec videoCodec = none then
    some (.unsupportedShape s!"VAAPI decode does not support source video codec `{videoCodec}`")
  else none

/-- A hardware decoder keeps the depth of the source: the profile must name a format of the
same depth. -/
def decodeDepthShape (decoder : String) (formatName : String) (format : String) :
    Option TranscodeVideoShape :=
  match videoStreamField snapshot "pixel_format" with
  | none => some (.insufficientFacts "snapshot video pixel_format is unknown")
  | some source =>
      match videoPixelFormatDepth source with
      | none =>
          some (.unsupportedShape
            s!"{decoder} decode does not support source pixel format `{source}`")
      | some depth =>
          if videoPixelFormatDepth format = some depth then none
          else some (.unsupportedShape (s!"{decoder} decode source pixel format `{source}` is " ++
            s!"incompatible with {formatName} `{format}`"))

def videotoolboxDecodeShape : Option TranscodeVideoShape :=
  decodeDepthShape snapshot "VideoToolbox" "output pixel format"
    (resolved.pixelFormat.getD "unknown")

def vaapiDecodeShape : Option TranscodeVideoShape :=
  decodeDepthShape snapshot "VAAPI" "profile surface format" (resolved.pixelFormat.getD "nv12")

def encoderIsVaapi : Bool :=
  (encoderDescriptor resolved.encoder).any (·.backend = .vaapi)

/-- The encoder has no filter to scale with. -/
def vaapiDimensionShape : Option TranscodeVideoShape :=
  match snapshot.width, snapshot.height with
  | some width, some height =>
      let cappedWidth := resolved.maxWidth.getD width
      let cappedHeight := resolved.maxHeight.getD height
      let name := resolved.name
      if encoderIsVaapi resolved ∧ ¬(width ≤ cappedWidth ∧ height ≤ cappedHeight) then
        some (.unsupportedShape (s!"profile `{name}` caps output at " ++
          s!"{cappedWidth}x{cappedHeight} but the source is {width}x{height}, and `hevc_vaapi` " ++
          "has no verified scale filter in this slice"))
      else none
  | _, _ => none

def mp4Muxable (kind codecName : String) : Bool :=
  kind = "audio" && codecName ∈ ["aac", "ac3", "eac3", "opus"]

/-- The stream as one that the container cannot hold, if it is one. -/
def mp4Offender (offenders : List String) (stream : Json) :
    Except TranscodeVideoShape (List String) := do
  let unenumerated :=
    TranscodeVideoShape.insufficientFacts "mp4 target requires fully enumerated streams"
  let _ ← find stream.asObject unenumerated
  let kind := (stream.get "kind").bind Json.asStr
  if kind = some "video" then return offenders
  else
    let kind ← find kind unenumerated
    let codecName ← find ((stream.get "codec_name").bind Json.asStr) unenumerated
    return if mp4Muxable kind codecName then offenders else offenders ++ [kind ++ ":" ++ codecName]

def mp4GateShape : Option TranscodeVideoShape :=
  match streamsOf snapshot with
  | none => some (.insufficientFacts "mp4 target requires fully enumerated streams")
  | some streams =>
      match streams.foldlM mp4Offender [] with
      | .error shape => some shape
      | .ok [] => none
      | .ok offenders =>
          some (.unsupportedShape
            ("mp4 target cannot mux stream(s) " ++ ", ".intercalate offenders))

/-- The first gate that refuses a change. -/
def changeRefused (videoCodec targetContainer : String) : Option TranscodeVideoShape :=
  ((coverArtShape snapshot targetContainer).or
    (unsupportedHardwareDecodeShape resolved videoCodec)).or
    ((if resolved.decode = .videoToolbox then videotoolboxDecodeShape snapshot resolved
      else none).or
      ((if resolved.decode = .vaapi then vaapiDecodeShape snapshot resolved else none).or
        (vaapiDimensionShape snapshot resolved)))

def mp4Refused (targetContainer : String) : Option TranscodeVideoShape :=
  if eqIgnoreAsciiCase targetContainer "mp4" then mp4GateShape snapshot else none

def shapeOfChange (videoCodec targetContainer : String) (needsChange : Bool) :
    TranscodeVideoShape :=
  let refused := if needsChange then changeRefused snapshot resolved videoCodec targetContainer
    else none
  (refused.or (mp4Refused snapshot targetContainer)).getD
    (if needsChange then .needsTranscode else .compliant)

def transcodeVideoShape (targetContainer : String) : TranscodeVideoShape :=
  match videoStreamCount snapshot.toMediaSnapshotInput with
  | none => .insufficientFacts "snapshot video stream count is unknown"
  | some count =>
      if count ≠ 1 then .unsupportedShape "transcode_video requires exactly one video stream"
      else
        match snapshot.container, snapshot.videoCodec with
        | none, _ => .insufficientFacts "snapshot container is unknown"
        | _, none => .insufficientFacts "snapshot video codec is unknown"
        | some container, some videoCodec =>
            match transcodeVideoNeedsChange lib snapshot resolved container videoCodec
              targetContainer with
            | .error shape => shape
            | .ok needsChange =>
              shapeOfChange snapshot resolved videoCodec targetContainer needsChange

/-! ## The plan -/

def transcodeVideoPayload (container : String) : TranscodeVideoPayload where
  targetCodec := resolved.targetCodec
  container
  profile := resolved.name
  resolvedProfile := resolved
  sourceVideoCodec := snapshot.videoCodec
  sourceVideoPixelFormat := videoStreamField snapshot "pixel_format"

def cpuCost (encoder speed : String) : String :=
  if encoder = "libx265" then
    if speed ∈ ["placebo", "veryslow"] then "high"
    else if speed ∈ ["slower", "slow", "medium"] then "medium"
    else "low"
  else if encoder = "libaom-av1" then
    if speed ∈ ["0", "1", "2"] then "high" else if speed ∈ ["3", "4"] then "medium" else "low"
  else if encoder = "libsvtav1" then
    match parseUnsigned 8 speed.toList with
    | some n => if n ≤ 3 then "high" else if n ≤ 7 then "medium" else "low"
    | none => "low"
  else "medium"

def qualityNote : Option String :=
  (encoderDescriptor resolved.encoder).bind fun descriptor =>
    match descriptor.qualityDomain with
    | .crf _ _ => resolved.crf.map fun crf => s!"crf={crf}"
    | .cq _ _ => resolved.cq.map fun cq => s!"cq={cq}"
    | .qp _ _ => resolved.qp.map fun qp => s!"qp={qp}"
    | .bitrateKbps _ _ => resolved.bitrateKbps.map fun bitrate => s!"bitrate_kbps={bitrate}"

def downscaleNote : Option String :=
  match snapshot.width, snapshot.height with
  | some width, some height =>
      let capWidth := resolved.maxWidth.getD width
      let capHeight := resolved.maxHeight.getD height
      if !encoderIsVaapi resolved && (capWidth < width || capHeight < height) then
        some s!"downscale={width}x{height}->{capWidth}x{capHeight}"
      else none
  | _, _ => none

def transcodeVideoNotes : List String :=
  let encoder := resolved.encoder
  [s!"encoder={encoder}"] ++
    (match resolved.preset with
      | some preset => [s!"speed={preset}", "cpu_cost=" ++ cpuCost encoder preset]
      | none => []) ++
    (qualityNote resolved).toList ++ (downscaleNote snapshot resolved).toList

def transcodeVideoObservedState : Option Json :=
  observedObject (observedContainer snapshot ++
    (snapshot.videoCodec.toList.map fun codec => ("video_codec", .string codec)) ++
    ((videoStreamCount snapshot.toMediaSnapshotInput).toList.map fun count =>
      ("video_stream_count", .integer count)))

/-- Status, reason, capability and the code of a diagnostic. -/
def videoOutcome (targetCodec container : String) :
    TranscodeVideoShape → NodeStatus × String × Option String × Option PlanningDiagnosticCode
  | .compliant => (.noOp, s!"video is already {targetCodec} in {container}", none, none)
  | .needsTranscode =>
      (.planned, s!"video will be transcoded to {targetCodec} in {container}",
        some "transcode_video", none)
  | .insufficientFacts message => (.blocked, message, none, some .insufficientSnapshotFacts)
  | .unsupportedShape message => (.blocked, message, none, some .unsupportedMediaShape)

def planVideo (phaseName container : String) : OperationPlan :=
  let shape := transcodeVideoShape lib snapshot resolved container
  let (status, statusReason, capability, code) := videoOutcome resolved.targetCodec container shape
  { operationKind := .transcodeVideo
    operationPayload := .video (transcodeVideoPayload snapshot resolved container)
    observedState := transcodeVideoObservedState snapshot
    status
    statusReason
    capability
    resourceNotes := if shape = .needsTranscode then transcodeVideoNotes snapshot resolved else []
    diagnostics := code.toList.map fun code =>
      operationDiagnostic .error code statusReason phaseName snapshot .transcodeVideo }

end Shape

end Voom.Planner
