import Mathlib.Data.String.Basic
import VoomProof.EncoderCaps
import VoomProof.PolicyConditions
import VoomProof.SortedSet
import VoomProof.TrackFilterParser

/-!
# Validation of operations

The checks of `validate/operations.rs`, one function per statement keyword. Each reads the
header of its statement; only `when`, `rules` and `rule` look at nested statements. The tag
operations of a phase are recorded as they are met, since their order and their keys are
checked across statements.
-/

namespace Voom

open RustText

/-! ## Filters -/

mutual

/-- The language codes of a filter, in order. -/
def filterLanguages : TrackFilter → List String
  | .languageIn values => values
  | .not inner => filterLanguages inner
  | .and filters | .or filters => filtersLanguages filters
  | _ => []

def filtersLanguages : List TrackFilter → List String
  | [] => []
  | filter :: rest => filterLanguages filter ++ filtersLanguages rest

end

def isCanonicalLanguageCode (value : String) : Bool :=
  value.toList.length = 3 && value.toList.all Char.isLower

def validateFilter (span : SourceSpan) (text : Text) : Diagnostics :=
  match parseTrackFilter text with
  | none => invalid .unknownPhaseStatementOrOperation span "unknown track filter predicate"
  | some filter =>
      (filterLanguages filter).flatMap fun value =>
        reportIf (!isCanonicalLanguageCode value) .invalidLanguageCode span
          "language code must be eng, und, or a three-letter lowercase ASCII code"

/-- The filter of the `where` clause of a header that has one. -/
def validateWhereFilter (span : SourceSpan) (text : Text) : Diagnostics :=
  match splitOnce " where ".toList text with
  | some (_, filter) => validateFilter span (trim filter)
  | none => []

/-- A `where` clause that may follow the first words of a header. -/
def validateOptionalTrackFilter (span : SourceSpan) (text : Text) (whereIndex : Nat) :
    Diagnostics :=
  let tokens := words text
  if !includes " where ".toList text then
    reportIf (whereIndex < tokens.length) .unknownPhaseStatementOrOperation span
      "operation does not accept extra arguments without `where`"
  else if tokens[whereIndex]? ≠ some "where" then
    invalid .unknownPhaseStatementOrOperation span "track filter must follow the operation header"
  else validateWhereFilter span text

/-! ## Track operations -/

def validateContainer (span : SourceSpan) (text : Text) : Diagnostics :=
  let tokens := words text
  reportIf (tokens[1]? ≠ some "mkv") .unsupportedContainer span
      "Sprint 4 only supports mkv containers" ++
    reportIf (2 < tokens.length) .unknownPhaseStatementOrOperation span
      "container operation does not accept extra arguments"

def validateTrackOperation (span : SourceSpan) (text : Text) : Diagnostics :=
  let tokens := words text
  validateTrackTarget span (tokens.getD 1 "") ++ validateFieldPaths span text ++
    (if includes " where ".toList text then
      reportIf (tokens[2]? ≠ some "where") .unknownPhaseStatementOrOperation span
        "track filter must follow the track target"
    else
      reportIf (2 < tokens.length) .unknownPhaseStatementOrOperation span
        "track operation does not accept extra arguments without `where`") ++
    validateWhereFilter span text

/-- The header of an `order` statement up to its filter. -/
def beforeWhere (text : Text) : Text :=
  match splitOnce " where ".toList text with
  | some (before, _) => before
  | none => text

def validateOrder (span : SourceSpan) (text : Text) : Diagnostics :=
  if (words text)[1]? ≠ some "tracks" then
    invalid .unknownPhaseStatementOrOperation span "order operation must use `order tracks`"
  else
    let targets := listValues (beforeWhere text)
    reportIf (targets = [] && !includes " where ".toList text) .invalidTrackTarget span
        "order tracks requires at least one track target or a `where` filter" ++
      targets.flatMap (validateTrackTarget span) ++
      reportIf ((textAfterList (beforeWhere text)).any (· ≠ [])) .unknownPhaseStatementOrOperation
        span "order tracks does not accept extra arguments after the target list" ++
      validateWhereFilter span text

def validateDefaults (span : SourceSpan) (text : Text) : Diagnostics :=
  let tokens := words text
  let target := String.ofList (trimEndMatches (· = ':') (tokens.getD 1 "").toList)
  validateTrackTarget span target ++
    if includes " where ".toList text then validateWhereFilter span text
    else
      reportIf (tokens.getD 2 "" ∉ ["first", "best", "none", "preserve"]) .invalidDefaultStrategy
          span "default strategy must be first, best, none, or preserve" ++
        reportIf (3 < tokens.length) .unknownPhaseStatementOrOperation span
          "defaults operation does not accept extra arguments"

def validateActions (span : SourceSpan) (text : Text) : Diagnostics :=
  let tokens := words text
  validateTrackTarget span (tokens.getD 1 "") ++
    reportIf (tokens[2]? ≠ some "clear") .unknownPhaseStatementOrOperation span
      "track actions operation must use `clear`" ++
    reportIf (3 < tokens.length) .unknownPhaseStatementOrOperation span
      "track actions operation does not accept extra arguments"

/-! ## Tags -/

structure TagEffects where
  sawSetTag : Bool := false
  setTags : SortedSet String := ∅
  deleteTags : SortedSet String := ∅

def recordClearTags (effects : TagEffects) (span : SourceSpan) : Diagnostics :=
  reportIf effects.sawSetTag .tagOrderingError span "clear_tags must precede set_tag in a phase"

def validateClearTags (span : SourceSpan) (text : Text) : Diagnostics :=
  reportIf (1 < (words text).length) .unknownPhaseStatementOrOperation span
    "clear_tags does not accept extra arguments"

/-- The diagnostics, and the key of the tag where it has one. -/
def validateSetTag (span : SourceSpan) (text : Text) : Diagnostics × Option String :=
  match quotedValueAndRest text with
  | none =>
      (invalid .unknownPhaseStatementOrOperation span "set_tag requires a quoted tag key", none)
  | some (key, value) =>
      ((if value = [] then
          invalid .unknownPhaseStatementOrOperation span "set_tag requires a value"
        else
          reportIf (!isSingleValue value) .unknownPhaseStatementOrOperation span
            "set_tag accepts exactly one value") ++ validateFieldPaths span text,
        some (String.ofList key))

def validateDeleteTag (span : SourceSpan) (text : Text) : Diagnostics × Option String :=
  match quotedValueAndRest text with
  | none =>
      (invalid .unknownPhaseStatementOrOperation span "delete_tag requires a quoted tag key", none)
  | some (key, rest) =>
      (reportIf (rest ≠ []) .unknownPhaseStatementOrOperation span
          "delete_tag does not accept extra arguments", some (String.ofList key))

/-! ## Inline video profiles -/

/-- The text of Rust's `Debug` for a string of printable characters. -/
def debugText (s : String) : String :=
  String.ofList ('"' :: s.toList.flatMap (fun c => if c = '"' ∨ c = '\\' then ['\\', c] else [c])
    ++ ['"'])

def invalidSetting (span : SourceSpan) (message : String) : Diagnostics :=
  invalid .invalidVideoProfileSetting span message

/-- The value of a setting; of two with the same key, the second. -/
def settingNamed (settings : List SettingAst) (key : String) : Option ExprAst :=
  (settings.reverse.find? (·.key.value = key)).map (·.value)

def inlineExprAsString (span : SourceSpan) (key : String) :
    ExprAst → Option String × Diagnostics
  | .identifier value | .string value | .number value | .fieldPath value => (some value.value, [])
  | .boolean _ | .list _ _ => (none, invalidSetting span s!"`{key}` must be a scalar value")

def inlineOptionalStr (span : SourceSpan) (settings : List SettingAst) (key : String) :
    Option String × Diagnostics :=
  match settingNamed settings key with
  | none => (none, [])
  | some expr => inlineExprAsString span key expr

def inlineSettingKeys : List String :=
  ["encoder", "crf", "cq", "qp", "bitrate_kbps", "preset", "tune", "codec_profile", "codec_level",
    "pixel_format", "max_width", "max_height", "output_container", "copy_compatible", "decode"]

/-- Every key is known and none is given twice. -/
def validateInlineSettingKeys (span : SourceSpan) : List SettingAst → List String → Diagnostics
  | [], _ => []
  | setting :: rest, seen =>
      let key := setting.key.value
      (if key ∉ inlineSettingKeys then
          invalidSetting span s!"unknown inline profile setting `{key}`"
        else if key ∈ seen then
          invalidSetting span s!"duplicate inline profile setting `{key}`"
        else []) ++ validateInlineSettingKeys span rest (key :: seen)

def inRange (bits min max : Nat) (value : Option String) : Bool :=
  (value.bind fun value => parseUnsigned bits value.toList).any fun n => min ≤ n && n ≤ max

/-- Exactly the quality setting of the encoder's domain. -/
def validateInlineQuality (span : SourceSpan) (descriptor : EncoderDescriptor)
    (settings : List SettingAst) : Diagnostics :=
  let (crf, d₁) := inlineOptionalStr span settings "crf"
  let (cq, d₂) := inlineOptionalStr span settings "cq"
  let (qp, d₃) := inlineOptionalStr span settings "qp"
  let (bitrate, d₄) := inlineOptionalStr span settings "bitrate_kbps"
  let valid := match descriptor.qualityDomain with
    | .crf min max => cq = none && qp = none && bitrate = none && inRange 8 min max crf
    | .cq min max => crf = none && qp = none && bitrate = none && inRange 8 min max cq
    | .qp min max => crf = none && cq = none && bitrate = none && inRange 8 min max qp
    | .bitrateKbps min max => crf = none && cq = none && qp = none && inRange 32 min max bitrate
  let encoder := descriptor.encoder
  let domain := descriptor.qualityDomain.debug
  d₁ ++ d₂ ++ d₃ ++ d₄ ++ reportIf (!valid) .invalidVideoProfileSetting span
    s!"quality fields invalid for `{encoder}` ({domain})"

def validateInlinePreset (span : SourceSpan) (descriptor : EncoderDescriptor)
    (settings : List SettingAst) : Diagnostics :=
  let (preset, diagnostics) := inlineOptionalStr span settings "preset"
  let encoder := descriptor.encoder
  diagnostics ++
    match descriptor.presetDomain, preset with
    | .none, none => []
    | .none, some preset => invalidSetting span s!"`{encoder}` accepts no preset; got `{preset}`"
    | _, none => invalidSetting span "inline profile is missing mandatory `preset`"
    | _, some preset =>
        reportIf (!descriptor.acceptsPreset preset) .invalidVideoProfileSetting span
          s!"preset `{preset}` invalid for `{encoder}`"

/-- A setting that must be one of the descriptor's values, where it is given. -/
def validateInlineChoice (span : SourceSpan) (encoder key : String) (allowed : List String)
    (value : Option String) : Diagnostics :=
  match value with
  | none => []
  | some value =>
      reportIf (value ∉ allowed) .invalidVideoProfileSetting span
        s!"{key} `{value}` invalid for `{encoder}`"

def validateInlinePixelFormat (span : SourceSpan) (descriptor : EncoderDescriptor)
    (pixelFormat codecProfile : Option String) : Diagnostics :=
  match pixelFormat with
  | none => []
  | some format =>
      let encoder := descriptor.encoder
      let profile := match codecProfile with
        | none => "None"
        | some profile => "Some(" ++ debugText profile ++ ")"
      if format ∉ descriptor.pixelFormats then
        invalidSetting span s!"pixel_format `{format}` invalid for `{encoder}`"
      else
        reportIf (!descriptor.pixelFormatCompatibleWithProfile format codecProfile)
          .invalidVideoProfileSetting span
          s!"pixel_format `{format}` incompatible with codec_profile `{profile}`"

def isPositiveNumber (bits : Nat) : ExprAst → Bool
  | .number value => (parseUnsigned bits value.value.toList).any (0 < ·)
  | _ => false

def validateInlineDimension (span : SourceSpan) (settings : List SettingAst) (key : String) :
    Diagnostics :=
  match settingNamed settings key with
  | none => []
  | some expr =>
      reportIf (!isPositiveNumber 32 expr) .invalidVideoProfileSetting span
        s!"{key} must be a positive integer"

def validateInlineContainerAndDimensions (span : SourceSpan) (settings : List SettingAst) :
    Diagnostics :=
  let (container, diagnostics) := inlineOptionalStr span settings "output_container"
  diagnostics ++
    (match container with
      | none => []
      | some container =>
          reportIf (container ∉ ["mkv", "mp4"]) .invalidVideoProfileSetting span
            s!"output_container `{container}` must be mkv or mp4") ++
    validateInlineDimension span settings "max_width" ++
    validateInlineDimension span settings "max_height" ++
    (match settingNamed settings "copy_compatible" with
      | none | some (.boolean _) => []
      | some _ => invalidSetting span "copy_compatible must be a boolean")

/-- The encoder a hardware decoder hands its frames to, and its name in a diagnostic. -/
def decodeBackend : VideoDecodeMode → Option (VideoEncoderBackend × String × String)
  | .software => none
  | .nvidia => some (.nvidia, "NVIDIA", "an NVIDIA")
  | .vaapi => some (.vaapi, "VAAPI", "a VAAPI")
  | .videoToolbox => some (.videoToolbox, "VideoToolbox", "a VideoToolbox")

def validateInlineDecode (span : SourceSpan) (descriptor : EncoderDescriptor) (decode : String) :
    Diagnostics :=
  match VideoDecodeMode.parse decode with
  | none =>
      invalidSetting span "decode must be `software`, `nvidia`, `vaapi`, or `video_toolbox`"
  | some mode =>
      match decodeBackend mode with
      | none => []
      | some (backend, name, article) =>
          let encoder := descriptor.encoder
          reportIf (descriptor.backend ≠ backend) .invalidVideoProfileSetting span
            s!"{name} decode requires {article} encoder, not `{encoder}`"

def validateInlineOptionals (span : SourceSpan) (descriptor : EncoderDescriptor)
    (settings : List SettingAst) : Diagnostics :=
  let encoder := descriptor.encoder
  let (tune, d₁) := inlineOptionalStr span settings "tune"
  let (codecProfile, d₂) := inlineOptionalStr span settings "codec_profile"
  let (codecLevel, d₃) := inlineOptionalStr span settings "codec_level"
  let (pixelFormat, d₄) := inlineOptionalStr span settings "pixel_format"
  let (decode, d₅) := inlineOptionalStr span settings "decode"
  d₁ ++ validateInlineChoice span encoder "tune" descriptor.tunes tune ++
    d₂ ++ validateInlineChoice span encoder "codec_profile" descriptor.codecProfiles codecProfile ++
    d₃ ++ validateInlineChoice span encoder "codec_level" descriptor.codecLevels codecLevel ++
    d₄ ++ validateInlinePixelFormat span descriptor pixelFormat codecProfile ++
    validateInlineContainerAndDimensions span settings ++
    d₅ ++ (decode.map (validateInlineDecode span descriptor)).getD []

def validateInlineVideoProfile (span : SourceSpan) (codec : String) (settings : List SettingAst) :
    Diagnostics :=
  let keys := validateInlineSettingKeys span settings []
  if keys ≠ [] then keys
  else
    match settingNamed settings "encoder" with
    | none => invalidSetting span "inline profile is missing mandatory `encoder`"
    | some expr =>
        match inlineExprAsString span "encoder" expr with
        | (none, diagnostics) => diagnostics
        | (some encoder, _) =>
            match encoderDescriptor encoder with
            | none => invalidSetting span s!"unknown encoder `{encoder}`"
            | some descriptor =>
                let target := descriptor.targetCodec
                reportIf (target ≠ codec) .invalidVideoProfileSetting span
                    s!"encoder `{encoder}` produces `{target}`, not `{codec}`" ++
                  validateInlineQuality span descriptor settings ++
                  validateInlinePreset span descriptor settings ++
                  validateInlineOptionals span descriptor settings

/-! ## Media operations -/

def audioCodecs : List String :=
  ["aac", "opus", "eac3", "ac3", "flac", "alac", "pcm_s16le", "pcm_s24le"]

/-- The codec of a `transcode video` header. -/
def transcodeTargetCodec (tokens : List String) : Option String :=
  tokens[3]?.filter (· ∈ ["h264", "hevc", "av1"])

def invalidTargetCodec (span : SourceSpan) : Diagnostics :=
  invalid .unsupportedTranscodeShape span "transcode video target codec must be h264, hevc, or av1"

def validateTranscodeVideoHeader (span : SourceSpan) (tokens : List String) : Diagnostics :=
  match transcodeTargetCodec tokens with
  | none => invalidTargetCodec span
  | some _ =>
      match tokens.drop 4 with
      | [] | ["using", "profile", _] => []
      | _ => invalid .unsupportedTranscodeShape span "unsupported transcode video header"

def validateTranscodeHeader (span : SourceSpan) (text : Text) : Diagnostics :=
  match words text with
  | "transcode" :: "video" :: rest =>
      validateTranscodeVideoHeader span ("transcode" :: "video" :: rest)
  | "transcode" :: "audio" :: "to" :: codec :: _ =>
      if codec ∈ audioCodecs then validateOptionalTrackFilter span text 4
      else invalid .unsupportedTranscodeShape span "unsupported transcode operation shape"
  | _ => invalid .unsupportedTranscodeShape span "unsupported transcode operation shape"

def validateTranscodeStatement : StatementAst → Diagnostics
  | .raw _ text span => validateTranscodeHeader span text
  | .transcodeInline _ header settings span =>
      if includes "using profile".toList header then
        invalid .unsupportedTranscodeShape span
          "`using profile` and an inline body are mutually exclusive"
      else
        match transcodeTargetCodec (words header) with
        | none => invalidTargetCodec span
        | some codec => validateInlineVideoProfile span codec settings
  | .block _ _ _ span | .synthesizeInline _ _ _ span =>
      invalid .unsupportedTranscodeShape span "transcode does not take a nested statement block"

def validateExtractStatement (span : SourceSpan) (text : Text) : Diagnostics :=
  match words text with
  | "extract" :: "audio" :: _ => validateOptionalTrackFilter span text 2
  | _ => invalid .unknownPhaseStatementOrOperation span "unsupported extract operation"

def validateVerifyStatement (span : SourceSpan) (text : Text) : Diagnostics :=
  let tokens := words text
  if tokens[1]? ≠ some "artifact" then
    invalid .unknownPhaseStatementOrOperation span "verify operation must use `verify artifact`"
  else
    reportIf (2 < tokens.length) .unknownPhaseStatementOrOperation span
      "verify artifact does not accept extra arguments"

def validateAudioCompatibilityStatement (statement : StatementAst) : Diagnostics :=
  let tokens := words (statementText statement)
  let raw := match statement with
    | .raw _ _ _ => true
    | _ => false
  reportIf
    (tokens ∉ [["ensure", "audio", "compatibility"], ["place", "audio", "compatibility"]] || !raw)
    .unknownPhaseStatementOrOperation statement.span
    "compatibility operation must be exactly `ensure audio compatibility` or `place audio compatibility`"

def validateSynthesizeHeader (span : SourceSpan) (header : Text) : Diagnostics :=
  match words header with
  | "synthesize" :: "audio" :: "from" :: _ =>
      match splitOnce " from ".toList header with
      | none =>
          invalid .unknownPhaseStatementOrOperation span
            "synthesize requires a source track filter after `from`"
      | some (_, filter) =>
          if trim filter = [] then
            invalid .unknownPhaseStatementOrOperation span
              "synthesize requires a source track filter after `from`"
          else validateFilter span (trim filter)
  | _ =>
      invalid .unknownPhaseStatementOrOperation span
        "synthesize operation must use `synthesize audio from <track-filter>`"

/-- Unknown and repeated keys of a synthesize body. -/
def validateSynthesizeKeys (span : SourceSpan) : List SettingAst → List String → Diagnostics
  | [], _ => []
  | setting :: rest, seen =>
      let key := setting.key.value
      (if key ∈ seen then
          invalid .unknownPhaseStatementOrOperation span s!"duplicate synthesize setting `{key}`"
        else
          reportIf (key ∉ ["codec", "channels"]) .unknownPhaseStatementOrOperation span
            s!"unknown synthesize setting `{key}` (expected codec or channels)") ++
        validateSynthesizeKeys span rest (key :: seen)

/-- The value of a setting; of two with the same key, the first. -/
def firstSetting (settings : List SettingAst) (key : String) : Option ExprAst :=
  (settings.find? (·.key.value = key)).map (·.value)

def validateSynthesizeCodec (span : SourceSpan) : Option ExprAst → Diagnostics
  | none => invalid .unknownPhaseStatementOrOperation span "synthesize requires a `codec`"
  | some codec =>
      let value := match codec with
        | .identifier value | .string value => value.value
        | _ => ""
      reportIf (value ∉ audioCodecs) .unknownPhaseStatementOrOperation span
        "synthesize codec must be aac, opus, eac3, ac3, flac, alac, pcm_s16le, or pcm_s24le"

def validateSynthesizeChannels (span : SourceSpan) : Option ExprAst → Diagnostics
  | none => invalid .unknownPhaseStatementOrOperation span "synthesize requires a `channels` count"
  | some channels =>
      reportIf (!isPositiveNumber 64 channels) .unknownPhaseStatementOrOperation span
        "synthesize channels must be a positive integer"

def validateSynthesizeStatement : StatementAst → Diagnostics
  | .synthesizeInline _ header settings span =>
      validateSynthesizeHeader span header ++ validateSynthesizeKeys span settings [] ++
        validateSynthesizeCodec span (firstSetting settings "codec") ++
        validateSynthesizeChannels span (firstSetting settings "channels")
  | statement =>
      invalid .unknownPhaseStatementOrOperation statement.span
        "synthesize operation must use `synthesize audio from <track-filter> \x7b codec … channels … \x7d`"

/-! ## Operations -/

/-- The statements that are operations of a phase. -/
inductive OperationKeyword where
  | container
  | keep
  | remove
  | order
  | defaults
  | actions
  | clearTags
  | setTag
  | deleteTag
  | «when»
  | rules
  | «extend»
  | transcode
  | extract
  | verify
  | synthesize
  | ensure
  | place
  deriving DecidableEq

namespace OperationKeyword

def text : OperationKeyword → String
  | container => "container"
  | keep => "keep"
  | remove => "remove"
  | order => "order"
  | defaults => "defaults"
  | actions => "actions"
  | clearTags => "clear_tags"
  | setTag => "set_tag"
  | deleteTag => "delete_tag"
  | «when» => "when"
  | rules => "rules"
  | «extend» => "extend"
  | transcode => "transcode"
  | extract => "extract"
  | verify => "verify"
  | synthesize => "synthesize"
  | ensure => "ensure"
  | place => "place"

def all : List OperationKeyword :=
  [container, keep, remove, order, defaults, actions, clearTags, setTag, deleteTag, «when», rules,
    «extend», transcode, extract, verify, synthesize, ensure, place]

/-- The keyword a word is. -/
def ofText (word : String) : Option OperationKeyword := all.find? (·.text = word)

end OperationKeyword

/-- Diagnostics, and the tags recorded so far. -/
abbrev Checked := Diagnostics × TagEffects

/-- The checks that are the same at the top of a phase and in a nested body; `none` for any
other keyword. -/
def validateLeaf (statement : StatementAst) (effects : TagEffects) : Option Checked :=
  let text := statementText statement
  let span := statement.span
  match OperationKeyword.ofText statement.keyword.value with
  | some .container => some (validateContainer span text, effects)
  | some .keep | some .remove => some (validateTrackOperation span text, effects)
  | some .order => some (validateOrder span text, effects)
  | some .defaults => some (validateDefaults span text, effects)
  | some .actions => some (validateActions span text, effects)
  | some .clearTags => some (validateClearTags span text ++ recordClearTags effects span, effects)
  | some .setTag =>
      some ((validateSetTag span text).1, match (validateSetTag span text).2 with
        | some key => { effects with sawSetTag := true, setTags := effects.setTags.insert key }
        | none => effects)
  | some .deleteTag =>
      some ((validateDeleteTag span text).1, match (validateDeleteTag span text).2 with
        | some key => { effects with deleteTags := effects.deleteTags.insert key }
        | none => effects)
  | some .transcode => some (validateTranscodeStatement statement, effects)
  | some .extract => some (validateExtractStatement span text, effects)
  | some .verify => some (validateVerifyStatement span text, effects)
  | some .synthesize => some (validateSynthesizeStatement statement, effects)
  | some .ensure | some .place => some (validateAudioCompatibilityStatement statement, effects)
  | some .«when» | some .rules | some .«extend» | none => none

def validateLeafOr (message : String) (statement : StatementAst) (effects : TagEffects) : Checked :=
  (validateLeaf statement effects).getD
    (invalid .unknownPhaseStatementOrOperation statement.span message, effects)

/-- The condition of a `when` header. -/
def whenCondition (text : Text) : Text := trim (trimStartMatches "when".toList text)

mutual

def validateNestedOperation : StatementAst → TagEffects → Checked
  | .block keyword name statements span, effects =>
      let statement := StatementAst.block keyword name statements span
      if keyword.value = "when" then
        let (diagnostics, effects) := validateNestedOperations statements effects
        (validateConditionExpression span (whenCondition (statementText statement)) ++ diagnostics,
          effects)
      else validateLeafOr "unknown nested operation" statement effects
  | statement, effects =>
      if statement.keyword.value = "when" then
        (validateConditionExpression statement.span (whenCondition (statementText statement)),
          effects)
      else validateLeafOr "unknown nested operation" statement effects

def validateNestedOperations : List StatementAst → TagEffects → Checked
  | [], effects => ([], effects)
  | statement :: rest, effects =>
      let (diagnostics, effects) := validateNestedOperation statement effects
      let (following, effects) := validateNestedOperations rest effects
      (diagnostics ++ following, effects)

end

def validateRule (rule : StatementAst) (effects : TagEffects) : Checked :=
  let malformed := invalid .unknownPhaseStatementOrOperation rule.span
    "rule must use `rule <quoted-name> when <condition> \x7b ... \x7d`"
  if rule.keyword.value ≠ "rule" then
    (invalid .unknownPhaseStatementOrOperation rule.span
      "rules block may only contain rule blocks", effects)
  else
    match rule with
    | .block _ (some header) statements span =>
        match ruleHeader header.value with
        | none => (malformed, effects)
        | some (_, condition) =>
            let (diagnostics, effects) := validateNestedOperations statements effects
            (validateConditionExpression span condition ++ diagnostics, effects)
    | _ => (malformed, effects)

def validateRuleList : List StatementAst → TagEffects → Checked
  | [], effects => ([], effects)
  | rule :: rest, effects =>
      let (diagnostics, effects) := validateRule rule effects
      let (following, effects) := validateRuleList rest effects
      (diagnostics ++ following, effects)

def validateRules (statement : StatementAst) (effects : TagEffects) : Checked :=
  let tokens := words (statementText statement)
  let mode := reportIf (tokens.getD 1 "" ∉ ["first", "all"]) .invalidRuleMatchMode statement.span
      "rules mode must be first or all" ++
    reportIf (2 < tokens.length) .unknownPhaseStatementOrOperation statement.span
      "rules mode does not accept extra arguments"
  match statement with
  | .block _ _ statements _ =>
      let (diagnostics, effects) := validateRuleList statements effects
      (mode ++ diagnostics, effects)
  | _ => (mode, effects)

/-- An operation at the top of a phase. -/
def validateOperation (statement : StatementAst) (effects : TagEffects) : Checked :=
  match OperationKeyword.ofText statement.keyword.value with
  | some .«when» => validateNestedOperation statement effects
  | some .rules => validateRules statement effects
  | some .«extend» =>
      (invalid .deferredPhaseInheritance statement.span
        "phase inheritance through extend is deferred", effects)
  | _ => validateLeafOr "unknown phase statement or operation" statement effects

end Voom
