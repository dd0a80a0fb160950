import VoomProof.Fallible
import VoomProof.Json
import VoomProof.PolicyValidation

/-!
# Lowering and the compile pipeline

`compile/lower` and `compile/pipeline.rs`. Lowering reads the header of every statement
again, by its first word and not by its keyword, and gives each statement a compiled
operation or fails. It has one more outcome than the source's `Result` shows: a condition
that is never taken apart, on which the source recurses without end.
-/

namespace Voom

open RustText
open Fallible

inductive LowerFailure where
  | rejected (diagnostic : PolicyDiagnostic)
  | diverges
  deriving DecidableEq

def compileError (code : DiagnosticCode) (span : SourceSpan) (message : String) : LowerFailure :=
  .rejected { severity := .error, code, stage := .compile, span, message }

def unknownOperation (span : SourceSpan) : LowerFailure :=
  compileError .unknownPhaseStatementOrOperation span "unknown phase statement or operation"

def validatedFilterError (span : SourceSpan) : LowerFailure :=
  compileError .unknownPhaseStatementOrOperation span "validated track filter could not be lowered"

def lowerCondition (text : Text) : Except LowerFailure CompiledCondition :=
  find (conditionFromText text) .diverges

def lowerOptionalFilter (span : SourceSpan) (text : Text) :
    Except LowerFailure (Option TrackFilter) :=
  find (parseOptionalFilter text) (validatedFilterError span)

/-! ## Media operations -/

def exprScalarString : ExprAst → String
  | .string value | .identifier value | .number value | .fieldPath value => value.value
  | .boolean value => toString value.value
  | .list _ _ => ""

def inlineSettingsFrom (settings : List SettingAst) : VideoProfileSettings :=
  let strAt := fun key => (settingNamed settings key).map exprScalarString
  let numberAt := fun bits key => (strAt key).bind fun value => parseUnsigned bits value.toList
  { encoder := (strAt "encoder").getD ""
    crf := numberAt 8 "crf"
    cq := numberAt 8 "cq"
    qp := numberAt 8 "qp"
    bitrateKbps := numberAt 32 "bitrate_kbps"
    preset := strAt "preset"
    tune := strAt "tune"
    codecProfile := strAt "codec_profile"
    codecLevel := strAt "codec_level"
    pixelFormat := strAt "pixel_format"
    maxWidth := numberAt 32 "max_width"
    maxHeight := numberAt 32 "max_height"
    outputContainer := strAt "output_container"
    copyCompatible := match settingNamed settings "copy_compatible" with
      | some (.boolean value) => some value.value
      | _ => none
    decode := ((strAt "decode").bind VideoDecodeMode.parse).getD .software }

def lowerTranscodeInline (header : Text) (settings : List SettingAst) : CompiledOperation :=
  let inline := inlineSettingsFrom settings
  .transcodeVideo ((words header).getD 3 "hevc") (inline.outputContainer.getD "mkv")
    (.inline inline)

def lowerTranscodeRaw (tokens : List String) : CompiledOperation :=
  let codec := tokens.getD 3 "hevc"
  let profile := match tokens.drop 4 with
    | ["using", "profile", name] => stripQuotes name.toList
    | _ => "default-" ++ codec
  .transcodeVideo codec "mkv" (.named profile)

/-- The last value of a `channels` setting that is a number. -/
def synthesizeChannels (settings : List SettingAst) : Nat :=
  settings.foldl (fun channels setting =>
    if setting.key.value = "channels" then
      (parseUnsigned 64 (exprScalarString setting.value).toList).getD channels
    else channels) 2

def lowerSynthesize (span : SourceSpan) (header : Text) (settings : List SettingAst) :
    Except LowerFailure CompiledOperation := do
  let codec := ((settingNamed settings "codec").map exprScalarString).getD "aac"
  let (_, filter) ← find (splitOnce " from ".toList header) (validatedFilterError span)
  let filter ← find (parseTrackFilter filter) (validatedFilterError span)
  return .synthesizeAudio codec "mkv" (synthesizeChannels settings) (some filter)

/-! ## Operations -/

def defaultStrategy : Option String → Option DefaultStrategy
  | some "first" => some .first
  | some "best" => some .best
  | some "none" => some .none
  | some "preserve" => some .preserve
  | _ => none

def ruleMatchMode : Option String → Option RuleMatchMode
  | some "first" => some .first
  | some "all" => some .all
  | _ => none

def lowerOrder (span : SourceSpan) (text : Text) (tokens : List String) :
    Except LowerFailure CompiledOperation := do
  require (tokens[1]? = some "tracks") (unknownOperation span)
  let targets := (listValues (beforeWhere text)).filterMap fun target => trackTarget (some target)
  return .reorderTracks targets (← lowerOptionalFilter span text)

def lowerDefaults (span : SourceSpan) (text : Text) (tokens : List String) :
    Except LowerFailure CompiledOperation := do
  let filter ← lowerOptionalFilter span text
  let strategy := if filter.isSome then .preserve else (defaultStrategy tokens[2]?).getD .first
  return .setDefaults ((trackTarget tokens[1]?).getD .audio) strategy filter

def lowerTranscode (span : SourceSpan) (text : Text) (tokens : List String) :
    Except LowerFailure CompiledOperation := do
  if tokens[1]? = some "audio" then
    return .transcodeAudio (tokens.getD 3 "opus") "mkv" (← lowerOptionalFilter span text)
  else return lowerTranscodeRaw tokens

/-- An operation that must have these words first. -/
def lowerFixed (span : SourceSpan) (fixed : Prop) [Decidable fixed]
    (operation : CompiledOperation) :
    Except LowerFailure CompiledOperation := do
  require fixed (unknownOperation span)
  return operation

/-- A statement by its first word; `operations` and `rules` are what its body lowers to. -/
def lowerTextOperation (span : SourceSpan) (text : Text)
    (operations : Except LowerFailure (List CompiledOperation))
    (rules : Except LowerFailure
      (List (String × Option CompiledCondition × List CompiledOperation))) :
    Except LowerFailure CompiledOperation :=
  let tokens := words text
  let target := (trackTarget tokens[1]?).getD .audio
  match tokens.head?.bind OperationKeyword.ofText with
  | some .container => return .setContainer (tokens.getD 1 "mkv")
  | some .keep => return .keepTracks target (← lowerOptionalFilter span text)
  | some .remove => return .removeTracks target (← lowerOptionalFilter span text)
  | some .order => lowerOrder span text tokens
  | some .defaults => lowerDefaults span text tokens
  | some .actions => lowerFixed span (tokens[2]? = some "clear") (.clearTrackActions target)
  | some .clearTags => return .clearTags
  | some .setTag =>
      return .setTag ((quotedValue text).getD "")
        (compiledValue ((textAfterQuotedValue text).getD []))
  | some .deleteTag => return .deleteTag ((quotedValue text).getD "")
  | some .transcode => lowerTranscode span text tokens
  | some .extract => do
      require (tokens[1]? = some "audio") (unknownOperation span)
      return .extractAudio "opus" "ogg" (← lowerOptionalFilter span text)
  | some .verify => lowerFixed span (tokens[1]? = some "artifact") .verifyArtifact
  | some .ensure =>
      lowerFixed span (tokens = ["ensure", "audio", "compatibility"]) .ensureAudioCompatibility
  | some .place =>
      lowerFixed span (tokens = ["place", "audio", "compatibility"]) .placeAudioCompatibility
  | some .«when» => return .conditional (← lowerCondition (whenCondition text)) (← operations)
  | some .rules => return .rules ((ruleMatchMode tokens[1]?).getD .first) (← rules)
  | some .synthesize | some .«extend» | none => .error (unknownOperation span)

mutual

def lowerOperation : StatementAst → Except LowerFailure CompiledOperation
  | .transcodeInline _ header settings _ => return lowerTranscodeInline header settings
  | .synthesizeInline _ header settings span => lowerSynthesize span header settings
  | .raw _ text span => lowerTextOperation span text (.ok []) (.ok [])
  | .block keyword name statements span =>
      lowerTextOperation span (statementText (.block keyword name statements span))
        (lowerOperations statements) (lowerRules statements)

def lowerOperations : List StatementAst → Except LowerFailure (List CompiledOperation)
  | [] => return []
  | statement :: rest => return (← lowerOperation statement) :: (← lowerOperations rest)

def lowerRule : StatementAst →
    Except LowerFailure (String × Option CompiledCondition × List CompiledOperation)
  | .block _ (some header) statements span => do
      let (name, condition) ← find (ruleHeader header.value) (unknownOperation span)
      let condition ← lowerCondition condition
      return (String.ofList name, some condition, ← lowerOperations statements)
  | rule => .error (unknownOperation rule.span)

def lowerRules : List StatementAst →
    Except LowerFailure (List (String × Option CompiledCondition × List CompiledOperation))
  | [] => return []
  | rule :: rest => return (← lowerRule rule) :: (← lowerRules rest)

end

/-! ## Phases -/

/-- The first control with a keyword. -/
def controlNamed (controls : List StatementAst) (keyword : String) : Option StatementAst :=
  controls.find? (·.keyword.value = keyword)

/-- The dependencies a visit follows: those that are phases. -/
def PolicyAst.declaredDependencies (ast : PolicyAst) (name : String) : List String :=
  (ast.dependencies name).filter (· ∈ ast.phaseNames)

def phaseOrder (ast : PolicyAst) : List String :=
  (ast.phaseNames.foldl (DepthFirst.visit ast.declaredDependencies ast.searchFuel) ([], [])).2

def CompiledRunIf.parse (name : Text) : Except String CompiledRunIf := do
  let (trigger, phase) ← find (splitOnce [' '] name) "compiled run_if requires a trigger and phase"
  let trigger := String.ofList trigger
  let parsed ← match trigger with
    | "completed" => .ok RunIfTrigger.completed
    | "modified" => .ok RunIfTrigger.modified
    | _ => .error s!"compiled run_if trigger `{trigger}` must be completed or modified"
  require (phase ≠ [] ∧ ¬phase.any isWhitespace) "compiled run_if requires exactly one phase name"
  return ⟨parsed, String.ofList phase⟩

/-- The first entry of the order stands before the second. -/
def isEarlier (order : List String) (referenced current : String) : Bool :=
  match order.findIdx? (· = referenced), order.findIdx? (· = current) with
  | some i, some j => i < j
  | _, _ => false

/-- The text of a `run_if` behind its keyword. -/
def runIfName (control : StatementAst) : Text :=
  trim (trimStartMatches "run_if".toList (statementText control))

def phaseRunIf (phase : PhaseAst) (order : List String) :
    Except LowerFailure (Option CompiledRunIf) :=
  match controlNamed phase.controls "run_if" with
  | none => return none
  | some control => do
      let gate ← (CompiledRunIf.parse (runIfName control)).mapError
        (compileError .invalidRunIfTrigger control.span)
      require (isEarlier order gate.phase phase.name.value)
        (compileError .unknownPhaseReference control.span
          "run_if must reference a predecessor in phase order")
      return some gate

/-- The condition of a `skip` header, as lowering reads it. -/
def loweredSkipCondition (text : Text) : Text :=
  let condition := trim ((stripPrefix "skip".toList text).getD text)
  trim ((stripPrefix "when".toList condition).getD condition)

def phaseSkipIf (controls : List StatementAst) : Except LowerFailure (Option CompiledCondition) :=
  match controlNamed controls "skip" with
  | none => return none
  | some control => return some (← lowerCondition (loweredSkipCondition (statementText control)))

def errorStrategy : Option String → Option ErrorStrategy
  | some "abort" => some .abort
  | some "continue" => some .«continue»
  | _ => none

def phaseOnError (controls : List StatementAst) : Option ErrorStrategy :=
  (controlNamed controls "on_error").bind fun control =>
    errorStrategy (settingValue (statementText control))

def lowerPhase (order : List String) (phase : PhaseAst) : Except LowerFailure CompiledPhase := do
  let runIf ← phaseRunIf phase order
  let skipIf ← phaseSkipIf phase.controls
  let operations ← lowerOperations phase.operations
  return {
    name := phase.name.value
    dependsOn := phaseDependencies phase.controls
    runIf
    skipIf
    onError := phaseOnError phase.controls
    operations }

/-! ## The policy -/

mutual

def exprJson : ExprAst → Json
  | .string value | .identifier value | .number value | .fieldPath value => .string value.value
  | .boolean value => .bool value.value
  | .list values _ => .array (exprsJson values)

def exprsJson : List ExprAst → List Json
  | [] => []
  | value :: rest => exprJson value :: exprsJson rest

end

/-- Each key once, with its last value. -/
def metadataMap (settings : List SettingAst) : List (String × Json) :=
  (SortedSet.ofList (settings.map (·.key.value))).elems.filterMap fun key =>
    (settingNamed settings key).map fun value => (key, exprJson value)

def addConfigSetting (config : CompiledConfig) (setting : SettingAst) : CompiledConfig :=
  match setting.value with
  | .list values _ =>
      if setting.key.value = "languages" then
        { config with languages := values.filterMap fun
            | .string value => some value.value
            | _ => none }
      else config
  | .identifier value =>
      if setting.key.value = "on_error" then
        { config with onError := errorStrategy (some value.value) }
      else config
  | _ => config

def compiledConfig (settings : List SettingAst) : CompiledConfig :=
  settings.foldl addConfigSetting ⟨[], none⟩

structure CompiledPolicy where
  policyName : String
  metadata : List (String × Json)
  config : CompiledConfig
  phases : List CompiledPhase
  phaseOrder : List String
  warnings : Diagnostics

/-- A phase without a strategy of its own takes the configured one. -/
def CompiledPolicy.applyExecutionDefaults (policy : CompiledPolicy) : CompiledPolicy :=
  { policy with
    phases := policy.phases.map fun phase =>
      { phase with onError := phase.onError.or policy.config.onError } }

def compileAst (ast : PolicyAst) (warnings : Diagnostics) : Except LowerFailure CompiledPolicy := do
  let phases ← ast.phases.mapM (lowerPhase (phaseOrder ast))
  return CompiledPolicy.applyExecutionDefaults {
    policyName := ast.name.value
    metadata := metadataMap ast.metadata
    config := compiledConfig ast.config
    phases
    phaseOrder := phaseOrder ast
    warnings }

inductive CompileFailure where
  | parse (error : ParseError)
  | validation (diagnostics : Diagnostics)
  | lowering (failure : LowerFailure)

structure CompileOutput where
  policy : CompiledPolicy
  diagnostics : Diagnostics

def validatePolicy (source : Text) : Except CompileFailure Diagnostics := do
  let ast ← (parsePolicySource source).mapError .parse
  let diagnostics := validatePolicyAst source ast
  if hasErrors diagnostics then .error (.validation diagnostics) else return diagnostics

def compilePolicy (source : Text) : Except CompileFailure CompileOutput := do
  let ast ← (parsePolicySource source).mapError .parse
  let diagnostics := validatePolicyAst source ast
  if hasErrors diagnostics then .error (.validation diagnostics)
  else
    let warnings := diagnostics.filter (·.severity = .warning)
    let policy ← (compileAst ast warnings).mapError .lowering
    return ⟨policy, diagnostics⟩

end Voom
