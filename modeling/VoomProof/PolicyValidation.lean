import VoomProof.DepthFirst
import VoomProof.PolicyOperations
import VoomProof.PolicyParser

/-!
# Validation of a policy

`compile/validate.rs`: the checks of the policy as a whole, of its settings, of the
references between its phases, and of each phase. Validation never stops at an error; it
returns every diagnostic it has met, in order.
-/

namespace Voom

open RustText

/-! ## Settings -/

def ExprAst.span : ExprAst → SourceSpan
  | .string value | .identifier value | .number value | .fieldPath value => value.span
  | .boolean value => value.span
  | .list _ span => span

/-- The part of a source a span covers. -/
def sliceOf (source : Text) (start stop : Nat) : Text := (source.drop start).take (stop - start)

/-- Between any two elements of a list stands a comma, and none behind the last. -/
def languageListHasCommas (source : Text) (stop : Nat) : List ExprAst → Bool
  | [] => true
  | [last] => (trimStart (sliceOf source last.span.stop stop)).head? ≠ some ','
  | value :: next :: rest =>
      (trimStart (sliceOf source value.span.stop next.span.start)).head? = some ',' &&
        languageListHasCommas source stop (next :: rest)

def validateConfigLanguage : ExprAst → Diagnostics
  | .string language =>
      reportIf (!isCanonicalLanguageCode language.value) .invalidLanguageCode language.span
        "language code must be a three-letter lowercase ASCII code"
  | value => invalid .invalidLanguageCode value.span "config language codes must be quoted"

def validateConfigLanguages (source : Text) : ExprAst → Diagnostics
  | .list values span =>
      reportIf (!languageListHasCommas source span.stop values) .invalidLanguageCode span
          "config languages must separate quoted language codes with commas" ++
        values.flatMap validateConfigLanguage
  | value =>
      invalid .invalidLanguageCode value.span
        "config languages must be a comma-separated list of quoted language codes"

def validateConfigOnError (value : ExprAst) : Diagnostics :=
  let published := match value with
    | .identifier value => value.value = "abort" || value.value = "continue"
    | _ => false
  reportIf (!published) .invalidOnErrorValue value.span "config on_error must be abort or continue"

def validateConfigSetting (source : Text) (setting : SettingAst) : Diagnostics :=
  if setting.key.value = "languages" then validateConfigLanguages source setting.value
  else if setting.key.value = "on_error" then validateConfigOnError setting.value
  else invalid .unknownTopLevelBlock setting.key.span "unknown config statement"

/-- The settings in order, those already met in `before`, the last one first. -/
def validateConfig (source : Text) : List SettingAst → List SettingAst → Diagnostics
  | _, [] => []
  | before, setting :: rest =>
      let key := setting.key.value
      (match before.find? (·.key.value = key) with
        | some first =>
            [{ severity := .error, code := .duplicateConfigSetting, stage := .validate,
               span := setting.key.span,
               message := s!"config setting `{key}` may be declared only once",
               related := [(first.key.span, "first config declaration")] }]
        | none => validateConfigSetting source setting) ++
        validateConfig source (setting :: before) rest

def validateRequiredTool : ExprAst → Diagnostics
  | .identifier tool =>
      let name := tool.value
      reportIf (name ∉ ["ffmpeg", "ffprobe", "mkvtoolnix"]) .invalidMetadataRequiresTools tool.span
        s!"unknown metadata tool `{name}`"
  | value =>
      invalid .invalidMetadataRequiresTools value.span
        "metadata requires_tools entries must be unquoted identifiers"

def validateRequiredToolsValue : ExprAst → Diagnostics
  | .list values _ => values.flatMap validateRequiredTool
  | value =>
      invalid .invalidMetadataRequiresTools value.span
        "metadata requires_tools must be a list of published tool identifiers"

/-- Only the declarations of `requires_tools` are checked. -/
def validateMetadata (metadata : List SettingAst) : Diagnostics :=
  match metadata.filter (·.key.value = "requires_tools") with
  | [] => []
  | first :: rest =>
      validateRequiredToolsValue first.value ++
        rest.map fun setting =>
          { severity := .error, code := .invalidMetadataRequiresTools, stage := .validate,
            span := setting.key.span,
            message := "metadata requires_tools may be declared only once",
            related := [(first.key.span, "first requires_tools declaration")] }

/-! ## References between phases -/

/-- The phases in order, those already met in `before`, the last one first. -/
def validatePhaseNames : List PhaseAst → List PhaseAst → Diagnostics
  | _, [] => []
  | before, phase :: rest =>
      (match before.find? (·.name.value = phase.name.value) with
        | some first =>
            [{ severity := .error, code := .duplicatePhaseName, stage := .validate,
               span := phase.name.span, message := "duplicate phase name",
               related := [(first.name.span, "first phase with this name")] }]
        | none => []) ++ validatePhaseNames (phase :: before) rest

def PolicyAst.phaseNames (ast : PolicyAst) : List String := ast.phases.map (·.name.value)

def phaseDependencies (controls : List StatementAst) : List String :=
  (controls.filter (·.keyword.value = "depends_on")).flatMap fun control =>
    dependencyValues (statementText control)

/-- The dependencies of each phase; of two phases with the same name, those of the second. -/
def PolicyAst.dependencies (ast : PolicyAst) (name : String) : List String :=
  match ast.phases.reverse.find? (·.name.value = name) with
  | some phase => phaseDependencies phase.controls
  | none => []

def validatePhaseReference (ast : PolicyAst) (phaseName referenced : String) (span : SourceSpan) :
    Diagnostics :=
  if referenced = phaseName then
    invalid .selfDependency span "phase must not depend on itself"
  else
    reportIf (referenced ∉ ast.phaseNames) .unknownPhaseReference span
      "phase references an unknown phase"

def validateDependsOn (ast : PolicyAst) (phase : PhaseAst) (control : StatementAst) : Diagnostics :=
  let text := statementText control
  reportIf ('[' ∈ text && (textAfterList text).any (· ≠ [])) .unknownPhaseStatementOrOperation
      control.span "depends_on does not accept extra arguments after the dependency list" ++
    (dependencyValues text).flatMap fun dependency =>
      validatePhaseReference ast phase.name.value dependency control.span

def validateRunIf (ast : PolicyAst) (phase : PhaseAst) (control : StatementAst) : Diagnostics :=
  match words (statementText control) with
  | [_, trigger, referenced] =>
      if trigger ≠ "modified" ∧ trigger ≠ "completed" then
        invalid .invalidRunIfTrigger control.span "run_if trigger must be modified or completed"
      else validatePhaseReference ast phase.name.value referenced control.span
  | _ =>
      invalid .invalidRunIfTrigger control.span "run_if requires exactly one trigger and one phase"

def validateReferences (ast : PolicyAst) (phase : PhaseAst) (control : StatementAst) :
    Diagnostics :=
  if control.keyword.value = "depends_on" then validateDependsOn ast phase control
  else if control.keyword.value = "run_if" then validateRunIf ast phase control
  else []

/-- A path from phase to phase, and one step more. -/
def PolicyAst.searchFuel (ast : PolicyAst) : Nat := ast.phases.length + 2

def PolicyAst.hasCycle (ast : PolicyAst) (phase : PhaseAst) : Bool :=
  (DepthFirst.search ast.dependencies ast.searchFuel [] [] phase.name.value).isNone

/-- The first phase from which a cycle is found. -/
def validateCycles (ast : PolicyAst) : Diagnostics :=
  match ast.phases.find? ast.hasCycle with
  | some phase =>
      invalid .dependencyCycle phase.name.span "phase dependencies contain a cycle"
  | none => []

def validatePhaseDependencies (ast : PolicyAst) : Diagnostics :=
  (ast.phases.flatMap fun phase => phase.controls.flatMap (validateReferences ast phase)) ++
    validateCycles ast

/-! ## Phases -/

def isOutOfRange (token : String) : Bool :=
  token.toList.all Char.isDigit && (parseUnsigned 64 token.toList).isNone

/-- Words of digits that do not fit in 64 bits. -/
def checkNumericLiterals (statement : StatementAst) : Diagnostics :=
  (words (statementText statement)).flatMap fun token =>
    reportIf (isOutOfRange token) .numericLiteralOutOfRange statement.span
      s!"numeric literal `{token}` exceeds the maximum supported value (18446744073709551615)"

/-- The condition of a `skip` header, as validation reads it. -/
def skipCondition (text : Text) : Text :=
  trim (trimStartMatches "when".toList (trim (trimStartMatches "skip".toList text)))

/-- `on_error: abort` or `on_error: continue`, read from the source. -/
def isPublishedOnError (text : Text) : Bool :=
  match stripPrefix "on_error".toList text with
  | none => false
  | some rest =>
      match rest.dropWhile isAsciiWhitespace with
      | ':' :: value =>
          let value := trimMatches isAsciiWhitespace value
          value = "abort".toList || value = "continue".toList
      | _ => false

def validateOnError (source : Text) (control : StatementAst) : Diagnostics :=
  reportIf (!isPublishedOnError (sliceOf source control.span.start control.span.stop))
    .invalidOnErrorValue control.span "on_error must use `on_error: abort` or `on_error: continue`"

def validateControl (source : Text) (control : StatementAst) : Diagnostics :=
  let keyword := control.keyword.value
  checkNumericLiterals control ++
    if keyword = "skip" then
      validateConditionExpression control.span (skipCondition (statementText control))
    else if keyword = "on_error" then validateOnError source control
    else
      reportIf (keyword ≠ "depends_on" && keyword ≠ "run_if") .unknownPhaseStatementOrOperation
        control.span "unknown phase control"

def validateOperations : List StatementAst → TagEffects → Checked
  | [], effects => ([], effects)
  | operation :: rest, effects =>
      let (diagnostics, effects) := validateOperation operation effects
      let (following, effects) := validateOperations rest effects
      (checkNumericLiterals operation ++ diagnostics ++ following, effects)

def validateTagConflicts (phase : PhaseAst) (effects : TagEffects) : Diagnostics :=
  (effects.setTags.elems.filter (· ∈ effects.deleteTags.elems)).flatMap fun key =>
    invalid .ambiguousTagOperationConflict phase.name.span
      s!"set_tag and delete_tag both target `{key}`"

def validatePhase (source : Text) (phase : PhaseAst) : Diagnostics :=
  let (operations, effects) := validateOperations phase.operations {}
  phase.controls.flatMap (validateControl source) ++ operations ++
    validateTagConflicts phase effects

/-! ## The policy -/

def MAX_SOURCE_BYTES : Nat := 1048576

/-- The length of a source in bytes. -/
def sourceBytes (source : Text) : Nat := (source.map Char.utf8Size).sum

def validateExtends : Option (Spanned String) → Diagnostics
  | some parent =>
      invalid .deferredComposition parent.span "policy composition through extends is deferred"
  | none => []

def validatePolicyAst (source : Text) (ast : PolicyAst) : Diagnostics :=
  reportIf (blank ast.name.value) .unexpectedToken ast.name.span "policy name must not be empty" ++
    reportIf (MAX_SOURCE_BYTES < sourceBytes source) .sourceSizeExceeded ⟨0, source.length⟩
      "policy source exceeds the maximum supported size" ++
    reportIf ast.phases.isEmpty .unexpectedToken ast.name.span
      "policy must declare at least one phase" ++
    validateExtends ast.extends ++
    (ast.unknownTopLevel.flatMap fun statement =>
      invalid .unknownTopLevelBlock statement.span "unknown top-level policy block") ++
    validateConfig source [] ast.config ++ validateMetadata ast.metadata ++
    validatePhaseNames [] ast.phases ++ validatePhaseDependencies ast ++
    ast.phases.flatMap (validatePhase source)

def hasErrors (diagnostics : Diagnostics) : Bool := diagnostics.any (·.severity = .error)

section Errors
variable {ds ds' : Diagnostics} {code : DiagnosticCode} {span : SourceSpan} {message : String}

@[simp] theorem hasErrors_nil : hasErrors [] = false := rfl

@[simp] theorem hasErrors_append : hasErrors (ds ++ ds') = (hasErrors ds || hasErrors ds') :=
  List.any_append

theorem clean_append :
    hasErrors (ds ++ ds') = false ↔ hasErrors ds = false ∧ hasErrors ds' = false := by
  simp

@[simp] theorem hasErrors_flatMap {α : Type} {f : α → Diagnostics} {l : List α} :
    hasErrors (l.flatMap f) = l.any fun a => hasErrors (f a) := List.any_flatMap

@[simp] theorem hasErrors_invalid : hasErrors (invalid code span message) = true := rfl

@[simp] theorem hasErrors_reportIf {failed : Bool} :
    hasErrors (reportIf failed code span message) = failed := by
  cases failed <;> rfl

end Errors

end Voom
