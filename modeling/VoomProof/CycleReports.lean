import VoomProof.PolicyValidation

/-!
# Which check reports a cycle

Validation hands out its diagnostics as one list. None of its checks but the search for
cycles reports a `DependencyCycle`, so the list has one exactly when that search does.
-/

namespace Voom
open List

open RustText

/-! ## Lists without a code -/

def Lacks (code : DiagnosticCode) (diagnostics : Diagnostics) : Prop :=
  ∀ d ∈ diagnostics, d.code ≠ code

section Lists
variable {code code' : DiagnosticCode} {ds ds' : Diagnostics} {span : SourceSpan} {message : String}

@[simp] theorem lacks_nil : Lacks code [] := fun _ h => (nomatch h)

@[simp] theorem lacks_cons {d : PolicyDiagnostic} :
    Lacks code (d :: ds) ↔ d.code ≠ code ∧ Lacks code ds := forall_mem_cons

@[simp] theorem lacks_append : Lacks code (ds ++ ds') ↔ Lacks code ds ∧ Lacks code ds' :=
  forall_mem_append

@[simp] theorem lacks_flatMap {α : Type} {f : α → Diagnostics} {l : List α} :
    Lacks code (l.flatMap f) ↔ ∀ a ∈ l, Lacks code (f a) := forall_mem_flatMap

@[simp] theorem lacks_ite {p : Prop} [Decidable p] :
    Lacks code (if p then ds else ds') ↔ (p → Lacks code ds) ∧ (¬ p → Lacks code ds') := by
  split <;> simp [*]

@[simp] theorem lacks_invalid : Lacks code (invalid code' span message) ↔ code' ≠ code := by
  simp [invalid]

@[simp] theorem lacks_reportIf {failed : Bool} :
    Lacks code (reportIf failed code' span message) ↔ (failed → code' ≠ code) := by
  cases failed <;> simp [reportIf]

end Lists

/-! ## Conditions and operations -/

/-- No cycle is reported. -/
abbrev NoCycle (diagnostics : Diagnostics) : Prop := Lacks .dependencyCycle diagnostics

section Operations
variable (span : SourceSpan) (text : Text) (settings : List SettingAst)
  (statement : StatementAst) (effects : TagEffects)

theorem allValid_lacks {check : Text → Bool × Diagnostics}
    (h : ∀ part, NoCycle (check part).2) (parts : List Text) :
    NoCycle (allValid check parts).2 := by
  induction parts with
  | nil => simp [allValid]
  | cons part _ ih =>
    rw [allValid]
    split
    · exact lacks_append.mpr ⟨h part, ih⟩
    · exact h part

theorem isValidConditionAt_lacks (levels : Nat) :
    NoCycle (isValidConditionAt span levels text).2 := by
  induction levels generalizing text with
  | zero => simp [isValidConditionAt]
  | succ _ ih =>
    simp only [isValidConditionAt, isValidConditionLeaf, validateTrackTarget]
    repeat' split
    all_goals simp [ih, allValid_lacks]

@[simp] theorem validateFieldPaths_lacks : NoCycle (validateFieldPaths span text) := by
  simp only [validateFieldPaths, lacks_flatMap, validateFieldPath]
  intro _ _
  split <;> simp

@[simp] theorem validateConditionExpression_lacks :
    NoCycle (validateConditionExpression span text) := by
  simp [validateConditionExpression, isValidConditionExpression, isValidConditionAt_lacks]

@[simp] theorem validateFilter_lacks : NoCycle (validateFilter span text) := by
  unfold validateFilter
  split <;> simp

@[simp] theorem validateOptionalTrackFilter_lacks (whereIndex : Nat) :
    NoCycle (validateOptionalTrackFilter span text whereIndex) := by
  simp only [validateOptionalTrackFilter, validateWhereFilter]
  repeat' split
  all_goals simp

@[simp] theorem inlineExprAsString_lacks (key : String) (expr : ExprAst) :
    NoCycle (inlineExprAsString span key expr).2 := by
  cases expr <;> simp [inlineExprAsString, invalidSetting]

@[simp] theorem inlineOptionalStr_lacks (key : String) :
    NoCycle (inlineOptionalStr span settings key).2 := by
  unfold inlineOptionalStr
  split <;> simp

theorem validateInlineSettingKeys_lacks (seen : List String) :
    NoCycle (validateInlineSettingKeys span settings seen) := by
  induction settings generalizing seen with
  | nil => simp [validateInlineSettingKeys]
  | cons _ _ ih => simp [validateInlineSettingKeys, invalidSetting, ih]

@[simp] theorem validateInlineDecode_lacks (descriptor : EncoderDescriptor) (decode : String) :
    NoCycle (validateInlineDecode span descriptor decode) := by
  simp only [validateInlineDecode, invalidSetting]
  repeat' split
  all_goals simp

/-- What is checked once the encoder is known. -/
theorem validateInlineEncoder_lacks (descriptor : EncoderDescriptor) :
    NoCycle (validateInlineQuality span descriptor settings ++
      validateInlinePreset span descriptor settings ++
      validateInlineOptionals span descriptor settings) := by
  simp only [validateInlineQuality, validateInlinePreset, validateInlineOptionals,
    validateInlineChoice, validateInlinePixelFormat, validateInlineContainerAndDimensions,
    validateInlineDimension, lacks_append, inlineOptionalStr_lacks, true_and, invalidSetting]
  cases (inlineOptionalStr span settings "decode").1
  all_goals
    repeat' first | apply And.intro | split
    all_goals simp

theorem validateInlineVideoProfile_lacks (codec : String) :
    NoCycle (validateInlineVideoProfile span codec settings) := by
  simp only [validateInlineVideoProfile, lacks_ite, validateInlineSettingKeys_lacks, invalidSetting]
  refine ⟨fun _ => trivial, fun _ => ?_⟩
  split
  · simp
  rename_i expr _
  have hexpr := inlineExprAsString_lacks span "encoder" expr
  split
  · rename_i heq
    rwa [heq] at hexpr
  split
  · simp
  · rw [append_assoc, append_assoc, ← append_assoc (validateInlineQuality ..)]
    exact lacks_append.mpr ⟨by simp, validateInlineEncoder_lacks span settings _⟩

theorem validateTranscodeStatement_lacks :
    NoCycle (validateTranscodeStatement statement) := by
  simp only [validateTranscodeStatement, validateTranscodeHeader, validateTranscodeVideoHeader,
    invalidTargetCodec]
  repeat' split
  all_goals simp [validateInlineVideoProfile_lacks]

theorem validateSynthesizeKeys_lacks (seen : List String) :
    NoCycle (validateSynthesizeKeys span settings seen) := by
  induction settings generalizing seen with
  | nil => simp [validateSynthesizeKeys]
  | cons _ _ ih => simp [validateSynthesizeKeys, ih]

theorem validateSynthesizeStatement_lacks :
    NoCycle (validateSynthesizeStatement statement) := by
  simp only [validateSynthesizeStatement, validateSynthesizeHeader, validateSynthesizeCodec,
    validateSynthesizeChannels]
  repeat' split
  all_goals simp [validateSynthesizeKeys_lacks]

@[simp] theorem validateLeafOr_lacks (message : String) :
    NoCycle (validateLeafOr message statement effects).1 := by
  simp only [validateLeafOr, validateLeaf, validateTrackOperation, validateOrder, validateDefaults,
    validateSetTag, validateDeleteTag, validateExtractStatement, validateVerifyStatement,
    validateContainer, validateActions, validateClearTags, recordClearTags,
    validateAudioCompatibilityStatement, validateWhereFilter]
  repeat' split
  all_goals
    simp [validateTrackTarget, validateTranscodeStatement_lacks, validateSynthesizeStatement_lacks]

mutual

theorem validateNestedOperation_lacks : ∀ (statement : StatementAst) (effects : TagEffects),
    NoCycle (validateNestedOperation statement effects).1
  | .block keyword name statements span, effects => by
    rw [validateNestedOperation]
    split
    · simp [validateNestedOperations_lacks statements effects]
    · simp
  | .raw _ _ _, effects | .transcodeInline _ _ _ _, effects
  | .synthesizeInline _ _ _ _, effects => by
    rw [validateNestedOperation]
    split <;> simp
    nofun

theorem validateNestedOperations_lacks : ∀ (statements : List StatementAst) (effects : TagEffects),
    NoCycle (validateNestedOperations statements effects).1
  | [], effects => by simp [validateNestedOperations]
  | statement :: rest, effects => by
    exact lacks_append.mpr
      ⟨validateNestedOperation_lacks statement effects, validateNestedOperations_lacks rest _⟩

end

theorem validateRule_lacks : NoCycle (validateRule statement effects).1 := by
  unfold validateRule
  split
  · simp
  split
  · split
    · simp
    · simp [validateNestedOperations_lacks]
  · simp

theorem validateRuleList_lacks (rules : List StatementAst) :
    NoCycle (validateRuleList rules effects).1 := by
  induction rules generalizing effects with
  | nil => simp [validateRuleList]
  | cons rule _ ih => exact lacks_append.mpr ⟨validateRule_lacks rule effects, ih _⟩

theorem validateOperation_lacks : NoCycle (validateOperation statement effects).1 := by
  unfold validateOperation
  split
  · exact validateNestedOperation_lacks statement effects
  · unfold validateRules
    split <;> simp [validateRuleList_lacks]
  · simp
  · simp

theorem validateOperations_lacks (operations : List StatementAst) :
    NoCycle (validateOperations operations effects).1 := by
  induction operations generalizing effects with
  | nil => simp [validateOperations]
  | cons _ _ ih => simp [validateOperations, checkNumericLiterals, validateOperation_lacks, ih]

end Operations

/-! ## The policy -/

theorem validatePhase_lacks (source : Text) (phase : PhaseAst) :
    NoCycle (validatePhase source phase) := by
  have hctl : ∀ control, NoCycle (validateControl source control) := by
    intro _
    refine lacks_append.mpr ⟨by simp [checkNumericLiterals], ?_⟩
    repeat' split
    all_goals simp [validateOnError]
  simp [validatePhase, hctl, validateOperations_lacks, validateTagConflicts]

theorem validateConfig_lacks (source : Text) (before settings : List SettingAst) :
    NoCycle (validateConfig source before settings) := by
  induction settings generalizing before with
  | nil => simp [validateConfig]
  | cons _ _ ih =>
    refine lacks_append.mpr ⟨?_, ih _⟩
    have hlanguage : ∀ expr, NoCycle (validateConfigLanguage expr) := by
      intro expr
      cases expr <;> simp [validateConfigLanguage]
    simp only [validateConfigSetting, validateConfigLanguages, validateConfigOnError]
    repeat' split
    all_goals simp [hlanguage]

theorem validateMetadata_lacks (metadata : List SettingAst) :
    NoCycle (validateMetadata metadata) := by
  unfold validateMetadata
  split
  · simp
  refine lacks_append.mpr ⟨?_, fun d hd => ?_⟩
  · unfold validateRequiredToolsValue
    split
    · refine lacks_flatMap.mpr fun _ _ => ?_
      unfold validateRequiredTool
      split <;> simp
    · simp
  · obtain ⟨_, -, rfl⟩ := mem_map.mp hd
    simp

theorem validatePhaseNames_lacks (before phases : List PhaseAst) :
    NoCycle (validatePhaseNames before phases) := by
  induction phases generalizing before with
  | nil => simp [validatePhaseNames]
  | cons _ _ ih =>
    refine lacks_append.mpr ⟨?_, ih _⟩
    split <;> simp

theorem validateReferences_lacks (ast : PolicyAst) (phase : PhaseAst) (control : StatementAst) :
    NoCycle (validateReferences ast phase control) := by
  simp only [validateReferences, validateDependsOn, validateRunIf, validatePhaseReference]
  repeat' split
  all_goals simp

theorem lacks_cycle_iff (source : Text) (ast : PolicyAst) : NoCycle (validatePolicyAst source ast) ↔
      NoCycle (validateCycles ast) := by
  have hext : NoCycle (validateExtends ast.extends) := by
    unfold validateExtends
    split <;> simp
  simp only [validatePolicyAst, validatePhaseDependencies, lacks_append, lacks_flatMap,
    hext, validateConfig_lacks, validateMetadata_lacks,
    validatePhaseNames_lacks, validateReferences_lacks, validatePhase_lacks]
  simp

/-- Only the search for cycles reports one. -/
theorem reports_cycle_iff (source : Text) (ast : PolicyAst) :
    (∃ d ∈ validatePolicyAst source ast, d.code = .dependencyCycle) ↔
      ∃ phase ∈ ast.phases, ast.hasCycle phase = true := by
  have hlacks : (∃ d ∈ validatePolicyAst source ast, d.code = .dependencyCycle) ↔
      ¬ NoCycle (validateCycles ast) := by
    rw [← lacks_cycle_iff source, NoCycle, Lacks]
    push Not
    rfl
  rw [hlacks, validateCycles]
  rcases hfind : ast.phases.find? ast.hasCycle with _ | phase
  · have hnone := find?_eq_none.mp hfind
    simpa using hnone
  · simp only [lacks_invalid, ne_eq, not_true_eq_false, not_false_eq_true, true_iff]
    exact ⟨phase, mem_of_find?_eq_some hfind, find?_some hfind⟩

end Voom
