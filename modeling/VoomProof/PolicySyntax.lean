import VoomProof.RustText

/-!
# The syntax tree of a policy

The types of `syntax/ast.rs` and `diagnostic.rs` in `voom-policy`. A span counts
characters of the source, from its start.
-/

namespace Voom

open RustText

structure SourceSpan where
  start : Nat
  stop : Nat
  deriving DecidableEq

structure Spanned (α : Type) where
  value : α
  span : SourceSpan
  deriving DecidableEq

inductive ExprAst where
  | string (value : Spanned String)
  | identifier (value : Spanned String)
  | number (value : Spanned String)
  | boolean (value : Spanned Bool)
  | list (values : List ExprAst) (span : SourceSpan)
  | fieldPath (value : Spanned String)

structure SettingAst where
  key : Spanned String
  value : ExprAst

/-- The bodies of `transcode` and `synthesize` are settings, those of every other statement
are statements. -/
inductive StatementAst where
  | raw (keyword : Spanned String) (text : Text) (span : SourceSpan)
  | block (keyword : Spanned String) (name : Option (Spanned Text))
      (statements : List StatementAst) (span : SourceSpan)
  | transcodeInline (keyword : Spanned String) (header : Text) (settings : List SettingAst)
      (span : SourceSpan)
  | synthesizeInline (keyword : Spanned String) (header : Text) (settings : List SettingAst)
      (span : SourceSpan)

namespace StatementAst

def keyword : StatementAst → Spanned String
  | raw keyword _ _ | block keyword _ _ _ | transcodeInline keyword _ _ _
  | synthesizeInline keyword _ _ _ => keyword

def span : StatementAst → SourceSpan
  | raw _ _ span | block _ _ _ span | transcodeInline _ _ _ span
  | synthesizeInline _ _ _ span => span

end StatementAst

structure PhaseAst where
  name : Spanned String
  controls : List StatementAst
  operations : List StatementAst

structure PolicyAst where
  name : Spanned String
  «extends» : Option (Spanned String)
  metadata : List SettingAst
  config : List SettingAst
  phases : List PhaseAst
  unknownTopLevel : List StatementAst

/-! ## Diagnostics -/

inductive DiagnosticCode where
  | unexpectedToken
  | sourceSizeExceeded
  | nestingDepthExceeded
  | numericLiteralOutOfRange
  | unknownTopLevelBlock
  | unknownPhaseStatementOrOperation
  | deferredPhaseInheritance
  | duplicatePhaseName
  | unknownPhaseReference
  | selfDependency
  | dependencyCycle
  | invalidRunIfTrigger
  | invalidOnErrorValue
  | duplicateConfigSetting
  | unsupportedContainer
  | invalidTrackTarget
  | invalidDefaultStrategy
  | invalidLanguageCode
  | invalidCoreFieldPath
  | invalidRuleMatchMode
  | unknownExtensionNamespace
  | invalidMetadataRequiresTools
  | tagOrderingError
  | ambiguousTagOperationConflict
  | deferredComposition
  | unsupportedTranscodeShape
  | invalidVideoProfileSetting
  deriving DecidableEq

inductive DiagnosticSeverity where
  | error
  | warning
  deriving DecidableEq

inductive DiagnosticStage where
  | parse
  | validate
  | compile
  deriving DecidableEq

structure PolicyDiagnostic where
  severity : DiagnosticSeverity
  code : DiagnosticCode
  stage : DiagnosticStage
  span : SourceSpan
  message : String
  related : List (SourceSpan × String) := []
  deriving DecidableEq

end Voom
