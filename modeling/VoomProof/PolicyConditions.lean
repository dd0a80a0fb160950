import VoomProof.CompiledPolicy
import VoomProof.PolicyText

/-!
# Conditions

A condition is read twice: `validate/conditions.rs` decides whether its text is one, and
`lower/conditions.rs` turns the text into a compiled condition. Each takes the text apart in its
own way.

Validation goes to shorter texts only. Lowering takes the word `not` off the front of the
text, which leaves the text as it is when another separator stands before the word: such a
call never returns, and its outcome here is `none` for any number of levels.
-/

namespace Voom

open RustText

/-- The diagnostics of validation. -/
abbrev Diagnostics := List PolicyDiagnostic

def invalid (code : DiagnosticCode) (span : SourceSpan) (message : String) : Diagnostics :=
  [{ severity := .error, code, stage := .validate, span, message }]

def reportIf (failed : Bool) (code : DiagnosticCode) (span : SourceSpan) (message : String) :
    Diagnostics :=
  if failed then invalid code span message else []

/-- The parts of a condition around a delimiter; a text with a filter is not split. -/
def splitBoolCondition (text delimiter : Text) : Option (List Text) :=
  if includes " where ".toList text then none else splitBoolExpression text delimiter

/-! ## Validation -/

namespace ConditionCheck

def isTrackTargetName (target : String) : Bool :=
  target ∈ ["video", "audio", "subtitle", "subtitles", "attachment", "attachments"]

def isPublishedStreamTarget (target : String) : Bool := target = "audio" || target = "subtitle"

def isNumericComparisonOp (token : String) : Bool := token ∈ ["==", "!=", "<", "<=", ">", ">="]

def isComparisonOp (token : String) : Bool :=
  token ∈ ["==", "=", "!=", "<", "<=", ">", ">=", "contains", "matches"]

def isAsciiU64 (value : String) : Bool :=
  value.toList ≠ [] && value.toList.all Char.isDigit && (parseUnsigned 64 value.toList).isSome

def isReferenceToken (token : String) : Bool := token.toList.head?.any Char.isAlpha

end ConditionCheck

open ConditionCheck

def validateTrackTarget (span : SourceSpan) (target : String) : Diagnostics :=
  reportIf (!isTrackTargetName target) .invalidTrackTarget span "invalid track target"

/-- A condition without connectives. -/
def isValidConditionLeaf (span : SourceSpan) (text : Text) : Bool × Diagnostics :=
  match words text with
  | "exists" :: target :: rest =>
      (rest = [] && isPublishedStreamTarget target, validateTrackTarget span target)
  | ["count", target, op, value] =>
      (isPublishedStreamTarget target && isNumericComparisonOp op && isAsciiU64 value,
        validateTrackTarget span target)
  | tokens =>
      match tokens.findIdx? isComparisonOp with
      | some index =>
          (0 < index && tokens[index + 1]?.isSome &&
            tokens.head?.any (fun path => '.' ∈ path.toList)
            && (comparisonRhs text (tokens.getD index "").toList).any isSingleValue, [])
      | none =>
          (tokens.length = 1 &&
            tokens.head?.any (fun token => '.' ∈ token.toList || isReferenceToken token), [])

/-- Each part in turn, up to the first that fails. -/
def allValid (check : Text → Bool × Diagnostics) : List Text → Bool × Diagnostics
  | [] => (true, [])
  | part :: rest =>
      if (check part).1 then ((allValid check rest).1, (check part).2 ++ (allValid check rest).2)
      else (false, (check part).2)

def isValidConditionAt (span : SourceSpan) : Nat → Text → Bool × Diagnostics
  | 0, _ => (false, [])
  | levels + 1, text =>
      let text := stripOuterGroup (trim text)
      if trim text = [] then (false, [])
      else
        match splitBoolCondition text " or ".toList with
        | some parts => allValid (isValidConditionAt span levels) parts
        | none =>
            match splitBoolCondition text " and ".toList with
            | some parts => allValid (isValidConditionAt span levels) parts
            | none =>
                match stripPrefix "not ".toList (trim text) with
                | some inner => isValidConditionAt span levels (trim inner)
                | none => isValidConditionLeaf span text

/-- Every level takes at least one character off the text. -/
def isValidConditionExpression (span : SourceSpan) (text : Text) : Bool × Diagnostics :=
  isValidConditionAt span (text.length + 1) text

/-! ### Field paths -/

/-- The text with every quoted character, and the quotes, replaced by a blank. -/
def withoutQuotedText : QuoteState → Text → Text
  | _, [] => []
  | s, c :: rest =>
      let keep := !s.escaped && !s.inString && c ≠ '"'
      (if keep then c else ' ') :: withoutQuotedText (s.next c) rest

def fieldPathTokens (text : Text) : List Text :=
  let separates := fun c : Char => isAsciiWhitespace c || c ∈ "\"'[]()\x7b\x7d".toList
  (((withoutQuotedText {} text).splitOnP separates).map
    (trimMatches fun c => c = ',' || c = ':')).filter ('.' ∈ ·)

/-- The fields of a core root; none of a root that is not one. -/
def coreFields : String → List String
  | "video" =>
      ["codec", "title", "width", "height", "hdr", "bitrate", "duration", "duration_millis",
        "health_flags"]
  | "audio" =>
      ["codec", "lang", "language", "languages", "channels", "commentary", "forced", "default",
        "title"]
  | "subtitle" | "subtitles" =>
      ["lang", "language", "languages", "forced", "default", "title", "disposition"]
  | "attachment" | "attachments" => ["font", "title", "disposition"]
  | "container" => ["name", "value"]
  | "media" => ["container", "duration_millis"]
  | "identity" =>
      ["title", "assertion_type", "provider", "provider_version", "confidence", "provenance",
        "observed_at"]
  | "quality" => ["profile_name", "profile_version", "dimension_weights"]
  | "issue" => ["kind", "severity", "priority", "state", "reason"]
  | "bundle" =>
      ["role", "desired_state", "language", "label", "disposition", "artifact_expectation"]
  | _ => []

def validateFieldPath (span : SourceSpan) (token : Text) : Diagnostics :=
  match splitOnce ['.'] token with
  | none => []
  | some (root, rest) =>
      let root := String.ofList root
      if root = "plugin" ∨ root = "external" then
        if rest = [] then []
        else [{ severity := .warning, code := .unknownExtensionNamespace, stage := .validate, span,
                message := "extension namespace is not registered in Sprint 4" }]
      else if coreFields root = [] then
        invalid .invalidCoreFieldPath span "unknown core field path root"
      else
        reportIf (String.ofList rest ∉ coreFields root) .invalidCoreFieldPath span
          "unknown core field path"

def validateFieldPaths (span : SourceSpan) (text : Text) : Diagnostics :=
  (fieldPathTokens text).flatMap (validateFieldPath span)

def validateConditionExpression (span : SourceSpan) (text : Text) : Diagnostics :=
  let (valid, diagnostics) := isValidConditionExpression span text
  validateFieldPaths span text ++ diagnostics ++
    reportIf (!valid) .unknownPhaseStatementOrOperation span "invalid condition expression"

/-! ## Lowering -/

def comparisonOp : String → Option ComparisonOp
  | "==" | "=" => some .eq
  | "!=" => some .ne
  | "<" => some .lt
  | "<=" => some .lte
  | ">" => some .gt
  | ">=" => some .gte
  | "contains" => some .contains
  | "matches" => some .«matches»
  | _ => none

def trackTarget : Option String → Option TrackTarget
  | some "video" => some .video
  | some "audio" => some .audio
  | some "subtitle" | some "subtitles" => some .subtitle
  | some "attachment" | some "attachments" => some .attachment
  | _ => none

def fieldPathSegments (path : Text) : List String :=
  ((path.splitOnP (· = '.')).filter (· ≠ [])).map String.ofList

def stripQuotes (value : Text) : String := String.ofList (trimMatches (· = '"') value)

def compiledValue (text : Text) : CompiledValue :=
  let text := trim text
  if text.head? = some '"' ∧ text.getLast? = some '"' then .string (stripQuotes text)
  else if text = "true".toList then .boolean true
  else if text = "false".toList then .boolean false
  else if '.' ∈ text then .fieldPath (fieldPathSegments text)
  else if text ≠ [] ∧ text.all Char.isDigit then .number (String.ofList text)
  else .string (stripQuotes text)

/-- A condition that begins with none of `not`, `or` and `and`. -/
def conditionLeaf (text : Text) : CompiledCondition :=
  let tokens := words text
  if tokens.head? = some "exists" then .exists ((trackTarget tokens[1]?).getD .audio) none
  else if tokens.head? = some "count" then
    .count ((trackTarget tokens[1]?).getD .audio)
      ((tokens[2]?.bind comparisonOp).getD .eq)
      ((tokens[3]?.bind fun value => parseUnsigned 64 value.toList).getD 0)
  else
    match tokens.findIdx? fun token => (comparisonOp token).isSome with
    | some index =>
        let op := tokens.getD index ""
        .fieldComparison (fieldPathSegments (tokens.headD "").toList) ((comparisonOp op).getD .eq)
          (compiledValue ((comparisonRhs text op.toList).getD (tokens.getD (index + 1) "").toList))
    | none =>
        match tokens.head? with
        | some path =>
            if '.' ∈ path.toList then .fieldExists (fieldPathSegments path.toList)
            else .predicate (String.ofList text)
        | none => .predicate (String.ofList text)

def conditionFromTextAt : Nat → Text → Option CompiledCondition
  | 0, _ => none
  | levels + 1, text =>
      let text := stripOuterGroup (trim text)
      match splitBoolCondition text " or ".toList with
      | some parts => (parts.mapM (conditionFromTextAt levels)).map .or
      | none =>
          match splitBoolCondition text " and ".toList with
          | some parts => (parts.mapM (conditionFromTextAt levels)).map .and
          | none =>
              if (words text).head? = some "not" then
                (conditionFromTextAt levels (trim (trimStartMatches "not".toList text))).map .not
              else some (conditionLeaf text)

/-- `none` where the source never returns. -/
def conditionFromText (text : Text) : Option CompiledCondition :=
  conditionFromTextAt (text.length + 1) text

end Voom
