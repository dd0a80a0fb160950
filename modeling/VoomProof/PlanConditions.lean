import VoomProof.PlanModel

/-!
# Conditions of a policy on a snapshot

The part of `planner.rs` in `voom-plan` that evaluates conditions, and `eligibility.rs`,
which refuses policies whose conditions the planner cannot evaluate. A condition that
needs a fact the snapshot does not have is unknown; `and` and `or` are decided without it
where they can be.
-/

namespace Voom.Planner
open RustText
open RemuxPlanner (videoStreamCount)

/-! ## Evaluation -/

inductive ConditionEval where
  | matched
  | notMatched
  | unknown
  deriving DecidableEq

namespace ConditionEval

def fromBool (value : Bool) : ConditionEval := if value then matched else notMatched

def negate : ConditionEval → ConditionEval
  | matched => notMatched
  | notMatched => matched
  | unknown => unknown

end ConditionEval

inductive SnapshotFieldValue where
  | string (value : String)
  | number (value : Nat)
  | boolean (value : Bool)
  deriving DecidableEq

inductive SnapshotField where
  | container
  | videoCodec
  | width
  | height
  | hdr
  | bitrate
  | durationMillis
  deriving DecidableEq

def canonicalFieldPath : List String → Option SnapshotField
  | ["container"] | ["media", "container"] | ["container", "name"] | ["container", "value"] =>
      some .container
  | ["video_codec"] | ["video", "codec"] => some .videoCodec
  | ["width"] | ["video", "width"] => some .width
  | ["height"] | ["video", "height"] => some .height
  | ["hdr"] | ["video", "hdr"] => some .hdr
  | ["bitrate"] | ["video", "bitrate"] => some .bitrate
  | ["duration_millis"] | ["video", "duration_millis"] | ["media", "duration_millis"] =>
      some .durationMillis
  | _ => none

def fieldOf (snapshot : MediaSnapshot) : SnapshotField → Option SnapshotFieldValue
  | .container => snapshot.container.map .string
  | .videoCodec => snapshot.videoCodec.map .string
  | .width => snapshot.width.map .number
  | .height => snapshot.height.map .number
  | .hdr => snapshot.hdr.map .string
  | .bitrate => snapshot.bitrate.map .number
  | .durationMillis => snapshot.durationMillis.map .number

def snapshotField (path : List String) (snapshot : MediaSnapshot) : Option SnapshotFieldValue :=
  (canonicalFieldPath path).bind (fieldOf snapshot)

/-- A number that does not fit in 64 bits has no value. -/
def conditionValue (snapshot : MediaSnapshot) : CompiledValue → Option SnapshotFieldValue
  | .string value => some (.string value)
  | .number value => (parseUnsigned 64 value.toList).map .number
  | .boolean value => some (.boolean value)
  | .fieldPath path => snapshotField path snapshot
  | .list _ => none

def compareNumbers (left : Nat) (op : ComparisonOp) (right : Nat) : ConditionEval :=
  match op with
  | .contains | .matches => .unknown
  | _ => .fromBool (compareU64 left op right)

/-- Values that can only be told apart. -/
def compareEquality (equal : Bool) : ComparisonOp → ConditionEval
  | .eq => .fromBool equal
  | .ne => .fromBool !equal
  | _ => .unknown

def compareStrings (left : String) (op : ComparisonOp) (right : String) : ConditionEval :=
  match op with
  | .contains => .fromBool (includes right.toList left.toList)
  | _ => compareEquality (left = right) op

def compareSnapshotValues (left : SnapshotFieldValue) (op : ComparisonOp)
    (right : SnapshotFieldValue) : ConditionEval :=
  match left, right with
  | .string left, .string right => compareStrings left op right
  | .number left, .number right => compareNumbers left op right
  | .boolean left, .boolean right => compareEquality (left = right) op
  | _, _ => compareEquality false op

def evaluateFieldComparison (path : List String) (op : ComparisonOp) (value : CompiledValue)
    (snapshot : MediaSnapshot) : ConditionEval :=
  match snapshotField path snapshot, conditionValue snapshot value with
  | some left, some right => compareSnapshotValues left op right
  | _, _ => .unknown

/-- Only audio and subtitle streams are counted. -/
def streamTargetCount (target : TrackTarget) (snapshot : MediaSnapshot) : Option Nat :=
  if target = .audio ∨ target = .subtitle then
    (streamFacts snapshot.toMediaSnapshotInput).toOption.map fun facts =>
      facts.countP (·.kind = target)
  else none

mutual

def evaluateCondition : CompiledCondition → MediaSnapshot → ConditionEval
  | .fieldComparison path op value, snapshot => evaluateFieldComparison path op value snapshot
  | .fieldExists path, snapshot => .fromBool (snapshotField path snapshot).isSome
  | .not inner, snapshot => (evaluateCondition inner snapshot).negate
  | .and conditions, snapshot => evaluateAll conditions snapshot false
  | .or conditions, snapshot => evaluateAny conditions snapshot false
  | .exists target none, snapshot =>
      match streamTargetCount target snapshot with
      | some count => .fromBool (0 < count)
      | none => .unknown
  | .count target op value, snapshot =>
      match streamTargetCount target snapshot with
      | some count => compareNumbers count op value
      | none => .unknown
  | .exists _ (some _), _ | .predicate _, _ => .unknown

/-- The first condition that does not match decides; `sawUnknown` says if one was unknown. -/
def evaluateAll : List CompiledCondition → MediaSnapshot → Bool → ConditionEval
  | [], _, sawUnknown => if sawUnknown then .unknown else .matched
  | condition :: rest, snapshot, sawUnknown =>
      match evaluateCondition condition snapshot with
      | .notMatched => .notMatched
      | .matched => evaluateAll rest snapshot sawUnknown
      | .unknown => evaluateAll rest snapshot true

def evaluateAny : List CompiledCondition → MediaSnapshot → Bool → ConditionEval
  | [], _, sawUnknown => if sawUnknown then .unknown else .notMatched
  | condition :: rest, snapshot, sawUnknown =>
      match evaluateCondition condition snapshot with
      | .matched => .matched
      | .notMatched => evaluateAny rest snapshot sawUnknown
      | .unknown => evaluateAny rest snapshot true

end

/-! ## Eligibility -/

def isPublishedTarget (target : TrackTarget) : Bool := target = .audio || target = .subtitle

def isNumericComparison (op : ComparisonOp) : Bool := op ≠ .contains && op ≠ .matches

def comparisonName : ComparisonOp → String
  | .eq => "eq"
  | .ne => "ne"
  | .lt => "lt"
  | .lte => "lte"
  | .gt => "gt"
  | .gte => "gte"
  | .contains => "contains"
  | .matches => "matches"

def unpublishedDiagnostic (path phaseName detail : String) : PlanningDiagnostic where
  severity := .error
  code := .invalidPlanningRequest
  message := s!"unpublished compiled stream condition at {path}: {detail}"
  phaseName := some phaseName

mutual

def visitCondition (phaseName path : String) : CompiledCondition → List PlanningDiagnostic
  | .exists target filter =>
      if isPublishedTarget target && filter.isNone then []
      else
        [unpublishedDiagnostic path phaseName ("exists target=" ++ trackTargetLabel target ++
          " filter=" ++ (if filter.isSome then "present" else "absent") ++ " placement=condition")]
  | .count target op value =>
      if isPublishedTarget target && isNumericComparison op then []
      else
        [unpublishedDiagnostic path phaseName ("count target=" ++ trackTargetLabel target ++
          " op=" ++ comparisonName op ++ " value=" ++ toString value ++ " placement=condition")]
  | .not inner => visitCondition phaseName (path ++ ".not") inner
  | .and conditions => visitConditions phaseName (path ++ ".and") 0 conditions
  | .or conditions => visitConditions phaseName (path ++ ".or") 0 conditions
  | .fieldComparison _ _ _ | .fieldExists _ | .predicate _ => []

def visitConditions (phaseName path : String) :
    Nat → List CompiledCondition → List PlanningDiagnostic
  | _, [] => []
  | index, condition :: rest =>
      visitCondition phaseName s!"{path}[{index}]" condition ++
        visitConditions phaseName path (index + 1) rest

end

mutual

def visitOperation (phaseName path : String) : CompiledOperation → List PlanningDiagnostic
  | .conditional condition operations =>
      visitCondition phaseName (path ++ ".condition") condition ++
        visitOperations phaseName (path ++ ".operations") 0 operations
  | .rules _ rules => visitRules phaseName path 0 rules
  | _ => []

def visitOperations (phaseName path : String) :
    Nat → List CompiledOperation → List PlanningDiagnostic
  | _, [] => []
  | index, operation :: rest =>
      visitOperation phaseName s!"{path}[{index}]" operation ++
        visitOperations phaseName path (index + 1) rest

def visitRules (phaseName path : String) :
    Nat → List (String × Option CompiledCondition × List CompiledOperation) →
      List PlanningDiagnostic
  | _, [] => []
  | index, (_, condition, operations) :: rest =>
      (match condition with
        | some condition => visitCondition phaseName s!"{path}.rules[{index}].condition" condition
        | none => []) ++
        visitOperations phaseName s!"{path}.rules[{index}].operations" 0 operations ++
        visitRules phaseName path (index + 1) rest

end

def visitPhase (index : Nat) (phase : CompiledPhase) : List PlanningDiagnostic :=
  let name := phase.name
  let path := s!"phase[{index}:\"{name}\"]"
  (match phase.skipIf with
    | some condition => visitCondition name (path ++ ".skip_if") condition
    | none => []) ++
    visitOperations name (path ++ ".operations") 0 phase.operations

def streamConditionEligibilityDiagnostics (phases : List CompiledPhase) : List PlanningDiagnostic :=
  (phases.zipIdx.map fun (phase, index) => visitPhase index phase).flatten

end Voom.Planner
