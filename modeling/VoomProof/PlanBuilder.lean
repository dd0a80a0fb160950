import VoomProof.AudioCompatibility
import VoomProof.PlanConditions
import VoomProof.PolicyLowering
import VoomProof.VideoPlanner

/-!
# The plan of a policy

`planner.rs` of `voom-plan`: the phases are expanded in order, each on every snapshot. The
operations that hold on a snapshot are taken out of their conditions and rules; those of a
remux are gathered into one node, in the place of the first of them, and every other
operation gives a node of its own. The plan has an edge from every node of a phase to
every node of a phase that depends on it, and counts its nodes.

The nodes made are kept in a builder; a node takes its ordinal, and the ids of what it will
produce, from their number. Left out are the identities of the policy and of the input, the ids
made from them, and the warnings copied from the policy.
-/

namespace Voom.Planner
open Fallible RustText StableOrder
open RemuxPlanner (NodeStatus)

/-! ## Requests and plans -/

structure PolicyInputSetDraft where
  mediaSnapshots : List MediaSnapshot
  /-- What else is in the set makes it an empty scan. -/
  emptyScan : Bool

structure PlanningRequest where
  policy : CompiledPolicy
  /-- The profile that has been filled into a transcode of video. -/
  resolvedProfile : String → String → VideoProfileRef → Option TranscodeVideoProfile
  input : PolicyInputSetDraft

structure PlanNode where
  nodeId : String
  phaseName : String
  ordinal : Nat
  target : TargetRef
  operationKind : PlanOperationKind
  operationPayload : OperationPayload
  observedState : Option Json
  status : NodeStatus
  statusReason : String
  capability : Option String
  resourceNotes : List String

structure Edge where
  edgeId : String
  fromNodeId : String
  toNodeId : String
  deriving DecidableEq

structure PlanSummary where
  totalNodeCount : Nat
  executableNodeCount : Nat := 0
  noOpNodeCount : Nat := 0
  blockedNodeCount : Nat := 0
  targetCount : Nat := 0
  /-- Each kind that occurs, with how often it does. -/
  operationCountsByKind : List (PlanOperationKind × Nat) := []
  deriving DecidableEq

structure ExecutionPlan where
  summary : PlanSummary
  nodes : List PlanNode
  edges : List Edge
  diagnostics : List PlanningDiagnostic

/-- A count as 32 bits hold it. -/
def checkedOrdinal (value : Nat) : Nat := min value (1 <<< 32 - 1)

section Ids
variable (lib : Library)

def nodeId (phaseName : String) (ordinal : Nat) (kind : PlanOperationKind) (targetKey : String) :
    String :=
  lib.stableId "node"
    (phaseName ++ "\n" ++ toString ordinal ++ "\n" ++ kind.asStr ++ "\n" ++ targetKey)

def edgeId (fromNodeId toNodeId : String) : String :=
  lib.stableId "edge" (fromNodeId ++ "\n" ++ toNodeId ++ "\nphase_depends_on")

def nextOperationId (nodeCount : Nat) (phaseName : String) (snapshot : MediaSnapshot)
    (kind : PlanOperationKind) : String :=
  nodeId lib phaseName (checkedOrdinal nodeCount) kind (targetKey snapshot.target)

def makeNode (phaseName : String) (ordinal : Nat) (snapshot : MediaSnapshot)
    (plan : OperationPlan) : PlanNode where
  nodeId := nodeId lib phaseName ordinal plan.operationKind (targetKey snapshot.target)
  phaseName
  ordinal
  target := snapshot.target
  operationKind := plan.operationKind
  operationPayload := plan.operationPayload
  observedState := plan.observedState
  status := plan.status
  statusReason := plan.statusReason
  capability := plan.capability
  resourceNotes := plan.resourceNotes

end Ids

/-! ## The plan of one operation -/

/-- A remux planned for a snapshot, as any other operation. -/
def remuxDiagnosticCode : RemuxPlanner.PlanningDiagnosticCode → PlanningDiagnosticCode
  | .insufficientSnapshotFacts => .insufficientSnapshotFacts
  | .unsupportedMediaShape => .unsupportedMediaShape
  | .emptyTrackFilterSelection => .emptyTrackFilterSelection
  | .ambiguousTrackFilterSelection => .ambiguousTrackFilterSelection
  | .untaggedTrackLanguageDefaulted => .untaggedTrackLanguageDefaulted

section Plans
variable (phaseName : String) (snapshot : MediaSnapshot)

def planGroup (operations : List CompiledOperation) (preferredLanguages : List String) :
    OperationPlan :=
  let plan := RemuxPlanner.planGroup phaseName snapshot.toMediaSnapshotInput operations
    preferredLanguages
  { operationKind := .remux
    operationPayload := .remux plan.operationPayload
    observedState := observedObject (observedContainer snapshot)
    status := plan.status
    statusReason := plan.statusReason
    capability := plan.capability
    diagnostics := plan.diagnostics.map fun d =>
      operationDiagnostic d.severity (remuxDiagnosticCode d.code) d.message phaseName snapshot
        .remux }

def planSetContainer (container : String) : OperationPlan :=
  let (status, statusReason, capability) : NodeStatus × String × Option String :=
    match snapshot.container with
    | none => (.blocked, "snapshot container is unknown", none)
    | some current =>
        if current = container then (.noOp, s!"container is already {container}", none)
        else (.planned, s!"container {current} will be changed to {container}",
          some "remux_container")
  { operationKind := .setContainer
    operationPayload := .container container
    observedState := observedObject (observedContainer snapshot)
    status
    statusReason
    capability
    diagnostics := if snapshot.container.isNone then
      [operationDiagnostic .error .insufficientSnapshotFacts statusReason phaseName snapshot
        .setContainer]
      else [] }

def planVerifyArtifact : OperationPlan where
  operationKind := .verifyArtifact
  operationPayload := .verifyArtifact snapshot.existingMediaSnapshotId
  observedState := none
  status := .planned
  statusReason := "artifact will be verified against its expected facts"
  capability := some "verify_artifact"

/-- An operation that is not planned. -/
def planBlocked (operation : CompiledOperation) (code : PlanningDiagnosticCode)
    (message : String) : OperationPlan where
  operationKind := operationKind operation
  operationPayload := .operation operation
  observedState := none
  status := .blocked
  statusReason := message
  capability := none
  diagnostics :=
    [operationDiagnostic .error code message phaseName snapshot (operationKind operation)]

def planBlockedInsufficient (operation : CompiledOperation) : OperationPlan :=
  planBlocked phaseName snapshot operation .insufficientSnapshotFacts
    "snapshot facts are insufficient to evaluate condition"

def planBlockedCandidate (operation : CompiledOperation) (message : String) : OperationPlan :=
  planBlocked phaseName snapshot operation .unsupportedMediaShape message

/-- An operation alone, when `nodeCount` nodes have been made; the error ends the planning. -/
def planOperation (lib : Library) (request : PlanningRequest) (nodeCount : Nat)
    (operation : CompiledOperation) : Except PlanningDiagnostic OperationPlan :=
  let operationId := nextOperationId lib nodeCount phaseName snapshot
  match operation with
  | .setContainer container => .ok (planSetContainer phaseName snapshot container)
  | .transcodeVideo targetCodec container profile => do
      let resolved ← find (request.resolvedProfile targetCodec container profile)
        (operationDiagnostic .error .invalidPlanningRequest
          "transcode_video profile was not resolved before planning" phaseName snapshot
          .transcodeVideo)
      return planVideo lib snapshot resolved phaseName container
  | .ensureAudioCompatibility =>
      .ok (planEnsureCompatibility phaseName snapshot lib (operationId .transcodeAudio))
  | .placeAudioCompatibility => .ok (planPlaceCompatibility phaseName snapshot)
  | .transcodeAudio targetCodec container filter =>
      .ok (planTranscode phaseName snapshot targetCodec container filter)
  | .extractAudio targetCodec container filter =>
      .ok (planExtract lib phaseName snapshot targetCodec container filter
        (operationId .extractAudio))
  | .synthesizeAudio targetCodec container targetChannels filter =>
      .ok (planSynthesize lib phaseName snapshot targetCodec container filter targetChannels
        (operationId .transcodeAudio))
  | .verifyArtifact => .ok (planVerifyArtifact snapshot)
  | .keepTracks _ _ | .removeTracks _ _ | .reorderTracks _ _ | .setDefaults _ _ _
  | .clearTrackActions _ | .clearTags | .setTag _ _ | .deleteTag _ | .conditional _ _
  | .rules _ _ =>
      .ok (planBlocked phaseName snapshot operation .unsupportedOperation
        "operation is not supported by the planner")

end Plans

/-! ## The operations that hold on a snapshot -/

inductive SnapshotOperation where
  | operation (operation : CompiledOperation)
  | blockedInsufficient (operation : CompiledOperation)

mutual

def snapshotOperation (snapshot : MediaSnapshot) : CompiledOperation → List SnapshotOperation
  | .conditional condition operations =>
      match evaluateCondition condition snapshot with
      | .matched => snapshotOperations snapshot operations
      | .notMatched => []
      | .unknown => operations.map .blockedInsufficient
  | .rules .first rules => firstRuleOperations snapshot rules
  | .rules .all rules => allRuleOperations snapshot rules
  | operation => [.operation operation]

def snapshotOperations (snapshot : MediaSnapshot) :
    List CompiledOperation → List SnapshotOperation
  | [] => []
  | operation :: rest => snapshotOperation snapshot operation ++ snapshotOperations snapshot rest

/-- The first rule that does not fail to match decides. -/
def firstRuleOperations (snapshot : MediaSnapshot) :
    List (String × Option CompiledCondition × List CompiledOperation) → List SnapshotOperation
  | [] => []
  | (_, condition, operations) :: rest =>
      match condition.elim .matched (evaluateCondition · snapshot) with
      | .matched => snapshotOperations snapshot operations
      | .notMatched => firstRuleOperations snapshot rest
      | .unknown => operations.map .blockedInsufficient

def allRuleOperations (snapshot : MediaSnapshot) :
    List (String × Option CompiledCondition × List CompiledOperation) → List SnapshotOperation
  | [] => []
  | (_, condition, operations) :: rest =>
      (match condition.elim .matched (evaluateCondition · snapshot) with
        | .matched => snapshotOperations snapshot operations
        | .notMatched => []
        | .unknown => operations.map .blockedInsufficient) ++ allRuleOperations snapshot rest

end

/-! ## Gathering a remux -/

inductive CandidateSupport where
  | supported
  | unsupported (message : String)
  deriving DecidableEq

mutual

def filterHasUnsupportedShape : TrackFilter → Bool
  | .titleMatches _ => true
  | .not inner => filterHasUnsupportedShape inner
  | .and filters | .or filters => anyHasUnsupportedShape filters
  | _ => false

def anyHasUnsupportedShape : List TrackFilter → Bool
  | [] => false
  | filter :: rest => filterHasUnsupportedShape filter || anyHasUnsupportedShape rest

end

def trackCandidateSupport (target : TrackTarget) (filter : Option TrackFilter) : CandidateSupport :=
  if target = .video then
    .unsupported "video track selection is not supported by remux planning"
  else if filter.any filterHasUnsupportedShape then
    .unsupported "track filter is not supported by remux planning"
  else .supported

/-- What a remux can do; none for an operation that is no part of one. -/
def candidateSupport : CompiledOperation → Option CandidateSupport
  | .setContainer container =>
      some (if eqIgnoreAsciiCase container "mkv" then .supported
        else .unsupported "only mkv remux containers are supported")
  | .keepTracks target filter | .removeTracks target filter =>
      some (trackCandidateSupport target filter)
  | .reorderTracks targets _ =>
      some (if targets.Nodup then .supported
        else .unsupported "track order contains duplicate target groups")
  | .setDefaults _ _ _ => some .supported
  | _ => none

inductive PhaseItem where
  | operation (operation : CompiledOperation)
  | blockedInsufficient (operation : CompiledOperation)
  | blockedUnsupportedRemux (operation : CompiledOperation) (message : String)
  | remuxGroup (operations : List CompiledOperation)

/-- The item an operation gives by itself; the supported ones of a remux give none. -/
def phaseItem : SnapshotOperation → Option PhaseItem
  | .blockedInsufficient operation => some (.blockedInsufficient operation)
  | .operation operation =>
      match candidateSupport operation with
      | none => some (.operation operation)
      | some (.unsupported message) => some (.blockedUnsupportedRemux operation message)
      | some .supported => none

/-- An operation that goes into the group. -/
def remuxOperation : SnapshotOperation → Option CompiledOperation
  | .blockedInsufficient _ => none
  | .operation operation =>
      if candidateSupport operation = some .supported then some operation else none

/-- The items of a phase, each with the place of its first operation. -/
def phaseItems (operations : List SnapshotOperation) : List (Nat × PhaseItem) :=
  let placed := operations.zipIdx
  let alone := placed.filterMap fun (operation, index) =>
    (phaseItem operation).map fun item => (index, item)
  let group := placed.findSome? fun (operation, index) =>
    (remuxOperation operation).map fun _ => index
  sortBy (·.1) (alone ++ group.toList.map fun index =>
    (index, .remuxGroup (operations.filterMap remuxOperation)))

/-! ## Expansion -/

structure Builder where
  nodes : List PlanNode := []
  diagnostics : List PlanningDiagnostic := []
  fatal : List PlanningDiagnostic := []

section Expansion
variable (lib : Library) (request : PlanningRequest)

def Builder.push (builder : Builder) (phaseName : String) (snapshot : MediaSnapshot)
    (plan : OperationPlan) : Builder :=
  { builder with
    nodes := builder.nodes ++
      [makeNode lib phaseName (checkedOrdinal builder.nodes.length) snapshot plan]
    diagnostics := builder.diagnostics ++ plan.diagnostics }

/-- The plan of an item, when `nodeCount` nodes have been made. -/
def planItem (phaseName : String) (snapshot : MediaSnapshot) (nodeCount : Nat) :
    PhaseItem → Except PlanningDiagnostic OperationPlan
  | .operation operation => planOperation phaseName snapshot lib request nodeCount operation
  | .blockedInsufficient operation => .ok (planBlockedInsufficient phaseName snapshot operation)
  | .blockedUnsupportedRemux operation message =>
      .ok (planBlockedCandidate phaseName snapshot operation message)
  | .remuxGroup operations =>
      .ok (planGroup phaseName snapshot operations request.policy.config.languages)

def Builder.expandItem (phaseName : String) (snapshot : MediaSnapshot) (builder : Builder)
    (item : PhaseItem) : Builder :=
  match planItem lib request phaseName snapshot builder.nodes.length item with
  | .ok plan => builder.push lib phaseName snapshot plan
  | .error diagnostic => { builder with fatal := builder.fatal ++ [diagnostic] }

def Builder.expandOperationsForSnapshot (phaseName : String) (operations : List CompiledOperation)
    (builder : Builder) (snapshot : MediaSnapshot) : Builder :=
  (phaseItems (snapshotOperations snapshot operations)).foldl
    (fun builder (_, item) => builder.expandItem lib request phaseName snapshot item) builder

def Builder.expandBlocked (phaseName : String) (operations : List CompiledOperation)
    (builder : Builder) (snapshot : MediaSnapshot) : Builder :=
  operations.foldl (fun builder operation =>
    builder.push lib phaseName snapshot (planBlockedInsufficient phaseName snapshot operation))
    builder

/-- A phase on one snapshot; a gate on an earlier phase is not known here. -/
def Builder.expandSnapshot (phase : CompiledPhase) (builder : Builder) (snapshot : MediaSnapshot) :
    Builder :=
  if phase.runIf.isSome then builder.expandBlocked lib phase.name phase.operations snapshot
  else
    match phase.skipIf.elim .notMatched (evaluateCondition · snapshot) with
    | .notMatched =>
        builder.expandOperationsForSnapshot lib request phase.name phase.operations snapshot
    | .matched => builder
    | .unknown => builder.expandBlocked lib phase.name phase.operations snapshot

def missingPhaseDiagnostic (phaseName : String) : PlanningDiagnostic where
  severity := .error
  code := .invalidPlanningRequest
  message := s!"phase {phaseName} is listed in phase_order but is missing"
  phaseName := some phaseName

def Builder.expandDeclaredPhase (builder : Builder) (phaseName : String) : Builder :=
  match request.policy.phases.find? (·.name = phaseName) with
  | none =>
      { builder with diagnostics := builder.diagnostics ++ [missingPhaseDiagnostic phaseName] }
  | some phase =>
      request.input.mediaSnapshots.foldl (Builder.expandSnapshot lib request phase) builder

def expand : Builder :=
  if request.policy.phaseOrder = [] then
    { diagnostics := [{
        severity := .warning
        code := .emptyPolicyPhases
        message := "compiled policy has no phases" }] }
  else request.policy.phaseOrder.foldl (Builder.expandDeclaredPhase lib request) {}

end Expansion

/-! ## Summary and edges -/

/-- One more, in 32 bits. -/
def bump (count : Nat) : Nat := (count + 1) % (1 <<< 32)

def bumpKind (kind : PlanOperationKind) :
    List (PlanOperationKind × Nat) → List (PlanOperationKind × Nat)
  | [] => [(kind, 1)]
  | (other, count) :: rest =>
      if other = kind then (other, bump count) :: rest else (other, count) :: bumpKind kind rest

def PlanSummary.add (summary : PlanSummary) (node : PlanNode) : PlanSummary :=
  let summary := match node.status with
    | .planned => { summary with executableNodeCount := bump summary.executableNodeCount }
    | .noOp => { summary with noOpNodeCount := bump summary.noOpNodeCount }
    | .blocked => { summary with blockedNodeCount := bump summary.blockedNodeCount }
  { summary with
    operationCountsByKind := bumpKind node.operationKind summary.operationCountsByKind }

def summarizeNodes (nodes : List PlanNode) : PlanSummary :=
  let summary := nodes.foldl PlanSummary.add { totalNodeCount := checkedOrdinal nodes.length }
  { summary with
    targetCount := checkedOrdinal (nodes.map fun node => targetKey node.target).dedup.length }

def nodesOfPhase (nodes : List PlanNode) (phaseName : String) : List PlanNode :=
  nodes.filter (·.phaseName = phaseName)

/-- The nodes of each listed dependency, with the nodes that wait for them. -/
def phasePairs (phases : List CompiledPhase) (nodes : List PlanNode) (phaseName : String) :
    List (PlanNode × PlanNode) :=
  match phases.reverse.find? (·.name = phaseName) with
  | none => []
  | some phase =>
      phase.dependsOn.flatMap fun dependency =>
        (nodesOfPhase nodes dependency).flatMap fun fromNode =>
          (nodesOfPhase nodes phase.name).map fun toNode => (fromNode, toNode)

def edgeBetween (lib : Library) (pair : PlanNode × PlanNode) : Edge where
  edgeId := edgeId lib pair.1.nodeId pair.2.nodeId
  fromNodeId := pair.1.nodeId
  toNodeId := pair.2.nodeId

/-- The pairs of nodes that get an edge, in order. -/
def dependentPairs (policy : CompiledPolicy) (nodes : List PlanNode) : List (PlanNode × PlanNode) :=
  policy.phaseOrder.flatMap (phasePairs policy.phases nodes)

def buildPhaseEdges (lib : Library) (policy : CompiledPolicy) (nodes : List PlanNode) : List Edge :=
  (dependentPairs policy nodes).map (edgeBetween lib)

/-! ## Entry points -/

section Entry
variable (lib : Library) (request : PlanningRequest)

def finish (builder : Builder) : Except (List PlanningDiagnostic) ExecutionPlan := do
  require (builder.fatal = []) builder.fatal
  return {
    summary := summarizeNodes builder.nodes
    nodes := builder.nodes
    edges := buildPhaseEdges lib request.policy builder.nodes
    diagnostics := builder.diagnostics }

def validateInput : Except (List PlanningDiagnostic) Unit :=
  require (request.input.mediaSnapshots ≠ [] ∨ request.input.emptyScan = true)
    [{ severity := .error, code := .emptyInputSet
       message := "planner input set has no media snapshots" }]

def validatePolicyEligibility : Except (List PlanningDiagnostic) Unit :=
  let diagnostics := streamConditionEligibilityDiagnostics request.policy.phases
  require (diagnostics = []) diagnostics

def generatePlan : Except (List PlanningDiagnostic) ExecutionPlan := do
  validatePolicyEligibility request
  validateInput request
  finish lib request (expand lib request)

end Entry

end Voom.Planner
