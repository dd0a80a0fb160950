import VoomProof.RemuxFacts
import VoomProof.StableOrder

/-!
# Planning a remux

`planner/remux/mod.rs` of `voom-plan`: the container, keep, remove, order and defaults
operations of a phase are planned together, as one remux of the file. Against the facts of the
snapshot they give a payload, which names the streams that filters and rankings select, and
whether the file would change.

The resource estimates of a plan and the target its diagnostics repeat are left out.
-/

namespace Voom
open Fallible RustText StableOrder

/-! ## Payload -/

/-- A group of the track order. -/
inductive RemuxTrackGroup where
  | video
  | audio
  | subtitle
  | attachment
  deriving DecidableEq

/-- What is asked of the default flags. -/
structure RemuxDefaultAction where
  target : TrackTarget
  strategy : DefaultStrategy
  /-- The stream the planner selected. -/
  selectedSnapshotStreamId : Option String
  deriving DecidableEq

/-- What a worker is told to do. -/
structure RemuxOperationPayload where
  container : String
  sourceMediaSnapshotId : Option Nat
  trackActions : List RemuxTrackAction
  trackOrder : List RemuxTrackGroup
  headSnapshotStreamId : Option String
  audioHeadSnapshotStreamId : Option String
  defaults : List RemuxDefaultAction

/-- The order without a `reorder`. -/
def defaultTrackOrder : List RemuxTrackGroup := [.video, .audio, .subtitle]

def remuxTrackGroup : TrackTarget → RemuxTrackGroup
  | .video => .video
  | .audio => .audio
  | .subtitle => .subtitle
  | .attachment => .attachment

def trackTargetLabel : TrackTarget → String
  | .video => "video"
  | .audio => "audio"
  | .subtitle => "subtitle"
  | .attachment => "attachment"

/-- A `defaults` operation. -/
structure DefaultsOperation where
  target : TrackTarget
  strategy : DefaultStrategy
  filter : Option TrackFilter

namespace CompiledOperation

/-- The container it sets. -/
def container? : CompiledOperation → Option String
  | setContainer container => some container
  | _ => none

/-- A keep or remove. -/
def trackAction? : CompiledOperation → Option RemuxTrackAction
  | keepTracks target filter => some ⟨.keepTracks, target, filter⟩
  | removeTracks target filter => some ⟨.removeTracks, target, filter⟩
  | _ => none

def reorder? : CompiledOperation → Option (List TrackTarget × Option TrackFilter)
  | reorderTracks targets headFilter => some (targets, headFilter)
  | _ => none

def defaults? : CompiledOperation → Option DefaultsOperation
  | setDefaults target strategy filter => some ⟨target, strategy, filter⟩
  | _ => none

end CompiledOperation

open CompiledOperation

/-- Without an order of its own, a group that sets the container gets the default one. -/
def baseTrackOrder (operations : List CompiledOperation) : List RemuxTrackGroup :=
  match operations.filterMap reorder? with
  | [(targets, _)] => targets.map remuxTrackGroup
  | [] => if operations.any (·.container?.isSome) then defaultTrackOrder else []
  | _ => []

/-- What needs no stream facts. -/
def baseRemuxPayload (snapshot : MediaSnapshotInput) (operations : List CompiledOperation) :
    RemuxOperationPayload where
  container := (operations.findSome? container?).getD "mkv"
  sourceMediaSnapshotId := snapshot.existingMediaSnapshotId
  trackActions := operations.filterMap trackAction?
  trackOrder := baseTrackOrder operations
  headSnapshotStreamId := none
  audioHeadSnapshotStreamId := none
  defaults := (operations.filterMap defaults?).map fun op => ⟨op.target, op.strategy, none⟩

/-! ## Defaults -/

namespace RemuxPlanner

/-- The kept streams of the target, or all but the attachments, in source order. -/
def retainedStreams (facts : List SnapshotStreamFact) (keepIds : List String)
    (target : Option TrackTarget) : List SnapshotStreamFact :=
  sortBy (·.providerStreamIndex) <| facts.filter fun stream =>
    stream.snapshotStreamId ∈ keepIds &&
      match target with
      | some target => stream.kind = target
      | none => stream.kind ≠ .attachment

/-- A match goes to those found. -/
def pushIfMatched (filter : TrackFilter) (found : List String) (stream : SnapshotStreamFact) :
    Except RemuxPlanningBlock (List String) := do
  let matched ← evaluateFilter filter stream
  return if matched then found ++ [stream.snapshotStreamId] else found

/-- The one stream the filter selects. -/
def resolveUniqueFilter (streams : List SnapshotStreamFact) (filter : TrackFilter)
    (operation : RemuxFilterOperation) : Except RemuxPlanningBlock String := do
  match ← streams.foldlM (pushIfMatched filter) [] with
  | [id] => return id
  | [] => .error (.emptyTrackFilterSelection operation)
  | found => .error (.ambiguousTrackFilterSelection operation found.length)

/-- The stream that ranks best. -/
structure ResolvedBestDefault where
  selectedSnapshotStreamId : String
  evaluatedUntaggedLanguage : Bool
  deriving DecidableEq

/-- The best stream so far with its rank, and whether an untagged one was met. -/
structure BestSoFar where
  selected : SnapshotStreamFact
  rank : Option Nat
  untagged : Bool

/-- The better of two candidates. -/
def rankStream (preferredLanguages : List String) (best : BestSoFar)
    (stream : SnapshotStreamFact) : Except RemuxPlanningBlock BestSoFar := do
  let language ← languageOf stream
  let rank := preferredLanguages.idxOf language
  let untagged := best.untagged || stream.language = .missing
  return if best.rank.all (rank < ·) then ⟨stream, some rank, untagged⟩
    else { best with untagged := untagged }

/-- The first best by language. -/
def resolveBestDefault (streams : List SnapshotStreamFact) (preferredLanguages : List String) :
    Except RemuxPlanningBlock (Option ResolvedBestDefault) :=
  match streams with
  | [] => .ok none
  | first :: _ =>
      if preferredLanguages = [] then .ok (some ⟨first.snapshotStreamId, false⟩)
      else do
        let best ← streams.foldlM (rankStream preferredLanguages) ⟨first, none, false⟩
        return some ⟨best.selected.snapshotStreamId, best.untagged⟩

/-- At most one for each target. -/
def pushExplicit (targets : List TrackTarget) (op : DefaultsOperation) :
    Except RemuxPlanningBlock (List TrackTarget) :=
  if op.filter.isNone then .ok targets
  else do
    require (op.target ∉ targets) (.conflictingExplicitDefaults op.target)
    return targets ++ [op.target]

/-- No target has two explicit defaults. -/
def explicitDefaultTargets (defaults : List DefaultsOperation) :
    Except RemuxPlanningBlock (List TrackTarget) :=
  defaults.foldlM pushExplicit []

/-- `best` goes with no other strategy for its target. -/
def bestConflict (defaults : List DefaultsOperation) (explicitTargets : List TrackTarget)
    (op : DefaultsOperation) : Bool :=
  op.strategy = .best && op.filter.isNone && op.target ∉ explicitTargets &&
    1 < defaults.countP fun candidate => candidate.filter.isNone && candidate.target = op.target

/-- No `best` conflicts. -/
def validateBestDefaultStrategyConflicts (defaults : List DefaultsOperation)
    (explicitTargets : List TrackTarget) : Except RemuxPlanningBlock Unit :=
  match defaults.find? (bestConflict defaults explicitTargets) with
  | some op => .error (.conflictingBestDefaultStrategies op.target)
  | none => .ok ()

/-- What `defaults` come to. -/
structure RemuxDefaultsResolution where
  actions : List RemuxDefaultAction
  evaluatedUntaggedLanguage : Bool
  deriving DecidableEq

/-- The action of one operation; a strategy is dropped where a filter selects. -/
def resolveDefaultAction (facts : List SnapshotStreamFact) (keepIds : List String)
    (preferredLanguages : List String) (explicitTargets : List TrackTarget)
    (resolved : RemuxDefaultsResolution) (op : DefaultsOperation) :
    Except RemuxPlanningBlock RemuxDefaultsResolution := do
  let streams := retainedStreams facts keepIds (some op.target)
  match op.filter, op.strategy with
  | some filter, _ =>
      let id ← resolveUniqueFilter streams filter (.defaults op.target)
      return { resolved with actions := resolved.actions ++ [⟨op.target, op.strategy, some id⟩] }
  | none, strategy =>
      if op.target ∈ explicitTargets then return resolved
      else if strategy = .best then
        match ← resolveBestDefault streams preferredLanguages with
        | none => return resolved
        | some best =>
            return {
              actions := resolved.actions ++
                [⟨op.target, strategy, some best.selectedSnapshotStreamId⟩]
              evaluatedUntaggedLanguage :=
                resolved.evaluatedUntaggedLanguage || best.evaluatedUntaggedLanguage }
      else
        return { resolved with actions := resolved.actions ++ [⟨op.target, strategy, none⟩] }

/-- The actions on the streams kept. -/
def resolveDefaultActions (operations : List CompiledOperation) (facts : List SnapshotStreamFact)
    (keepIds : List String) (preferredLanguages : List String) :
    Except RemuxPlanningBlock RemuxDefaultsResolution := do
  let defaults := operations.filterMap defaults?
  let explicitTargets ← explicitDefaultTargets defaults
  validateBestDefaultStrategyConflicts defaults explicitTargets
  defaults.foldlM (resolveDefaultAction facts keepIds preferredLanguages explicitTargets)
    ⟨[], false⟩

/-- Whether the default flag of some stream is not the wanted one. -/
def flagsDiffer (wanted : SnapshotStreamFact → Bool) (streams : List SnapshotStreamFact) :
    Except RemuxPlanningBlock Bool :=
  streams.foldlM (fun changed stream => do
    let isDefault ← requiredFact stream.isDefault
    return changed || isDefault ≠ wanted stream) false

/-- Whether an action changes a flag. -/
def defaultChanges (facts : List SnapshotStreamFact) (keepIds : List String)
    (action : RemuxDefaultAction) : Except RemuxPlanningBlock Bool :=
  match action.selectedSnapshotStreamId, action.strategy with
  | some selected, _ =>
      flagsDiffer (·.snapshotStreamId = selected) <| facts.filter fun stream =>
        stream.kind = action.target && stream.snapshotStreamId ∈ keepIds
  | none, .first => do
      let streams := retainedStreams facts keepIds (some action.target)
      let first ← find streams.head? .insufficientSnapshotFacts
      flagsDiffer (·.snapshotStreamId = first.snapshotStreamId) streams
  | none, .none => flagsDiffer (fun _ => false) (retainedStreams facts keepIds (some action.target))
  | none, .preserve => .ok false
  | none, .best => .error .unsupportedMediaShape

/-- Whether any action does. -/
def defaultsChange (defaults : List RemuxDefaultAction) (facts : List SnapshotStreamFact)
    (keepIds : List String) : Except RemuxPlanningBlock Bool :=
  defaults.foldlM (fun changed action => do
    let differ ← defaultChanges facts keepIds action
    return changed || differ) false

/-! ## Order -/

/-- The passes of a track order: the head, the groups in order, the rest. -/
def orderPasses (targets : List TrackTarget) (headId : Option String) :
    List (SnapshotStreamFact → Bool) :=
  (headId.toList.map fun id stream => decide (stream.snapshotStreamId = id)) ++
    (targets.map fun target stream => decide (stream.kind = target)) ++ [fun _ => true]

/-- Whether the streams would move. -/
def desiredOrderChanges (facts : List SnapshotStreamFact) (keepIds : List String)
    (targets : List TrackTarget) (headId : Option String) : Bool :=
  let source := retainedStreams facts keepIds none
  source ≠ arrange (·.snapshotStreamId) source (orderPasses targets headId)

/-- The stream a filter puts first. -/
def resolveHead (facts : List SnapshotStreamFact) (keepIds : List String) :
    Option TrackFilter → Except RemuxPlanningBlock (Option String)
  | none => .ok none
  | some filter => do
      let id ← resolveUniqueFilter (retainedStreams facts keepIds none) filter .orderTracks
      return some id

/-- The order, its head, and whether it moves anything. -/
def resolveTrackOrder (operations : List CompiledOperation) (facts : List SnapshotStreamFact)
    (keepIds : List String) :
    Except RemuxPlanningBlock (List RemuxTrackGroup × Option String × Bool) :=
  match operations.filterMap reorder? with
  | [] => .ok ([], none, false)
  | [(targets, headFilter)] => do
      require (targets.Nodup ∧ (targets ≠ [] ∨ headFilter.isSome)) .unsupportedMediaShape
      let head ← resolveHead facts keepIds headFilter
      return (targets.map remuxTrackGroup, head, desiredOrderChanges facts keepIds targets head)
  | _ => .error .unsupportedMediaShape

/-! ## Resolution -/

/-- A group resolved on a file. -/
structure RemuxResolution where
  payload : RemuxOperationPayload
  trackSelectionChanged : Bool
  bestEvaluatedUntaggedLanguage : Bool

/-- The summary lists streams. -/
def hasRemuxStreamFactShape (snapshot : MediaSnapshotInput) : Bool :=
  match (snapshot.streamSummary.get "streams").bind Json.asArray with
  | none => false
  | some streams => streams.all fun stream =>
      ["id", "index", "kind"].all fun key => (stream.get key).isSome

/-- As the summary has it. -/
def videoStreamCount (snapshot : MediaSnapshotInput) : Option Nat :=
  (snapshot.streamSummary.get "video_stream_count").bind (Json.asUnsigned 64)

/-- The track operations of a group, against the facts of a file with video. -/
def resolveTrackOperations (facts : List SnapshotStreamFact)
    (operations : List CompiledOperation) (preferredLanguages : List String)
    (payload : RemuxOperationPayload) : Except RemuxPlanningBlock RemuxResolution := do
  let keepIds ← resolveTrackKeepIds facts payload.trackActions
  let removed := facts.any fun stream => stream.snapshotStreamId ∉ keepIds
  let defaults ← resolveDefaultActions operations facts keepIds preferredLanguages
  let defaultsChanged ← defaultsChange defaults.actions facts keepIds
  let (trackOrder, head, orderChanged) ← resolveTrackOrder operations facts keepIds
  let reorders := operations.any (·.reorder?.isSome)
  return {
    payload := { payload with
      defaults := defaults.actions
      trackOrder := if reorders then trackOrder else payload.trackOrder
      headSnapshotStreamId := head }
    trackSelectionChanged := removed || defaultsChanged || orderChanged
    bestEvaluatedUntaggedLanguage := defaults.evaluatedUntaggedLanguage }

/-- Resolve a group, in the order of the source. -/
def resolveRemuxOperations (snapshot : MediaSnapshotInput) (operations : List CompiledOperation)
    (preferredLanguages : List String) : Except RemuxPlanningBlock RemuxResolution := do
  let payload := baseRemuxPayload snapshot operations
  let hasTrackOperation := operations.any (·.container?.isNone)
  if !hasTrackOperation && !hasRemuxStreamFactShape snapshot then
    require (videoStreamCount snapshot ≠ some 0) .unsupportedMediaShape
    return ⟨payload, false, false⟩
  else
    let facts ← streamFacts snapshot
    require (∃ stream ∈ facts, stream.kind = .video) .unsupportedMediaShape
    if hasTrackOperation then resolveTrackOperations facts operations preferredLanguages payload
    else return ⟨payload, false, false⟩

/-! ## The plan -/

/-- What becomes of a node. -/
inductive NodeStatus where
  | planned
  | noOp
  | blocked
  deriving DecidableEq

inductive PlanningDiagnosticCode where
  | insufficientSnapshotFacts
  | unsupportedMediaShape
  | emptyTrackFilterSelection
  | ambiguousTrackFilterSelection
  | untaggedTrackLanguageDefaulted
  deriving DecidableEq

inductive PlanningDiagnosticSeverity where
  | error
  | warning
  deriving DecidableEq

structure PlanningDiagnostic where
  severity : PlanningDiagnosticSeverity
  code : PlanningDiagnosticCode
  message : String
  phaseName : String
  operationKind : String
  deriving DecidableEq

/-- What is planned for an operation. -/
structure OperationPlan where
  operationPayload : RemuxOperationPayload
  observedContainer : Option String
  status : NodeStatus
  statusReason : String
  capability : Option String
  diagnostics : List PlanningDiagnostic

/-- What can be done with a group. -/
inductive RemuxGroupShape where
  | noOp
  | containerChange (current : String)
  | trackSelectionChange
  | insufficientFacts (message : String)
  | unsupportedShape (message : String)
  | emptyFilterSelection (message : String)
  | ambiguousFilterSelection (message : String)
  deriving DecidableEq

def remuxGroupShape (snapshot : MediaSnapshotInput) (targetContainer : String)
    (trackSelectionChanged : Bool) : RemuxGroupShape :=
  match snapshot.container with
  | none => .insufficientFacts "snapshot container is unknown"
  | some current =>
      if eqIgnoreAsciiCase current targetContainer then
        if trackSelectionChanged then .trackSelectionChange else .noOp
      else .containerChange current

def filterSelectionMessage (operation : RemuxFilterOperation) (matchCount : Nat) : String :=
  match operation with
  | .defaults target =>
      "defaults " ++ trackTargetLabel target ++ s!" filter matched {matchCount} retained " ++
        "streams; update it to select exactly one kept " ++ trackTargetLabel target ++ " stream"
  | .orderTracks =>
      s!"order tracks filter matched {matchCount} retained streams; update it to select " ++
        "exactly one kept ordinary stream"

/-- What a failed resolution comes to. -/
def remuxBlockShape : RemuxPlanningBlock → RemuxGroupShape
  | .insufficientSnapshotFacts =>
      .insufficientFacts "snapshot stream facts are insufficient for remux planning"
  | .unsupportedMediaShape => .unsupportedShape "media shape is not supported by remux planning"
  | .emptyTrackFilterSelection operation =>
      .emptyFilterSelection (filterSelectionMessage operation 0)
  | .ambiguousTrackFilterSelection operation matchCount =>
      .ambiguousFilterSelection (filterSelectionMessage operation matchCount)
  | .conflictingExplicitDefaults target =>
      let label := trackTargetLabel target
      .unsupportedShape (s!"multiple explicit defaults operations target {label}; keep " ++
        s!"exactly one `defaults {label} where` operation")
  | .conflictingBestDefaultStrategies target =>
      let label := trackTargetLabel target
      .unsupportedShape (s!"multiple defaults strategy operations target {label} and include " ++
        s!"best; keep exactly one `defaults {label}` strategy or one `defaults {label} where` " ++
        "operation")

/-- Status, reason, capability and diagnostic of a shape. -/
def shapeOutcome (targetContainer : String) :
    RemuxGroupShape → NodeStatus × String × Option String × Option PlanningDiagnosticCode
  | .noOp =>
      (.noOp, s!"container is already {targetContainer} and track selection is unchanged",
        none, none)
  | .containerChange current =>
      (.planned, s!"container {current} will be changed to {targetContainer}",
        some "remux_container", none)
  | .trackSelectionChange => (.planned, "track selection will be changed", some "remux", none)
  | .insufficientFacts message => (.blocked, message, none, some .insufficientSnapshotFacts)
  | .unsupportedShape message => (.blocked, message, none, some .unsupportedMediaShape)
  | .emptyFilterSelection message => (.blocked, message, none, some .emptyTrackFilterSelection)
  | .ambiguousFilterSelection message =>
      (.blocked, message, none, some .ambiguousTrackFilterSelection)

mutual

/-- The filter asks for a language. -/
def filterReferencesLanguage : TrackFilter → Bool
  | .languageIn _ => true
  | .not inner => filterReferencesLanguage inner
  | .and filters | .or filters => anyReferencesLanguage filters
  | _ => false

def anyReferencesLanguage : List TrackFilter → Bool
  | [] => false
  | filter :: rest => filterReferencesLanguage filter || anyReferencesLanguage rest

end

/-- The filter of an operation, and the streams it is evaluated on. -/
def filterScope : CompiledOperation → Option ((SnapshotStreamFact → Bool) × Option TrackFilter)
  | .keepTracks target filter | .removeTracks target filter | .setDefaults target _ filter =>
      some (fun stream => stream.kind = target, filter)
  | .reorderTracks _ headFilter => some (fun stream => stream.kind ≠ .attachment, headFilter)
  | _ => none

/-- A filter asks for languages the file does not tag. -/
def remuxHasUntaggedLanguageFilter (snapshot : MediaSnapshotInput)
    (operations : List CompiledOperation) : Bool :=
  match streamFacts snapshot with
  | .error _ => false
  | .ok facts => operations.any fun operation =>
      match filterScope operation with
      | some (scope, some filter) =>
          filterReferencesLanguage filter &&
            facts.any fun stream => scope stream && stream.language = .missing
      | _ => false

def untaggedLanguageWarning (phaseName : String) : PlanningDiagnostic :=
  ⟨.warning, .untaggedTrackLanguageDefaulted,
    "an untagged track was evaluated as language und by remux language selection", phaseName,
    "remux"⟩

/-- The plan of a remux group. -/
def planGroup (phaseName : String) (snapshot : MediaSnapshotInput)
    (operations : List CompiledOperation) (preferredLanguages : List String) : OperationPlan :=
  let resolution := resolveRemuxOperations snapshot operations preferredLanguages
  let (payload, untagged) := match resolution with
    | .ok resolution => (resolution.payload, resolution.bestEvaluatedUntaggedLanguage)
    | .error _ => (baseRemuxPayload snapshot operations, false)
  let shape := match resolution with
    | .ok resolution =>
        remuxGroupShape snapshot payload.container resolution.trackSelectionChanged
    | .error block => remuxBlockShape block
  let (status, statusReason, capability, code) := shapeOutcome payload.container shape
  let blocked := code.toList.map fun code =>
    ⟨.error, code, statusReason, phaseName, "remux"⟩
  let warned := status ≠ .blocked ∧
    (untagged ∨ remuxHasUntaggedLanguageFilter snapshot operations)
  { operationPayload := payload
    observedContainer := snapshot.container
    status := status
    statusReason := statusReason
    capability := capability
    diagnostics := blocked ++ if warned then [untaggedLanguageWarning phaseName] else [] }

end RemuxPlanner

end Voom
