import VoomProof.RemuxResolution
import VoomProof.Taxonomy

/-!
# Selecting the streams of a remux

`remux/selection.rs` of `voom-control-plane`: the payload of a planned remux and the pinned
snapshot give the selection of streams that is dispatched to the worker.

A payload is what its JSON form parses to: the checks of the parser that rendered payloads
can fail are kept, the form itself is not.
-/

namespace Voom
open Fallible RustText StableOrder List

structure RemuxStreamRef where
  snapshotStreamId : String
  providerStreamIndex : Nat
  deriving DecidableEq

structure RemuxSelection where
  keepStreams : List RemuxStreamRef
  defaultStreams : List RemuxStreamRef
  clearDefaultStreams : List RemuxStreamRef
  trackOrder : List RemuxTrackGroup
  headStreams : List RemuxStreamRef
  audioHeadStream : Option RemuxStreamRef
  forcedStreams : List RemuxStreamRef
  clearForcedStreams : List RemuxStreamRef
  deriving DecidableEq

def trackGroupName : RemuxTrackGroup → String
  | .video => "video"
  | .audio => "audio"
  | .subtitle => "subtitle"
  | .attachment => "attachment"

namespace RemuxOperationPayload

def requireDistinctOrder (before : List RemuxTrackGroup) :
    List RemuxTrackGroup → Except String Unit
  | [] => .ok ()
  | group :: rest => do
      require (group ∉ before) (s!"remux track_order[{before.length}] duplicates target `" ++
        trackGroupName group ++ "`")
      requireDistinctOrder (before ++ [group]) rest

def requireStreamId (id : Option String) (e : String) : Except String Unit :=
  require (id.all (!blank ·)) e

def requireDefaults (index : Nat) : List RemuxDefaultAction → Except String Unit
  | [] => .ok ()
  | action :: rest => do
      requireStreamId action.selectedSnapshotStreamId
        (s!"remux defaults[{index}] `selected_snapshot_stream_id` must be a " ++
          "non-empty string")
      requireDefaults (index + 1) rest

/-- What is left of `try_from_execution_value` for a payload that was rendered. -/
def tryFromExecutionValue (payload : RemuxOperationPayload) : Except String Unit := do
  require (payload.container = "mkv") "remux payload `container` must be mkv"
  require (payload.sourceMediaSnapshotId ≠ some 0)
    "remux payload `source_media_snapshot_id` must be a positive integer"
  requireDistinctOrder [] payload.trackOrder
  requireStreamId payload.headSnapshotStreamId
    "remux payload `head_snapshot_stream_id` must be a non-empty string"
  requireDefaults 0 payload.defaults
  requireStreamId payload.audioHeadSnapshotStreamId
    "remux payload audio_head_snapshot_stream_id must be a non-empty string"
  require (payload.headSnapshotStreamId = none ∨ payload.audioHeadSnapshotStreamId = none)
    "global head and audio head cannot be combined"
  require payload.sourceMediaSnapshotId.isSome
    "remux payload `source_media_snapshot_id` must be a positive integer"

end RemuxOperationPayload

namespace ControlPlaneRemux

def streamRef (stream : SnapshotStreamFact) : RemuxStreamRef :=
  ⟨stream.snapshotStreamId, stream.providerStreamIndex⟩

def remuxBlockError : RemuxPlanningBlock → VoomError
  | .insufficientSnapshotFacts => .config "remux snapshot has insufficient stream facts"
  | .unsupportedMediaShape => .config "remux selector is unsupported for this media shape"
  | .emptyTrackFilterSelection _ | .ambiguousTrackFilterSelection _ _
  | .conflictingExplicitDefaults _ =>
      .config "remux payload contains unresolved filter-addressed selection"
  | .conflictingBestDefaultStrategies _ =>
      .config "remux payload contains conflicting defaults strategies"

/-! ## Default actions -/

inductive ClassifiedDefaultAction where
  | resolvedExplicit (target : TrackTarget) (selectedId : String)
  | resolvedBest (target : TrackTarget) (selectedId : String)
  | unresolvedBest (target : TrackTarget)
  | first (target : TrackTarget)
  | none (target : TrackTarget)
  | preserve (target : TrackTarget)
  deriving DecidableEq

inductive EffectiveDefaultAction where
  | resolved (target : TrackTarget) (selectedId : String)
  | first (target : TrackTarget)
  | none (target : TrackTarget)
  | preserve (target : TrackTarget)
  deriving DecidableEq

namespace ClassifiedDefaultAction

def target : ClassifiedDefaultAction → TrackTarget
  | resolvedExplicit target _ | resolvedBest target _ | unresolvedBest target
  | first target | none target | preserve target => target

def isResolvedExplicit : ClassifiedDefaultAction → Bool
  | resolvedExplicit _ _ => true
  | _ => false

def isBest : ClassifiedDefaultAction → Bool
  | resolvedBest _ _ | unresolvedBest _ => true
  | _ => false

def intoEffective : ClassifiedDefaultAction → Except VoomError EffectiveDefaultAction
  | resolvedExplicit target selectedId | resolvedBest target selectedId =>
      .ok (.resolved target selectedId)
  | unresolvedBest _ =>
      .error (.config "default strategy best requires a resolved selected_snapshot_stream_id")
  | first target => .ok (.first target)
  | none target => .ok (.none target)
  | preserve target => .ok (.preserve target)

end ClassifiedDefaultAction

def EffectiveDefaultAction.target : EffectiveDefaultAction → TrackTarget
  | resolved target _ | first target | none target | preserve target => target

def classifyDefaultAction (action : RemuxDefaultAction) :
    Except VoomError ClassifiedDefaultAction :=
  match action.strategy, action.selectedSnapshotStreamId with
  | .preserve, some selectedId => .ok (.resolvedExplicit action.target selectedId)
  | .best, some selectedId => .ok (.resolvedBest action.target selectedId)
  | .first, none => .ok (.first action.target)
  | .none, none => .ok (.none action.target)
  | .preserve, none => .ok (.preserve action.target)
  | .best, none => .ok (.unresolvedBest action.target)
  | .first, some _ => .error (.config
      "selected_snapshot_stream_id is invalid with default strategy first")
  | .none, some _ => .error (.config
      "selected_snapshot_stream_id is invalid with default strategy none")

def pushExplicitTarget (targets : List TrackTarget) (action : ClassifiedDefaultAction) :
    Except VoomError (List TrackTarget) :=
  if action.isResolvedExplicit then do
    require (action.target ∉ targets)
      (.config ("multiple explicit defaults actions target " ++ trackTargetLabel action.target))
    return targets ++ [action.target]
  else .ok targets

def validateBestDefaultStrategyConflicts (defaults : List ClassifiedDefaultAction) :
    Except VoomError Unit :=
  match defaults.find? fun action =>
      action.isBest && 1 < defaults.countP (·.target = action.target) with
  | some action => .error (.config ("multiple defaults strategy actions target " ++
      trackTargetLabel action.target ++ " and include best"))
  | none => .ok ()

/-- An explicit selection shadows the strategies of its target. -/
def effectiveDefaultActions (defaults : List RemuxDefaultAction) :
    Except VoomError (List EffectiveDefaultAction) := do
  let classified ← defaults.mapM classifyDefaultAction
  let explicitTargets ← classified.foldlM pushExplicitTarget []
  let effective := classified.filter fun action =>
    action.isResolvedExplicit || action.target ∉ explicitTargets
  validateBestDefaultStrategyConflicts effective
  effective.mapM (·.intoEffective)

/-! ## Stream references -/

section Refs
variable (facts : List SnapshotStreamFact) (keepIds : List String)

def keptTargetStreams (target : TrackTarget) : List SnapshotStreamFact :=
  facts.filter fun stream => stream.kind = target && stream.snapshotStreamId ∈ keepIds

def resolvedKeptStream (id : String) (expectedTarget : Option TrackTarget) :
    Except VoomError SnapshotStreamFact := do
  let stream ← find (facts.find? (·.snapshotStreamId = id))
    (.config s!"resolved stream `{id}` is missing from the pinned snapshot")
  require (id ∈ keepIds)
    (.config s!"resolved stream `{id}` did not survive remux track actions")
  match expectedTarget with
  | some target =>
      require (stream.kind = target)
        (.config (s!"resolved stream `{id}` is not an expected " ++ trackTargetLabel target ++
          " stream"))
      return stream
  | none => return stream

def smallerIndex (best : Option SnapshotStreamFact) (stream : SnapshotStreamFact) :
    Option SnapshotStreamFact :=
  match best with
  | none => some stream
  | some b => if stream.providerStreamIndex < b.providerStreamIndex then some stream else some b

/-- The first stream with the smallest index. -/
def minByIndex (streams : List SnapshotStreamFact) : Option SnapshotStreamFact :=
  streams.foldl smallerIndex none

/-- Streams whose flag is known keep it: those to set, and those to clear. -/
def preservedRefs (flag : SnapshotStreamFact → SnapshotFact Bool)
    (streams : List SnapshotStreamFact) : List RemuxStreamRef × List RemuxStreamRef :=
  ((streams.filter (flag · = .value true)).map streamRef,
    (streams.filter (flag · = .value false)).map streamRef)

/-- The streams whose default flag an action sets, and those whose flag it clears. -/
def actionRefs : EffectiveDefaultAction →
    Except VoomError (List RemuxStreamRef × List RemuxStreamRef)
  | .resolved target selectedId => do
      let selected ← resolvedKeptStream facts keepIds selectedId (some target)
      let others := (keptTargetStreams facts keepIds target).filter
        (·.snapshotStreamId ≠ selectedId)
      return ([streamRef selected], others.map streamRef)
  | .first target =>
      let kept := keptTargetStreams facts keepIds target
      match minByIndex kept with
      | none => .ok ([], [])
      | some first =>
          let others := kept.filter (·.snapshotStreamId ≠ first.snapshotStreamId)
          .ok ([streamRef first], others.map streamRef)
  | .none target => .ok ([], (keptTargetStreams facts keepIds target).map streamRef)
  | .preserve target =>
      .ok (preservedRefs (·.isDefault) (keptTargetStreams facts keepIds target))

def dedupeRefs (streams : List RemuxStreamRef) : List RemuxStreamRef :=
  streams.foldl (fun kept stream =>
    if stream.snapshotStreamId ∈ kept.map (·.snapshotStreamId) then kept else kept ++ [stream]) []

/-- Targets without an action keep their flags. -/
def untouchedTargets (defaults : List EffectiveDefaultAction) : List TrackTarget :=
  [TrackTarget.video, .audio, .subtitle].filter (· ∉ defaults.map (·.target))

def defaultRefs (defaults : List EffectiveDefaultAction) :
    Except VoomError (List RemuxStreamRef × List RemuxStreamRef) := do
  let acted ← defaults.mapM (actionRefs facts keepIds)
  let untouched := (untouchedTargets defaults).map fun target =>
    preservedRefs (·.isDefault) (keptTargetStreams facts keepIds target)
  let refs := acted ++ untouched
  return (dedupeRefs (refs.flatMap (·.1)), dedupeRefs (refs.flatMap (·.2)))

def forcedRefs : List RemuxStreamRef × List RemuxStreamRef :=
  preservedRefs (·.isForced) <| facts.filter fun stream =>
    stream.kind ≠ .attachment && stream.snapshotStreamId ∈ keepIds

def headRefs : Option String → Except VoomError (List RemuxStreamRef)
  | none => .ok []
  | some id => do
      let stream ← resolvedKeptStream facts keepIds id none
      require (stream.kind ≠ .attachment)
        (.config s!"resolved head stream `{id}` cannot be an attachment")
      return [streamRef stream]

def audioHeadRef : Option String → Except VoomError (Option RemuxStreamRef)
  | none => .ok none
  | some id => do
      let stream ← resolvedKeptStream facts keepIds id (some .audio)
      return some (streamRef stream)

/-- A file with audio keeps some. -/
def rejectEmptyAudio : Except VoomError Unit :=
  require ((∃ s ∈ facts, s.kind = .audio) →
      ∃ s ∈ facts, s.kind = .audio ∧ s.snapshotStreamId ∈ keepIds)
    (.config ("remux would leave the file with no audio; no audio track survived the " ++
      "track filters"))

end Refs

def attachmentPlaced (facts : List SnapshotStreamFact) (placed : RemuxStreamRef) : Bool :=
  facts.any fun stream =>
    stream.kind = .attachment && stream.snapshotStreamId = placed.snapshotStreamId

def rejectAttachmentPlacements (selection : RemuxSelection) (facts : List SnapshotStreamFact) :
    Except VoomError Unit :=
  let placements := [("default_streams", selection.defaultStreams),
    ("clear_default_streams", selection.clearDefaultStreams),
    ("head_streams", selection.headStreams),
    ("audio_head_stream", selection.audioHeadStream.toList),
    ("forced_streams", selection.forcedStreams),
    ("clear_forced_streams", selection.clearForcedStreams)]
  match placements.findSome? fun (field, streams) =>
      (streams.find? (attachmentPlaced facts)).map (field, ·) with
  | some (field, placed) => .error (.config
      (s!"remux selection places attachment `{placed.snapshotStreamId}` in " ++ field))
  | none => .ok ()

/-- `selection_from_payload_and_snapshot`; the snapshot is given by its id and its facts. -/
def selectionFromPayloadAndSnapshot (payload : RemuxOperationPayload) (snapshotId : Nat)
    (snapshot : MediaSnapshotInput) : Except VoomError RemuxSelection := do
  payload.tryFromExecutionValue.mapError fun detail =>
    .config s!"remux operation payload is invalid: {detail}"
  require (eqIgnoreAsciiCase payload.container "mkv")
    (.config s!"remux container {payload.container} is unsupported")
  require (payload.sourceMediaSnapshotId = some snapshotId)
    (.config (s!"remux payload pins media snapshot {payload.sourceMediaSnapshotId.getD 0}, " ++
      s!"but execution loaded snapshot {snapshotId}"))
  let facts ← (streamFacts snapshot).mapError remuxBlockError
  let facts := sortBy (·.providerStreamIndex) facts
  require (∃ stream ∈ facts, stream.kind = .video)
    (.config "remux selection requires at least one video stream")
  require (∀ action ∈ payload.trackActions, action.target ≠ .video)
    (.config "video track policy is unsupported")
  let keepIds ← (resolveTrackKeepIds facts payload.trackActions).mapError remuxBlockError
  let videoIds := (facts.filter (·.kind = .video)).map (·.snapshotStreamId)
  let keepIds := keepIds ++ videoIds
  rejectEmptyAudio facts keepIds
  let defaults ← effectiveDefaultActions payload.defaults
  let (defaultStreams, clearDefaultStreams) ← defaultRefs facts keepIds defaults
  let (forcedStreams, clearForcedStreams) := forcedRefs facts keepIds
  let headStreams ← headRefs facts keepIds payload.headSnapshotStreamId
  let audioHeadStream ← audioHeadRef facts keepIds payload.audioHeadSnapshotStreamId
  let selection : RemuxSelection := {
    keepStreams := (facts.filter (·.snapshotStreamId ∈ keepIds)).map streamRef
    defaultStreams := defaultStreams
    clearDefaultStreams := clearDefaultStreams
    trackOrder := payload.trackOrder
    headStreams := headStreams
    audioHeadStream := audioHeadStream
    forcedStreams := forcedStreams
    clearForcedStreams := clearForcedStreams }
  rejectAttachmentPlacements selection facts
  return selection

/-! ## What a default action does -/

section Outcome
variable {facts kept streams : List SnapshotStreamFact} {keepIds : List String}
  {action : RemuxDefaultAction} {classified : List ClassifiedDefaultAction}
  {targets : List TrackTarget} {s' b selected stream s : SnapshotStreamFact}
  {effective : List EffectiveDefaultAction} {r : RemuxStreamRef} {e : EffectiveDefaultAction}
  {refs : List RemuxStreamRef × List RemuxStreamRef} {v : Bool}

/-- The action of a target that no other action has. -/
def EffectiveOf (action : RemuxDefaultAction) (effective : EffectiveDefaultAction) : Prop :=
  ∃ classified, classifyDefaultAction action = .ok classified ∧
    classified.intoEffective = .ok effective

theorem EffectiveOf.target {effective : EffectiveDefaultAction} (h : EffectiveOf action effective) :
    effective.target = action.target := by
  obtain ⟨_, strategy, selected⟩ := action
  obtain ⟨_, hclass, hinto⟩ := h
  cases strategy <;> cases selected <;> cases hclass <;> cases hinto <;> rfl

/-- `first` goes without a selected stream. -/
theorem EffectiveOf.selected_of_first {effective : EffectiveDefaultAction}
    (h : EffectiveOf action effective) (hfirst : action.strategy = .first) :
    action.selectedSnapshotStreamId = none := by
  obtain ⟨_, strategy, selected⟩ := action
  obtain ⟨_, hclass, -⟩ := h
  obtain rfl : strategy = .first := hfirst
  cases selected with
  | none => rfl
  | some => cases hclass

theorem classifyDefaultAction_target {c : ClassifiedDefaultAction}
    (h : classifyDefaultAction action = .ok c) : c.target = action.target := by
  obtain ⟨_, strategy, selected⟩ := action
  cases strategy <;> cases selected <;> cases h <;> rfl

theorem intoEffective_target {c : ClassifiedDefaultAction} {e : EffectiveDefaultAction}
    (h : c.intoEffective = .ok e) : e.target = c.target := by
  cases c <;> cases h <;> rfl

theorem foldlM_pushExplicitTarget_ok_iff : classified.foldlM pushExplicitTarget [] = .ok targets ↔
      targets = (classified.filter (·.isResolvedExplicit)).map (·.target) ∧ targets.Nodup :=
  foldlM_pushNew_ok_iff (fun _ _ h => if_neg (Bool.not_eq_true _ ▸ h)) fun _ _ h => if_pos h

/-- An explicit action that is alone for its target shadows no other. -/
theorem filter_unshadowed (h : classified.foldlM pushExplicitTarget [] = .ok targets)
    (halone : ∀ other ∈ classified, other.isResolvedExplicit →
      ∀ c ∈ classified, other.target = c.target → other = c) :
    (classified.filter fun action => action.isResolvedExplicit || action.target ∉ targets) =
      classified := by
  refine filter_eq_self.mpr fun c hc => ?_
  rw [(foldlM_pushExplicitTarget_ok_iff.mp h).1, Bool.or_eq_true_iff, decide_eq_true_iff]
  refine or_iff_not_imp_right.mpr fun hnot => ?_
  obtain ⟨other, hother, htgt⟩ := mem_map.mp (not_not.mp hnot)
  obtain ⟨hother, hexpl⟩ := mem_filter.mp hother
  exact halone other hother hexpl c hc htgt ▸ hexpl

/-- With one action a target, none is shadowed. -/
theorem effectiveDefaultActions_spec {defaults : List RemuxDefaultAction}
    (hone : (defaults.map (·.target)).Nodup)
    (h : effectiveDefaultActions defaults = .ok effective) :
    (effective.map (·.target)).Nodup ∧
      ∀ action ∈ defaults, ∃ e ∈ effective, EffectiveOf action e := by
  simp only [effectiveDefaultActions, bind_ok] at h
  obtain ⟨classified, hclassified, _, htgts, _, -, heff⟩ := h
  obtain ⟨hto, -⟩ := mapM_ok_mem hclassified
  have hsame : classified.map (·.target) = defaults.map (·.target) :=
    mapM_ok_map (fun _ _ => classifyDefaultAction_target) hclassified
  rw [filter_unshadowed htgts fun _ hother _ c hc =>
    inj_on_of_nodup_map (hsame ▸ hone) hother hc] at heff
  obtain ⟨hto', -⟩ := mapM_ok_mem heff
  have htgts' : effective.map (·.target) = classified.map (·.target) :=
    mapM_ok_map (fun _ _ => intoEffective_target) heff
  refine ⟨by rw [htgts', hsame]; exact hone, fun action ha => ?_⟩
  obtain ⟨c, hc, hclass⟩ := hto action ha
  obtain ⟨e, he, hinto⟩ := hto' c hc
  exact ⟨e, he, c, hclass, hinto⟩

theorem streamRef_inj (h : streamRef s = streamRef s') : s.snapshotStreamId = s'.snapshotStreamId :=
  congrArg RemuxStreamRef.snapshotStreamId h

/-- A reference stands for one stream. -/
theorem streamRef_mem_map (hids : UniqueIds facts)
    (hsub : ∀ s ∈ streams, s ∈ facts) (hs : s ∈ facts) :
    streamRef s ∈ streams.map streamRef ↔ s ∈ streams := by
  refine ⟨fun hmem => ?_, mem_map_of_mem⟩
  obtain ⟨s', hs', href⟩ := mem_map.mp hmem
  rw [← inj_on_of_nodup_map hids (hsub s' hs') hs (streamRef_inj href)]
  exact hs'

theorem mem_keptTargetStreams {target : TrackTarget} : s ∈ keptTargetStreams facts keepIds target ↔
      s ∈ facts ∧ s.kind = target ∧ s.snapshotStreamId ∈ keepIds := by
  simp [keptTargetStreams]

theorem foldl_minByIndex (h : ∀ s ∈ streams, b.providerStreamIndex < s.providerStreamIndex) :
    streams.foldl smallerIndex (some b) = some b := by
  induction streams with
  | nil => rfl
  | cons s _ ih =>
    obtain ⟨hs, hrest⟩ := forall_mem_cons.mp h
    rw [foldl_cons, smallerIndex, if_neg (Nat.lt_asymm hs), ih hrest]

/-- In source order the smallest index is the first one. -/
theorem minByIndex_eq_head? (h : InOrder streams) : minByIndex streams = streams.head? := by
  cases streams with
  | nil => rfl
  | cons s => exact foldl_minByIndex (pairwise_cons.mp h).1

/-- The flag a stream is left with by the streams to set and to clear. -/
def flagBy (refs : List RemuxStreamRef × List RemuxStreamRef) (s : SnapshotStreamFact) :
    SnapshotFact Bool :=
  if streamRef s ∈ refs.1 then .value true
  else if streamRef s ∈ refs.2 then .value false
  else s.isDefault

/-- What an action is to make of a kept stream of its target. -/
def EffectiveDefaultAction.outcome (kept : List SnapshotStreamFact) (s : SnapshotStreamFact) :
    EffectiveDefaultAction → SnapshotFact Bool
  | .resolved _ selectedId => .value (s.snapshotStreamId = selectedId)
  | .first _ => .value (kept.head?.any (·.snapshotStreamId = s.snapshotStreamId))
  | .none _ => .value false
  | .preserve _ => s.isDefault

section
variable (hids : UniqueIds kept)
include hids

theorem streamRef_mem_filter {p : SnapshotStreamFact → Bool} (hs : s ∈ kept) :
    streamRef s ∈ (kept.filter p).map streamRef ↔ p s = true := by
  rw [streamRef_mem_map hids (fun _ => mem_of_mem_filter) hs, mem_filter, and_iff_right hs]

/-- One stream is set and the others of its target are cleared. -/
theorem flagBy_select (hsel : selected ∈ kept) (hs : s ∈ kept) :
    flagBy ([streamRef selected],
      (kept.filter (·.snapshotStreamId ≠ selected.snapshotStreamId)).map streamRef) s =
      .value (s.snapshotStreamId = selected.snapshotStreamId) := by
  simp only [flagBy, streamRef_mem_filter hids hs]
  by_cases hid : s.snapshotStreamId = selected.snapshotStreamId
  · rw [inj_on_of_nodup_map hids hs hsel hid, if_pos (mem_singleton.mpr rfl),
      decide_eq_true rfl]
  · rw [if_neg fun hmem => hid (streamRef_inj (mem_singleton.mp hmem)),
      if_pos (decide_eq_true hid), decide_eq_false hid]

theorem flagBy_preserved (hs : s ∈ kept) :
    flagBy (preservedRefs (·.isDefault) kept) s = s.isDefault := by
  simp only [flagBy, preservedRefs, streamRef_mem_filter hids hs, decide_eq_true_iff]
  split
  next h => exact h.symm
  · split
    next h => exact h.symm
    · rfl

end

theorem resolvedKeptStream_ok {id : String} {expectedTarget : Option TrackTarget}
    (h : resolvedKeptStream facts keepIds id expectedTarget = .ok stream) :
    stream ∈ facts ∧ stream.snapshotStreamId = id ∧ id ∈ keepIds ∧
      ∀ target ∈ expectedTarget, stream.kind = target := by
  simp only [resolvedKeptStream, bind_ok, find_ok, require_ok] at h
  obtain ⟨found, hfound, _, hkept, hrest⟩ := h
  have hmem := mem_of_find?_eq_some hfound
  have hid : found.snapshotStreamId = id := by simpa using find?_some hfound
  cases expectedTarget with
  | none =>
    cases hrest
    exact ⟨hmem, hid, hkept, fun target ht => absurd ht (Option.not_mem_none target)⟩
  | some =>
    simp only [bind_ok, require_ok, return_ok] at hrest
    obtain ⟨_, hkind, rfl⟩ := hrest
    exact ⟨hmem, hid, hkept, fun _ ht => Option.mem_some_iff.mp ht ▸ hkind⟩

/-- The streams that get this flag. -/
def flagged (value : Bool) (refs : List RemuxStreamRef × List RemuxStreamRef) :
    List RemuxStreamRef :=
  match value with
  | true => refs.1
  | false => refs.2

theorem mem_preservedRefs {value : Bool} {flag : SnapshotStreamFact → SnapshotFact Bool}
    (h : r ∈ flagged value (preservedRefs flag streams)) :
    ∃ s ∈ streams, r = streamRef s ∧ flag s = .value value := by
  cases value
  all_goals
    obtain ⟨s, hs, rfl⟩ := mem_map.mp h
    obtain ⟨hmem, hflag⟩ := mem_filter.mp hs
    exact ⟨s, hmem, rfl, of_decide_eq_true hflag⟩

theorem preservedRefs_disjoint {flag : SnapshotStreamFact → SnapshotFact Bool}
    (hids : UniqueIds kept) : (preservedRefs flag kept).1.Disjoint (preservedRefs flag kept).2 := by
  intro r hset hclear
  obtain ⟨s, hs, rfl⟩ := mem_map.mp hset
  obtain ⟨hs, hflag⟩ := mem_filter.mp hs
  have hclr := of_decide_eq_true ((streamRef_mem_filter hids hs).mp hclear)
  cases (of_decide_eq_true hflag).symm.trans hclr

/-- What is deduplicated comes from the list, and no id is lost. -/
theorem dedupeRefs_spec (refs : List RemuxStreamRef) :
    (∀ r ∈ dedupeRefs refs, r ∈ refs) ∧
      ∀ r ∈ refs, r.snapshotStreamId ∈ (dedupeRefs refs).map (·.snapshotStreamId) := by
  induction refs using reverseRecOn with
  | nil => exact ⟨nofun, nofun⟩
  | append_singleton rest ref ih =>
    obtain ⟨hfrom, hall⟩ := ih
    have hstep : dedupeRefs (rest ++ [ref]) =
        if ref.snapshotStreamId ∈ (dedupeRefs rest).map (·.snapshotStreamId) then dedupeRefs rest
        else dedupeRefs rest ++ [ref] := foldl_append
    rw [hstep]
    split
    · refine ⟨fun r hr => mem_append_left _ (hfrom r hr), fun r hr => ?_⟩
      rcases mem_append.mp hr with hrest | hlast
      · exact hall r hrest
      · rwa [mem_singleton.mp hlast]
    · refine ⟨fun r hr => ?_, fun r hr => ?_⟩
      · exact mem_append.mpr ((mem_append.mp hr).imp_left (hfrom r))
      · rw [map_append]
        exact mem_append.mpr ((mem_append.mp hr).imp (hall r) mem_map_of_mem)

/-- An action selects one of the kept streams of its target and clears the others, clears them
all, or keeps the flags they have. -/
inductive ActionRefs (kept : List SnapshotStreamFact) (e : EffectiveDefaultAction) :
    List RemuxStreamRef × List RemuxStreamRef → Prop
  | selects {selected : SnapshotStreamFact} (hmem : selected ∈ kept)
      (houtcome : ∀ s,
        e.outcome kept s = .value (s.snapshotStreamId = selected.snapshotStreamId)) :
      ActionRefs kept e ([streamRef selected],
        (kept.filter (·.snapshotStreamId ≠ selected.snapshotStreamId)).map streamRef)
  | clears (houtcome : ∀ s, e.outcome kept s = .value false) :
      ActionRefs kept e ([], kept.map streamRef)
  | preserves (he : e = .preserve e.target) :
      ActionRefs kept e (preservedRefs (·.isDefault) kept)

/-- The actions, and one that preserves the flags for each target without any. -/
def allActions (effective : List EffectiveDefaultAction) : List EffectiveDefaultAction :=
  effective ++ (untouchedTargets effective).map .preserve

/-- An action that is the only one of its target is so among all of them. -/
theorem alone_allActions (he : e ∈ allActions effective)
    (halone : e ∈ effective → ∀ e' ∈ effective, e'.target = e.target → e' = e) :
    ∀ e' ∈ allActions effective, e'.target = e.target → e' = e := by
  have hfree : ∀ {e target}, target ∈ untouchedTargets effective → e ∈ effective →
      e.target ≠ target := by
    rintro e _ htgt he rfl
    exact of_decide_eq_true (mem_filter.mp htgt).2 (mem_map_of_mem he)
  intro e' he' htgt
  rcases mem_append.mp he with hin | hnew <;> rcases mem_append.mp he' with hin' | hnew'
  · exact halone hin e' hin' htgt
  · obtain ⟨_, hmem, rfl⟩ := mem_map.mp hnew'
    exact absurd htgt.symm (hfree hmem hin)
  · obtain ⟨_, hmem, rfl⟩ := mem_map.mp hnew
    exact absurd htgt (hfree hmem hin')
  · obtain ⟨_, -, rfl⟩ := mem_map.mp hnew
    obtain ⟨_, -, rfl⟩ := mem_map.mp hnew'
    exact congrArg _ htgt

/-- Either list is put together from those of the actions. -/
theorem defaultRefs_parts (h : defaultRefs facts keepIds effective = .ok refs) :
    ∃ parts, (allActions effective).mapM (actionRefs facts keepIds) = .ok parts ∧
      ∀ value, flagged value refs = dedupeRefs (parts.flatMap (flagged value)) := by
  obtain ⟨_, hacted, heq⟩ := bind_ok.mp h
  have huntouch : ((untouchedTargets effective).map .preserve).mapM (actionRefs facts keepIds) =
      .ok _ :=
    mapM_ok (g := fun e => preservedRefs (·.isDefault) (keptTargetStreams facts keepIds e.target))
      (forall_mem_map.mpr fun _ _ => rfl)
  rw [map_map] at huntouch
  cases heq
  exact ⟨_, mapM_append.trans ((bind_of_ok hacted _).trans (bind_of_ok huntouch _)),
    fun value => by cases value <;> rfl⟩

theorem part_of_defaultRefs (h : defaultRefs facts keepIds effective = .ok refs)
    (he : e ∈ allActions effective) : ∃ part, actionRefs facts keepIds e = .ok part := by
  obtain ⟨_, hparts, -⟩ := defaultRefs_parts h
  obtain ⟨part, -, hpart⟩ := (mapM_ok_mem hparts).1 e he
  exact ⟨part, hpart⟩

/-- Attachments are left alone unless an action is about them. -/
theorem mem_effective (he : e ∈ allActions effective) (htgt : e.target = .attachment) :
    e ∈ effective := by
  refine (mem_append.mp he).resolve_right fun huntouch => ?_
  obtain ⟨target, hlist, rfl⟩ := mem_map.mp huntouch
  rw [show target = .attachment from htgt] at hlist
  exact absurd (mem_filter.mp hlist).1 (by decide)

theorem attachmentPlaced_iff (hids : UniqueIds facts) (hs : s ∈ facts) :
    attachmentPlaced facts (streamRef s) = true ↔ s.kind = .attachment := by
  simp only [attachmentPlaced, any_eq_true, Bool.and_eq_true, decide_eq_true_iff]
  constructor
  · rintro ⟨_, hs', hkind, hid⟩
    rw [← inj_on_of_nodup_map hids hs' hs hid]
    exact hkind
  · exact fun hkind => ⟨s, hs, hkind, rfl⟩

theorem rejectAttachmentPlacements_ok_iff {selection : RemuxSelection} :
    rejectAttachmentPlacements selection facts = .ok () ↔
      ∀ streams ∈ [selection.defaultStreams, selection.clearDefaultStreams,
          selection.headStreams, selection.audioHeadStream.toList, selection.forcedStreams,
          selection.clearForcedStreams],
        ∀ r ∈ streams, attachmentPlaced facts r = false := by
  have hnone : ∀ (field : String) {streams : List RemuxStreamRef},
      (streams.find? (attachmentPlaced facts)).map (field, ·) = none ↔
        ∀ r ∈ streams, attachmentPlaced facts r = false := by
    simp
  unfold rejectAttachmentPlacements
  simp only [← hnone ""]
  split
  case h_1 =>
    refine iff_of_false nofun fun _ => ?_
    simp_all
  case h_2 =>
    simp_all

section Sorted
variable (hsort : InOrder facts) (hids : UniqueIds facts)

include hids in
theorem keptTargetStreams_ids {target : TrackTarget} :
    UniqueIds (keptTargetStreams facts keepIds target) :=
  hids.sublist (filter_sublist.map _)

include hsort

theorem actionRefs_spec (h : actionRefs facts keepIds e = .ok refs) :
    ActionRefs (keptTargetStreams facts keepIds e.target) e refs := by
  cases e with
  | resolved target =>
    obtain ⟨_, hsel, heq⟩ := bind_ok.mp h
    cases heq
    obtain ⟨hmem, rfl, hkept, hkind⟩ := resolvedKeptStream_ok hsel
    exact .selects (mem_keptTargetStreams.mpr ⟨hmem, hkind target rfl, hkept⟩) fun _ => rfl
  | first target =>
    have hmin : minByIndex (keptTargetStreams facts keepIds target) = _ :=
      minByIndex_eq_head? (hsort.filter _)
    rw [actionRefs, hmin] at h
    rw [EffectiveDefaultAction.target]
    cases hkept : keptTargetStreams facts keepIds target with
    | nil =>
      rw [hkept] at h
      cases h
      exact .clears fun _ => rfl
    | cons =>
      rw [hkept] at h
      cases h
      exact .selects mem_cons_self fun s => congrArg _ (decide_eq_decide.mpr eq_comm)
  | none =>
    cases h
    exact .clears fun _ => rfl
  | preserve =>
    cases h
    exact .preserves rfl

/-- An action names streams of its target only. -/
theorem actionRefs_target (h : actionRefs facts keepIds e = .ok refs) (hr : r ∈ flagged v refs) :
    ∃ s ∈ keptTargetStreams facts keepIds e.target, r = streamRef s := by
  cases actionRefs_spec hsort h with
  | @selects selected hmem =>
    cases v with
    | true => exact ⟨selected, hmem, mem_singleton.mp hr⟩
    | false =>
      obtain ⟨s, hs, rfl⟩ := mem_map.mp hr
      exact ⟨s, (mem_filter.mp hs).1, rfl⟩
  | clears =>
    cases v with
    | true => cases hr
    | false =>
      obtain ⟨s, hs, rfl⟩ := mem_map.mp hr
      exact ⟨s, hs, rfl⟩
  | preserves =>
    obtain ⟨s, hs, rfl, -⟩ := mem_preservedRefs hr
    exact ⟨s, hs, rfl⟩

/-- A stream in one of the lists is named by an action on its kind. -/
theorem action_of_defaultRefs (h : defaultRefs facts keepIds effective = .ok refs)
    (hr : r ∈ flagged v refs) :
    ∃ e ∈ allActions effective, ∃ part, actionRefs facts keepIds e = .ok part ∧
      r ∈ flagged v part ∧ ∃ s ∈ keptTargetStreams facts keepIds e.target, r = streamRef s := by
  obtain ⟨_, hparts, hlist⟩ := defaultRefs_parts h
  obtain ⟨part, hpart, hr⟩ := mem_flatMap.mp ((dedupeRefs_spec _).1 r (hlist v ▸ hr))
  obtain ⟨e, he, hrefs⟩ := (mapM_ok_mem hparts).2 part hpart
  exact ⟨e, he, part, hrefs, hr, actionRefs_target hsort hrefs hr⟩

/-- The streams whose flags are set or cleared are kept ones. -/
theorem defaultRefs_kept (h : defaultRefs facts keepIds effective = .ok refs)
    (hr : r ∈ flagged v refs) : ∃ s ∈ facts, s.snapshotStreamId ∈ keepIds ∧ r = streamRef s := by
  obtain ⟨_, -, _, -, -, s, hs, rfl⟩ := action_of_defaultRefs hsort h hr
  obtain ⟨hmem, -, hkept⟩ := mem_keptTargetStreams.mp hs
  exact ⟨s, hmem, hkept, rfl⟩

include hids

theorem actionRefs_outcome (h : actionRefs facts keepIds e = .ok refs)
    (hs : s ∈ keptTargetStreams facts keepIds e.target) :
    flagBy refs s = e.outcome (keptTargetStreams facts keepIds e.target) s := by
  cases actionRefs_spec hsort h with
  | selects hmem hout =>
    rw [hout]
    exact flagBy_select (keptTargetStreams_ids hids) hmem hs
  | clears hout =>
    unfold flagBy
    rw [hout, if_neg not_mem_nil, if_pos (mem_map_of_mem hs)]
  | preserves he =>
    refine (flagBy_preserved (keptTargetStreams_ids hids) hs).trans ?_
    rw [he]
    rfl

/-- An action does not clear what it sets. -/
theorem actionRefs_disjoint (h : actionRefs facts keepIds e = .ok refs) :
    refs.1.Disjoint refs.2 := by
  cases actionRefs_spec hsort h with
  | selects hmem =>
    intro r hset hclear
    obtain rfl := mem_singleton.mp hset
    exact of_decide_eq_true ((streamRef_mem_filter (keptTargetStreams_ids hids) hmem).mp hclear) rfl
  | clears => exact disjoint_nil_left _
  | preserves => exact preservedRefs_disjoint (keptTargetStreams_ids hids)

section Part
variable {part : List RemuxStreamRef × List RemuxStreamRef}
  (hpart : actionRefs facts keepIds e = .ok part)
  (h : defaultRefs facts keepIds effective = .ok refs)
  (he : e ∈ allActions effective)
include hpart h he

/-- What an action names is in the list. -/
theorem mem_defaultRefs (hs : s ∈ facts) (hmem : streamRef s ∈ flagged v part) :
    streamRef s ∈ flagged v refs := by
  obtain ⟨_, hparts, hlist⟩ := defaultRefs_parts h
  obtain ⟨_, hin, hpart'⟩ := (mapM_ok_mem hparts).1 e he
  obtain rfl := ok_unique hpart hpart'
  obtain ⟨r, hr, hid⟩ := mem_map.mp ((dedupeRefs_spec _).2 _ (mem_flatMap.mpr ⟨part, hin, hmem⟩))
  rw [← hlist] at hr
  obtain ⟨_, hs', -, rfl⟩ := defaultRefs_kept hsort h hr
  rwa [inj_on_of_nodup_map hids hs' hs hid] at hr

/-- The only action of a target decides what is named of it. -/
theorem mem_defaultRefs_iff
    (halone : ∀ e' ∈ allActions effective, e'.target = e.target → e' = e)
    (hs : s ∈ keptTargetStreams facts keepIds e.target) :
    streamRef s ∈ flagged v refs ↔ streamRef s ∈ flagged v part := by
  obtain ⟨hsf, hkind, -⟩ := mem_keptTargetStreams.mp hs
  refine ⟨fun hr => ?_, mem_defaultRefs hsort hids hpart h he hsf⟩
  obtain ⟨e', he', _, hpart', hr, _, hs', href⟩ := action_of_defaultRefs hsort h hr
  obtain ⟨hsf', hkind', -⟩ := mem_keptTargetStreams.mp hs'
  obtain rfl := inj_on_of_nodup_map hids hsf hsf' (streamRef_inj href)
  obtain rfl := halone e' he' (hkind'.symm.trans hkind)
  rwa [ok_unique hpart hpart']

omit hpart he

/-- An action that is the only one of its target has its outcome. -/
theorem defaultRefs_outcome (halone : ∀ e' ∈ effective, e'.target = e.target → e' = e)
    (he : e ∈ effective) (hs : s ∈ keptTargetStreams facts keepIds e.target) :
    flagBy refs s = e.outcome (keptTargetStreams facts keepIds e.target) s := by
  have hall : e ∈ allActions effective := mem_append_left _ he
  obtain ⟨_, hpart⟩ := part_of_defaultRefs h hall
  have hiff := fun value => mem_defaultRefs_iff (v := value) hsort hids hpart h hall
    (alone_allActions hall fun _ => halone) hs
  have hflag : ∀ refs, flagBy refs s = if streamRef s ∈ flagged true refs then .value true
      else if streamRef s ∈ flagged false refs then .value false else s.isDefault := fun _ => rfl
  rw [← actionRefs_outcome hsort hids hpart hs, hflag, hflag]
  simp only [hiff]

end Part
end Sorted
end Outcome

/-! ## What is selected -/

open RemuxPlanner (survivors ofKind)

/-- The head streams are the one stream that is named, if any. -/
def HeadOf (kept : List SnapshotStreamFact) (head : Option String)
    (heads : List RemuxStreamRef) : Prop :=
  match head with
  | none => heads = []
  | some id => ∃ s ∈ kept, s.snapshotStreamId = id ∧ heads = [streamRef s]

/-- What a selection says about the streams the payload keeps. -/
structure SelectedFrom (payload : RemuxOperationPayload) (kept : List SnapshotStreamFact)
    (selection : RemuxSelection) : Prop where
  keep : selection.keepStreams = kept.map streamRef
  order : selection.trackOrder = payload.trackOrder
  head : HeadOf kept payload.headSnapshotStreamId selection.headStreams
  audio_head : payload.audioHeadSnapshotStreamId = none → selection.audioHeadStream = none
  flagged : ∀ r, r ∈ selection.defaultStreams ∨ r ∈ selection.clearDefaultStreams →
    ∃ s ∈ kept, r = streamRef s
  outcome : ∀ action ∈ payload.defaults, ∃ e, EffectiveOf action e ∧
    ∀ s ∈ ofKind action.target kept,
      flagBy (selection.defaultStreams, selection.clearDefaultStreams) s =
        e.outcome (ofKind action.target kept) s

section Kept
variable {actions : List RemuxTrackAction} {facts kept : List SnapshotStreamFact}

/-- Actions on other targets keep a stream. -/
theorem keepsStream_of_untouched {s : SnapshotStreamFact}
    (h : ∀ action ∈ actions, s.kind ≠ action.target) : keepsStream actions s = true := by
  unfold keepsStream
  induction actions with
  | nil => rfl
  | cons _ _ ih =>
    obtain ⟨haction, hrest⟩ := forall_mem_cons.mp h
    rw [foldl_cons, RemuxTrackAction.keeps, if_neg haction]
    exact ih hrest

/-- The kept ids, those of video streams included, are the ids of the streams the actions
keep. -/
theorem mem_keptIds {keepIds : List String} (hids : UniqueIds facts)
    (hactions : ∀ action ∈ actions, action.target ≠ .video)
    (hkeep : resolveTrackKeepIds facts actions = .ok keepIds) {s : SnapshotStreamFact}
    (hs : s ∈ facts) :
    s.snapshotStreamId ∈ keepIds ++ (facts.filter (·.kind = .video)).map (·.snapshotStreamId) ↔
      keepsStream actions s = true := by
  rw [mem_append, (resolveTrackKeepIds_spec hids hkeep).2 s hs]
  refine ⟨fun h => h.elim id fun hvideo => ?_, .inl⟩
  obtain ⟨_, hs', hid⟩ := mem_map.mp hvideo
  obtain ⟨hs', hkind⟩ := mem_filter.mp hs'
  rw [inj_on_of_nodup_map hids hs' hs hid, decide_eq_true_iff] at hkind
  exact keepsStream_of_untouched fun action ha => hkind ▸ (hactions action ha).symm

theorem headRefs_ok {keepIds : List String} {head : Option String} {heads : List RemuxStreamRef}
    (hkept : ∀ s ∈ facts, s.snapshotStreamId ∈ keepIds → s ∈ kept)
    (h : headRefs facts keepIds head = .ok heads) : HeadOf kept head heads := by
  cases head with
  | none => exact (Except.ok.inj h).symm
  | some =>
    simp only [headRefs, bind_ok, return_ok] at h
    obtain ⟨s, hs, _, -, rfl⟩ := h
    obtain ⟨hmem, rfl, hid, -⟩ := resolvedKeptStream_ok hs
    exact ⟨s, hkept s hmem hid, rfl, rfl⟩

end Kept

/-- What the steps of a selection have found: the facts in source order, the ids of the streams
that are kept and the default actions in effect. -/
structure Selected (payload : RemuxOperationPayload) (facts : List SnapshotStreamFact)
    (keepIds : List String) (effective : List EffectiveDefaultAction)
    (selection : RemuxSelection) : Prop where
  container : payload.container = "mkv"
  ids : (facts.map (·.snapshotStreamId)).Nodup
  sorted : facts.Pairwise fun a b => a.providerStreamIndex < b.providerStreamIndex
  video : ∃ s ∈ facts, s.kind = .video
  videos : ∀ s ∈ facts, s.kind = .video → s.snapshotStreamId ∈ keepIds
  kept : ∀ s ∈ facts, s.snapshotStreamId ∈ keepIds ↔ keepsStream payload.trackActions s = true
  actions : effectiveDefaultActions payload.defaults = .ok effective
  defaults : defaultRefs facts keepIds effective =
    .ok (selection.defaultStreams, selection.clearDefaultStreams)
  heads : headRefs facts keepIds payload.headSnapshotStreamId = .ok selection.headStreams
  audio_head : audioHeadRef facts keepIds payload.audioHeadSnapshotStreamId =
    .ok selection.audioHeadStream
  keep : selection.keepStreams = (facts.filter (·.snapshotStreamId ∈ keepIds)).map streamRef
  order : selection.trackOrder = payload.trackOrder

section Selection
variable {payload : RemuxOperationPayload} {snapshotId : Nat} {snapshot : MediaSnapshotInput}
  {selection : RemuxSelection} {facts : List SnapshotStreamFact}
  (h : selectionFromPayloadAndSnapshot payload snapshotId snapshot = .ok selection)
include h

theorem exists_selected : ∃ facts keepIds effective, streamFacts snapshot = .ok facts ∧
    Selected payload (sortBy (·.providerStreamIndex) facts) keepIds effective selection := by
  simp only [selectionFromPayloadAndSnapshot, bind_ok, require_ok, return_ok, mapError_ok] at h
  obtain ⟨_, hparse, _, -, _, -, facts, hfacts, _, hvideo, _, hactions, _, hkeep, _, -,
    effective, heff, ⟨_, _⟩, hrefs, _, hheads, _, hhead, _, -, rfl⟩ := h
  have hdist := streamFacts_distinct hfacts
  have hids : UniqueIds (sortBy (·.providerStreamIndex) facts) :=
    ((sortBy_perm facts).map _).nodup_iff.mpr hdist.ids
  obtain ⟨_, hcont, -⟩ := bind_ok.mp hparse
  refine ⟨facts, _, effective, hfacts, require_ok.mp hcont, hids,
    sortBy_strict hdist.indexes, hvideo, fun s hs hkind => ?_,
    fun s hs => mem_keptIds hids hactions hkeep hs, heff, hrefs, hheads, hhead, rfl, rfl⟩
  exact mem_append_right _ (mem_map_of_mem (mem_filter.mpr ⟨hs, decide_eq_true hkind⟩))

theorem selection_spec (hfacts : streamFacts snapshot = .ok facts)
    (hone : (payload.defaults.map (·.target)).Nodup) :
    payload.container = "mkv" ∧ (∃ s ∈ survivors payload.trackActions facts, s.kind = .video) ∧
      SelectedFrom payload (survivors payload.trackActions facts) selection := by
  obtain ⟨facts', keepIds, _, hfacts', hs⟩ := exists_selected h
  obtain rfl : facts' = facts := ok_unique hfacts' hfacts
  -- what is kept by id is what the actions keep
  have hsurv : ∀ s ∈ sortBy (·.providerStreamIndex) facts', s.snapshotStreamId ∈ keepIds →
      s ∈ survivors payload.trackActions facts' :=
    fun s hmem hid => mem_filter.mpr ⟨hmem, (hs.kept s hmem).mp hid⟩
  have htgt : ∀ target, keptTargetStreams (sortBy (·.providerStreamIndex) facts') keepIds
      target = ofKind target (survivors payload.trackActions facts') := by
    intro _
    rw [ofKind, survivors, filter_filter]
    refine filter_congr fun s hmem => ?_
    congr 1
    rw [Bool.eq_iff_iff, decide_eq_true_iff, hs.kept s hmem]
  refine ⟨hs.container, ?_, ?_, hs.order, headRefs_ok hsurv hs.heads, fun hnone => ?_,
    fun r hr => ?_, fun action ha => ?_⟩
  · obtain ⟨s, hmem, hkind⟩ := hs.video
    exact ⟨s, hsurv s hmem (hs.videos s hmem hkind), hkind⟩
  · rw [hs.keep]
    congr 1
    refine filter_congr fun s hmem => ?_
    rw [Bool.eq_iff_iff, decide_eq_true_iff, hs.kept s hmem]
  · have haudio := hs.audio_head
    rw [hnone] at haudio
    exact (Except.ok.inj haudio).symm
  · obtain ⟨v, hr⟩ : ∃ v, r ∈ flagged v (selection.defaultStreams, selection.clearDefaultStreams) :=
      hr.elim (⟨true, ·⟩) (⟨false, ·⟩)
    obtain ⟨s, hmem, hkept, rfl⟩ := defaultRefs_kept hs.sorted hs.defaults hr
    exact ⟨s, hsurv s hmem hkept, rfl⟩
  · obtain ⟨honce, heach⟩ := effectiveDefaultActions_spec hone hs.actions
    obtain ⟨e, he, heff⟩ := heach action ha
    refine ⟨e, heff, fun s hmem => ?_⟩
    rw [← heff.target, ← htgt] at hmem ⊢
    exact defaultRefs_outcome hs.sorted hs.ids hs.defaults
      (fun _ he' => inj_on_of_nodup_map honce he' he) he hmem

/-! ## What a selection promises -/

/-- **No stream is both set and cleared** where each target has one default action in effect. -/
theorem selection_defaults_disjoint
    (hone : ∀ effective, effectiveDefaultActions payload.defaults = .ok effective →
      ∀ e ∈ effective, ∀ e' ∈ effective, e'.target = e.target → e' = e) :
    selection.defaultStreams.Disjoint selection.clearDefaultStreams := by
  obtain ⟨_, _, effective, -, hs⟩ := exists_selected h
  intro r hset hclear
  obtain ⟨e, he, _, hpart, hr, s, hmem, rfl⟩ :=
    action_of_defaultRefs (v := true) hs.sorted hs.defaults hset
  have hcleared := (mem_defaultRefs_iff (v := false) hs.sorted hs.ids hpart hs.defaults he
    (alone_allActions he (hone effective hs.actions e)) hmem).mp hclear
  exact actionRefs_disjoint hs.sorted hs.ids hpart hr hcleared

end Selection

end ControlPlaneRemux

def unflagged (id : String) (index : Int) (kind : String) : Json :=
  .object [("id", .string id), ("index", .integer index), ("kind", .string kind),
    ("disposition", .object [("default", .bool false)])]

def fileWith (container : String) (streams : List Json) : MediaSnapshotInput where
  existingMediaSnapshotId := some 1
  container := some container
  streamSummary := .object [("streams", .array streams)]

open ControlPlaneRemux

def twoAudio : MediaSnapshotInput :=
  fileWith "mkv" [unflagged "v" 0 "video", unflagged "a" 1 "audio", unflagged "b" 2 "audio"]

def audioDefaults (defaults : List RemuxDefaultAction) : RemuxOperationPayload :=
  ⟨"mkv", some 1, [], [], none, none, defaults⟩

/-- An explicit selection shadows `first`. -/
theorem explicit_default_disjoint : ∃ selection, selectionFromPayloadAndSnapshot
      (audioDefaults [⟨.audio, .first, none⟩, ⟨.audio, .preserve, some "b"⟩]) 1 twoAudio =
        .ok selection ∧
    selection.defaultStreams.Disjoint selection.clearDefaultStreams := by
  obtain ⟨selection, h, -⟩ := exists_ok (P := fun _ => True) (x := selectionFromPayloadAndSnapshot
      (audioDefaults [⟨.audio, .first, none⟩, ⟨.audio, .preserve, some "b"⟩]) 1 twoAudio)
    (by decide +kernel)
  refine ⟨selection, h, selection_defaults_disjoint h fun effective heffective => ?_⟩
  obtain rfl : [EffectiveDefaultAction.resolved .audio "b"] = effective :=
    Except.ok.inj heffective
  decide

/-- `first` sets what `none` clears. -/
theorem first_and_none_overlap : ∃ selection, selectionFromPayloadAndSnapshot
      (audioDefaults [⟨.audio, .first, none⟩, ⟨.audio, .none, none⟩]) 1 twoAudio =
        .ok selection ∧
    ∃ r ∈ selection.defaultStreams, r ∈ selection.clearDefaultStreams :=
  exists_ok (by decide +kernel)

end Voom
