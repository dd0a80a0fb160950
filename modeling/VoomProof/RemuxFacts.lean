import Mathlib.Data.List.Infix
import VoomProof.CompiledPolicy
import VoomProof.Fallible
import VoomProof.Json
import VoomProof.RustText

/-!
# Stream facts and track filters

`planner/remux/selection.rs` of `voom-plan`: the facts a media snapshot carries about each
stream, the evaluation of a track filter on them, and the streams that a list of keep and
remove actions leaves.

A filter fails closed: a fact it needs that is missing or has the wrong type is an error,
except where a disjunction is decided without it.
-/

namespace Voom
open Fallible RustText List

/-- Presence and validity of a fact. -/
inductive SnapshotFact (α : Type) where
  | missing
  | malformed
  | value (a : α)
  deriving DecidableEq

structure SnapshotStreamFact where
  snapshotStreamId : String
  providerStreamIndex : Nat
  kind : TrackTarget
  codecName : Option String
  language : SnapshotFact String
  channels : Option Nat
  title : Option String
  mimeType : Option String
  filename : Option String
  attachedPicture : Bool
  commentary : SnapshotFact Bool
  isDefault : SnapshotFact Bool
  isForced : SnapshotFact Bool
  deriving DecidableEq

/-- The operation whose filter has to select one stream. -/
inductive RemuxFilterOperation where
  | defaults (target : TrackTarget)
  | orderTracks
  deriving DecidableEq

inductive RemuxPlanningBlock where
  | insufficientSnapshotFacts
  | unsupportedMediaShape
  | emptyTrackFilterSelection (operation : RemuxFilterOperation)
  | ambiguousTrackFilterSelection (operation : RemuxFilterOperation) (matchCount : Nat)
  | conflictingExplicitDefaults (target : TrackTarget)
  | conflictingBestDefaultStrategies (target : TrackTarget)
  deriving DecidableEq

/-! ## Facts of a snapshot -/

/-- What planning a remux reads of a snapshot. -/
structure MediaSnapshotInput where
  existingMediaSnapshotId : Option Nat
  container : Option String
  streamSummary : Json

namespace StreamFacts

def requiredString (value : Option Json) : Except RemuxPlanningBlock String :=
  find ((value.bind Json.asStr).filter (!blank ·)) .insufficientSnapshotFacts

def optionalStringFact : Option Json → SnapshotFact String
  | some (.string value) => .value value
  | some .null | none => .missing
  | some _ => .malformed

def dispositionFact (disposition : Option Json) (key : String) : SnapshotFact Bool :=
  match disposition with
  | none | some .null => .missing
  | some (.object fields) =>
      match fields.lookup key with
      | some (.bool value) => .value value
      | some .null | none => .missing
      | some _ => .malformed
  | some _ => .malformed

/-- Image attachments probed before `attached_pic` was recorded. -/
def legacyMatroskaImage (codecName mimeType filename : Option String) : Bool :=
  codecName.any (· ∈ ["mjpeg", "png", "gif", "tiff"]) && filename.isSome &&
    mimeType.any fun mimeType => "image/".toList.isPrefixOf mimeType.toList

def isCoverArt (stream : Json) : Bool :=
  (stream.get "kind").bind Json.asStr = some "video" &&
    (((stream.get "disposition").bind (·.get "attached_pic")).bind Json.asBool = some true ||
      legacyMatroskaImage ((stream.get "codec_name").bind Json.asStr)
        ((stream.get "mime_type").bind Json.asStr) ((stream.get "filename").bind Json.asStr))

/-- Cover art is reported as video and carried as an attachment. -/
def streamKind (kind : String) (coverArt : Bool) : Except RemuxPlanningBlock TrackTarget :=
  match kind with
  | "video" => .ok (if coverArt then .attachment else .video)
  | "audio" => .ok .audio
  | "subtitle" => .ok .subtitle
  | "attachment" => .ok .attachment
  | _ => .error .insufficientSnapshotFacts

def attachedPicture (disposition : Option Json) : Except RemuxPlanningBlock Bool :=
  match dispositionFact disposition "attached_pic" with
  | .value value => .ok value
  | .missing => .ok false
  | .malformed => .error .insufficientSnapshotFacts

/-- The facts of one stream, after those of the streams `before` it. -/
def streamFact (before : List SnapshotStreamFact) (stream : Json) :
    Except RemuxPlanningBlock SnapshotStreamFact := do
  let coverArt := isCoverArt stream
  let _ ← find stream.asObject .insufficientSnapshotFacts
  let id ← requiredString (stream.get "id")
  require (∀ b ∈ before, b.snapshotStreamId ≠ id) .insufficientSnapshotFacts
  let index ← find ((stream.get "index").bind (Json.asUnsigned 32)) .insufficientSnapshotFacts
  require (∀ b ∈ before, b.providerStreamIndex ≠ index) .insufficientSnapshotFacts
  let disposition := stream.get "disposition"
  let attachedPicture ← attachedPicture disposition
  let kindName ← requiredString (stream.get "kind")
  let kind ← streamKind kindName coverArt
  return {
    snapshotStreamId := id
    providerStreamIndex := index
    kind := kind
    codecName := (stream.get "codec_name").bind Json.asStr
    language := optionalStringFact (stream.get "language")
    channels := (stream.get "channels").bind (Json.asUnsigned 32)
    title := (stream.get "title").bind Json.asStr
    mimeType := (stream.get "mime_type").bind Json.asStr
    filename := (stream.get "filename").bind Json.asStr
    attachedPicture := attachedPicture
    commentary := dispositionFact disposition "commentary"
    isDefault := dispositionFact disposition "default"
    isForced := dispositionFact disposition "forced" }

def addStream (facts : List SnapshotStreamFact) (stream : Json) :
    Except RemuxPlanningBlock (List SnapshotStreamFact) := do
  let fact ← streamFact facts stream
  return facts ++ [fact]

end StreamFacts

open StreamFacts in
def streamFacts (snapshot : MediaSnapshotInput) :
    Except RemuxPlanningBlock (List SnapshotStreamFact) := do
  let streams ← find ((snapshot.streamSummary.get "streams").bind Json.asArray)
    .insufficientSnapshotFacts
  streams.foldlM addStream []

/-- Streams are told apart by their ids and by their indexes. -/
structure Distinct (facts : List SnapshotStreamFact) : Prop where
  ids : (facts.map (·.snapshotStreamId)).Nodup
  indexes : (facts.map (·.providerStreamIndex)).Nodup

abbrev UniqueIds (facts : List SnapshotStreamFact) : Prop := (facts.map (·.snapshotStreamId)).Nodup

abbrev InOrder (facts : List SnapshotStreamFact) : Prop :=
  facts.Pairwise fun a b => a.providerStreamIndex < b.providerStreamIndex

variable {before facts : List SnapshotStreamFact}

theorem StreamFacts.addStream_distinct {stream : Json} (h : addStream before stream = .ok facts)
    (hbef : Distinct before) : Distinct facts := by
  simp only [addStream, streamFact, bind_ok, require_ok, return_ok] at h
  obtain ⟨_, ⟨_, -, _, -, _, hid, _, -, _, hindex, _, -, _, -, _, -, rfl⟩, rfl⟩ := h
  constructor
  · simpa [nodup_append, hbef.ids] using hid
  · simpa [nodup_append, hbef.indexes] using hindex

/-- Each stream is compared with those before it. -/
theorem streamFacts_distinct {snapshot : MediaSnapshotInput} {facts : List SnapshotStreamFact}
    (h : streamFacts snapshot = .ok facts) : Distinct facts := by
  obtain ⟨_, -, hfold⟩ := bind_ok.mp h
  exact foldlM_invariant (fun _ _ _ => StreamFacts.addStream_distinct) hfold ⟨.nil, .nil⟩

theorem StreamFacts.addStream_nonblank {stream : Json} (h : addStream before stream = .ok facts)
    (hbef : ∀ s ∈ before, blank s.snapshotStreamId = false) :
    ∀ s ∈ facts, blank s.snapshotStreamId = false := by
  simp only [addStream, streamFact, requiredString, bind_ok, find_ok, return_ok] at h
  obtain ⟨_, ⟨_, -, _, hid, _, -, _, -, _, -, _, -, _, -, _, -, rfl⟩, rfl⟩ := h
  obtain ⟨-, hblank⟩ := Option.filter_eq_some_iff.mp hid
  refine forall_mem_append.mpr ⟨hbef, forall_mem_singleton.mpr ?_⟩
  simpa using hblank

/-- Streams with facts have an id. -/
theorem streamFacts_nonblank {snapshot : MediaSnapshotInput}
    (h : streamFacts snapshot = .ok facts) : ∀ s ∈ facts, blank s.snapshotStreamId = false := by
  obtain ⟨_, -, hfold⟩ := bind_ok.mp h
  exact foldlM_invariant (P := fun facts => ∀ s ∈ facts, blank s.snapshotStreamId = false)
    (fun _ _ _ => StreamFacts.addStream_nonblank) hfold (forall_mem_nil _)

/-! ## Track filters -/

def FONT_ATTACHMENT_MIME_TYPES : List String :=
  ["font/sfnt", "font/ttf", "font/otf", "font/collection", "font/woff", "font/woff2",
    "application/x-truetype-font", "application/x-font-ttf", "application/vnd.ms-opentype",
    "application/font-sfnt", "application/font-woff"]

def requiredFact {α : Type} : SnapshotFact α → Except RemuxPlanningBlock α
  | .value a => .ok a
  | .missing | .malformed => .error .insufficientSnapshotFacts

/-- An absent language tag is `und`. -/
def languageOf (stream : SnapshotStreamFact) : Except RemuxPlanningBlock String :=
  match stream.language with
  | .missing => .ok "und"
  | .value language => .ok language
  | .malformed => .error .insufficientSnapshotFacts

def evaluateFontFilter (stream : SnapshotStreamFact) : Except RemuxPlanningBlock Bool :=
  if stream.kind ≠ .attachment ∨ stream.attachedPicture then .ok false
  else do
    let mimeType ← find stream.mimeType .insufficientSnapshotFacts
    return mimeType ∈ FONT_ATTACHMENT_MIME_TYPES

def compareU64 (left : Nat) (op : ComparisonOp) (right : Nat) : Bool :=
  match op with
  | .eq => left = right
  | .ne => left ≠ right
  | .lt => left < right
  | .lte => left ≤ right
  | .gt => right < left
  | .gte => right ≤ left
  | .contains | .matches => false

mutual

def evaluateFilter : TrackFilter → SnapshotStreamFact → Except RemuxPlanningBlock Bool
  | .languageIn values, stream => do
      let language ← languageOf stream
      return language ∈ values
  | .codecIn values, stream => do
      let codecName ← find stream.codecName .insufficientSnapshotFacts
      return codecName ∈ values
  | .channels op value, stream => do
      let channels ← find stream.channels .insufficientSnapshotFacts
      return compareU64 channels op value
  | .commentary, stream => requiredFact stream.commentary
  | .forced, stream => requiredFact stream.isForced
  | .default, stream => requiredFact stream.isDefault
  | .font, stream => evaluateFontFilter stream
  | .titleContains value, stream => do
      let title ← find stream.title .insufficientSnapshotFacts
      return value.toList <:+: title.toList
  | .titleMatches _, _ => .error .unsupportedMediaShape
  | .not inner, stream => do
      let matched ← evaluateFilter inner stream
      return !matched
  | .and filters, stream => evaluateAnd filters stream true
  | .or filters, stream => evaluateOr filters stream false

/-- Every filter is evaluated, also after one that does not match. -/
def evaluateAnd : List TrackFilter → SnapshotStreamFact → Bool → Except RemuxPlanningBlock Bool
  | [], _, matched => .ok matched
  | filter :: rest, stream, matched => do
      let this ← evaluateFilter filter stream
      evaluateAnd rest stream (this && matched)

/-- The first match decides; `insufficient` says if a fact was missing on the way. -/
def evaluateOr : List TrackFilter → SnapshotStreamFact → Bool → Except RemuxPlanningBlock Bool
  | [], _, insufficient =>
      if insufficient then .error .insufficientSnapshotFacts else .ok false
  | filter :: rest, stream, insufficient =>
      match evaluateFilter filter stream with
      | .ok true => .ok true
      | .ok false => evaluateOr rest stream insufficient
      | .error .insufficientSnapshotFacts => evaluateOr rest stream true
      | .error block => .error block

end

mutual

/-- The filter asks for the default disposition. -/
def TrackFilter.mentionsDefault : TrackFilter → Bool
  | .default => true
  | .not inner => inner.mentionsDefault
  | .and filters | .or filters => anyMentionsDefault filters
  | _ => false

def anyMentionsDefault : List TrackFilter → Bool
  | [] => false
  | filter :: rest => filter.mentionsDefault || anyMentionsDefault rest

end

/-- The stream with another place and another default disposition. -/
def SnapshotStreamFact.placed (stream : SnapshotStreamFact) (index : Nat)
    (isDefault : SnapshotFact Bool) : SnapshotStreamFact :=
  { stream with providerStreamIndex := index, isDefault := isDefault }

section Placed
variable {stream : SnapshotStreamFact} {index : Nat} {isDefault : SnapshotFact Bool}

mutual

/-- Filters see neither the place of a stream nor, unless they ask for it, its default
disposition. -/
theorem evaluateFilter_placed : (filter : TrackFilter) → filter.mentionsDefault = false →
    evaluateFilter filter (stream.placed index isDefault) = evaluateFilter filter stream
  | .languageIn _, _ | .codecIn _, _ | .channels _ _, _ | .commentary, _ | .forced, _
  | .font, _ | .titleContains _, _ | .titleMatches _, _ => rfl
  | .default, h => nomatch h
  | .not inner, h => by rw [evaluateFilter, evaluateFilter, evaluateFilter_placed inner h]
  | .and filters, h => by rw [evaluateFilter, evaluateFilter, evaluateAnd_placed filters true h]
  | .or filters, h => by rw [evaluateFilter, evaluateFilter, evaluateOr_placed filters false h]

theorem evaluateAnd_placed : (filters : List TrackFilter) → (matched : Bool) →
    anyMentionsDefault filters = false →
    evaluateAnd filters (stream.placed index isDefault) matched =
      evaluateAnd filters stream matched
  | [], _, _ => rfl
  | filter :: rest, matched, h => by
    obtain ⟨hfilt, hrest⟩ := Bool.or_eq_false_iff.mp h
    rw [evaluateAnd, evaluateFilter_placed filter hfilt]
    congr 1
    exact funext fun this => evaluateAnd_placed rest _ hrest

theorem evaluateOr_placed : (filters : List TrackFilter) → (insufficient : Bool) →
    anyMentionsDefault filters = false →
    evaluateOr filters (stream.placed index isDefault) insufficient =
      evaluateOr filters stream insufficient
  | [], _, _ => rfl
  | filter :: rest, insufficient, h => by
    obtain ⟨hfilt, hrest⟩ := Bool.or_eq_false_iff.mp h
    have hagain := evaluateOr_placed rest insufficient hrest
    have hmissing := evaluateOr_placed rest true hrest
    rw [evaluateOr, evaluateOr, evaluateFilter_placed filter hfilt, hagain, hmissing]

end

end Placed

/-! ## Track actions -/

inductive RemuxTrackActionKind where
  | keepTracks
  | removeTracks
  deriving DecidableEq

structure RemuxTrackAction where
  kind : RemuxTrackActionKind
  target : TrackTarget
  filter : Option TrackFilter

namespace RemuxTrackAction

/-- Whether the action is about a stream of its target. -/
def evaluate (action : RemuxTrackAction) (stream : SnapshotStreamFact) :
    Except RemuxPlanningBlock Bool :=
  match action.filter with
  | some filter => evaluateFilter filter stream
  | none => .ok true

/-- What the action makes of the ids, stream by stream. -/
def applyTo (action : RemuxTrackAction) (keepIds : List String) (stream : SnapshotStreamFact) :
    Except RemuxPlanningBlock (List String) := do
  if ← action.evaluate stream then
    match action.kind with
    | .keepTracks => return stream.snapshotStreamId :: keepIds
    | .removeTracks => return keepIds.filter (· ≠ stream.snapshotStreamId)
  else return keepIds

def apply (facts : List SnapshotStreamFact) (keepIds : List String) (action : RemuxTrackAction) :
    Except RemuxPlanningBlock (List String) :=
  let targetStreams := facts.filter (·.kind = action.target)
  let keepIds := match action.kind with
    | .keepTracks => keepIds.filter (· ∉ targetStreams.map (·.snapshotStreamId))
    | .removeTracks => keepIds
  targetStreams.foldlM action.applyTo keepIds

/-- The action has what it needs to know about the stream. -/
def Evaluable (action : RemuxTrackAction) (stream : SnapshotStreamFact) : Prop :=
  stream.kind = action.target → ∃ matched, action.evaluate stream = .ok matched

/-- Whether a stream is kept after the action, when `kept` says if it was before. -/
def keeps (action : RemuxTrackAction) (stream : SnapshotStreamFact) (kept : Bool) : Bool :=
  if stream.kind = action.target then
    match action.kind with
    | .keepTracks => action.evaluate stream = .ok true
    | .removeTracks => kept && action.evaluate stream ≠ .ok true
  else kept

end RemuxTrackAction

/-- The ids of the streams that the actions keep. -/
def resolveTrackKeepIds (facts : List SnapshotStreamFact) (actions : List RemuxTrackAction) :
    Except RemuxPlanningBlock (List String) :=
  actions.foldlM (RemuxTrackAction.apply facts) (facts.map (·.snapshotStreamId))

/-- Whether a stream is kept, by itself. -/
def keepsStream (actions : List RemuxTrackAction) (stream : SnapshotStreamFact) : Bool :=
  actions.foldl (fun kept action => action.keeps stream kept) true

section Actions
variable {action : RemuxTrackAction} {keepIds keepIds' : List String}
  {streams facts : List SnapshotStreamFact} {actions : List RemuxTrackAction}

/-- The ids after a loop over streams: those of matching streams are added or removed. -/
theorem foldlM_applyTo (h : streams.foldlM action.applyTo keepIds = .ok keepIds') :
    (∀ s ∈ streams, ∃ matched, action.evaluate s = .ok matched) ∧
    ∀ id, id ∈ keepIds' ↔
      match action.kind with
      | .keepTracks => id ∈ keepIds ∨
          ∃ s ∈ streams, action.evaluate s = .ok true ∧ s.snapshotStreamId = id
      | .removeTracks => id ∈ keepIds ∧
          ¬ ∃ s ∈ streams, action.evaluate s = .ok true ∧ s.snapshotStreamId = id := by
  induction streams generalizing keepIds with
  | nil =>
    cases h
    cases action.kind <;> simp
  | cons s _ ih =>
    obtain ⟨_, hnext, hrest⟩ := bind_ok.mp h
    obtain ⟨heval, hmem⟩ := ih hrest
    obtain ⟨matched, hmatch, hnext⟩ := bind_ok.mp hnext
    refine ⟨forall_mem_cons.mpr ⟨⟨matched, hmatch⟩, heval⟩, fun id => ?_⟩
    rw [hmem id]
    cases hkind : action.kind <;> cases matched <;> rw [hkind] at hnext <;> cases hnext <;>
      simp [hmatch]
    · rw [@eq_comm _ id, or_assoc, or_left_comm]
    · rw [@eq_comm _ id, and_assoc]

theorem exists_foldlM_applyTo (h : ∀ s ∈ streams, ∃ matched, action.evaluate s = .ok matched) :
    ∃ keepIds', streams.foldlM action.applyTo keepIds = .ok keepIds' := by
  refine exists_foldlM (fun s hs _ => ?_) keepIds
  obtain ⟨matched, hmatch⟩ := h s hs
  unfold RemuxTrackAction.applyTo
  rw [bind_of_ok hmatch]
  cases matched
  · exact ⟨_, rfl⟩
  · cases action.kind <;> exact ⟨_, rfl⟩

/-- One action decides for each stream by itself. -/
theorem apply_spec (hids : UniqueIds facts)
    (h : RemuxTrackAction.apply facts keepIds action = .ok keepIds') :
    (∀ s ∈ facts, action.Evaluable s) ∧
    ∀ s ∈ facts, s.snapshotStreamId ∈ keepIds' ↔
      action.keeps s (s.snapshotStreamId ∈ keepIds) = true := by
  obtain ⟨hevaluable, hmem⟩ := foldlM_applyTo h
  refine ⟨fun s hs hkind => hevaluable s (mem_filter.mpr ⟨hs, by simpa using hkind⟩), ?_⟩
  intro s hs
  -- an id stands for one stream
  have htarget : s.snapshotStreamId ∈
      (facts.filter (·.kind = action.target)).map (·.snapshotStreamId) ↔
      s.kind = action.target := by
    rw [mem_map]
    constructor
    · rintro ⟨_, hs', hid⟩
      obtain ⟨hs', hkind⟩ := mem_filter.mp hs'
      rw [← inj_on_of_nodup_map hids hs' hs hid]
      simpa using hkind
    · exact fun hkind => ⟨s, mem_filter.mpr ⟨hs, by simpa using hkind⟩, rfl⟩
  have hmatch : (∃ s' ∈ facts.filter (·.kind = action.target),
      action.evaluate s' = .ok true ∧ s'.snapshotStreamId = s.snapshotStreamId) ↔
      s.kind = action.target ∧ action.evaluate s = .ok true := by
    constructor
    · rintro ⟨_, hs', heval, hid⟩
      obtain ⟨hs', hkind⟩ := mem_filter.mp hs'
      rw [← inj_on_of_nodup_map hids hs' hs hid]
      exact ⟨by simpa using hkind, heval⟩
    · rintro ⟨hkind, heval⟩
      exact ⟨s, mem_filter.mpr ⟨hs, by simpa using hkind⟩, heval, rfl⟩
  rw [hmem]
  unfold RemuxTrackAction.keeps
  cases hkind : action.kind with
  | keepTracks =>
    rw [hmatch, mem_filter, decide_eq_true_iff, htarget]
    by_cases htgt : s.kind = action.target <;> simp [htgt]
  | removeTracks =>
    rw [hmatch]
    by_cases htgt : s.kind = action.target <;> simp [htgt]

theorem exists_apply (h : ∀ s ∈ facts, action.Evaluable s) :
    ∃ keepIds', RemuxTrackAction.apply facts keepIds action = .ok keepIds' := by
  refine exists_foldlM_applyTo fun s hs => ?_
  obtain ⟨hs, hkind⟩ := mem_filter.mp hs
  exact h s hs (by simpa using hkind)

/-- The actions that are left, when `kept` says what is kept so far. -/
theorem foldlM_apply_spec {kept : SnapshotStreamFact → Bool} (hids : UniqueIds facts)
    (hkept : ∀ s ∈ facts, s.snapshotStreamId ∈ keepIds ↔ kept s = true)
    (h : actions.foldlM (RemuxTrackAction.apply facts) keepIds = .ok keepIds') :
    (∀ action ∈ actions, ∀ s ∈ facts, action.Evaluable s) ∧
    ∀ s ∈ facts, s.snapshotStreamId ∈ keepIds' ↔
      actions.foldl (fun kept action => action.keeps s kept) (kept s) = true := by
  induction actions generalizing keepIds kept with
  | nil => cases h; exact ⟨fun _ ha => (nomatch ha), hkept⟩
  | cons action _ ih =>
    obtain ⟨next, hnext, hrest⟩ := bind_ok.mp h
    obtain ⟨heval, hmem⟩ := apply_spec hids hnext
    have hnow : ∀ s ∈ facts, s.snapshotStreamId ∈ next ↔ action.keeps s (kept s) = true := by
      intro s hs
      have hsame : decide (s.snapshotStreamId ∈ keepIds) = kept s := by
        rw [Bool.eq_iff_iff, decide_eq_true_iff, hkept s hs]
      rw [hmem s hs, hsame]
    obtain ⟨hlater, hresult⟩ := ih hnow hrest
    exact ⟨forall_mem_cons.mpr ⟨heval, hlater⟩, hresult⟩

/-- The keep set is decided stream by stream. -/
theorem resolveTrackKeepIds_spec (hids : UniqueIds facts)
    (h : resolveTrackKeepIds facts actions = .ok keepIds) :
    (∀ action ∈ actions, ∀ s ∈ facts, action.Evaluable s) ∧
    ∀ s ∈ facts, s.snapshotStreamId ∈ keepIds ↔ keepsStream actions s = true := by
  refine foldlM_apply_spec hids (fun s hs => ?_) h
  exact iff_of_true (mem_map_of_mem hs) rfl

theorem exists_resolveTrackKeepIds (h : ∀ action ∈ actions, ∀ s ∈ facts, action.Evaluable s) :
    ∃ keepIds, resolveTrackKeepIds facts actions = .ok keepIds :=
  exists_foldlM (fun action haction _ => exists_apply (h action haction)) _

end Actions

end Voom
