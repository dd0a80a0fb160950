import VoomProof.RemuxSelection

/-!
# The remux worker

`mkvmerge.rs` of `voom-mkvtoolnix-worker`: the worker turns the selection of the control
plane into an order of the kept streams and into flags of tracks. `remuxedFacts` are the
facts of the file it leaves.

The tracks of the input are known by the provider stream index. Their fingerprints and the
forced flags' effect on the file are left out.
-/

namespace Voom
open Fallible StableOrder List

namespace MkvtoolnixWorker

inductive MkvtoolnixError where
  | configInvalid (message : String)
  deriving DecidableEq

inductive MkvmergeTrackKind where
  | video
  | audio
  | subtitle
  | attachment
  | other
  deriving DecidableEq

def MkvmergeTrackKind.matchesGroup : MkvmergeTrackKind → RemuxTrackGroup → Bool
  | video, .video | audio, .audio | subtitle, .subtitle | attachment, .attachment => true
  | _, _ => false

structure MkvmergeTrack where
  id : Nat
  kind : MkvmergeTrackKind
  deriving DecidableEq

/-- The tracks of the input, by provider stream index. -/
abbrev MkvmergeTrackMapping := Nat → Option MkvmergeTrack

section Worker
variable (selection : RemuxSelection) (mapping : MkvmergeTrackMapping)

def requireTrack (stream : RemuxStreamRef) : Except MkvtoolnixError MkvmergeTrack :=
  find (mapping stream.providerStreamIndex) (.configInvalid
    s!"missing mkvmerge track id for provider stream index {stream.providerStreamIndex}")

/-- Track flags: what is set is not cleared. -/
def flags (set clear : List RemuxStreamRef) : Except MkvtoolnixError (List (Nat × Bool)) := do
  let set ← set.mapM (requireTrack mapping)
  let clear ← clear.mapM (requireTrack mapping)
  let cleared := (clear.map (·.id)).filter (· ∉ set.map (·.id))
  return (set.map fun track => (track.id, true)) ++ cleared.map fun id => (id, false)

def defaultFlags : Except MkvtoolnixError (List (Nat × Bool)) :=
  flags mapping selection.defaultStreams selection.clearDefaultStreams

def forcedFlags : Except MkvtoolnixError (List (Nat × Bool)) :=
  flags mapping selection.forcedStreams selection.clearForcedStreams

/-- Every head is kept, and none is named twice. -/
def validateHeads (before : List RemuxStreamRef) :
    List RemuxStreamRef → Except MkvtoolnixError Unit
  | [] => .ok ()
  | head :: rest => do
      require (head.snapshotStreamId ∉ before.map (·.snapshotStreamId) ∧
          head.providerStreamIndex ∉ before.map (·.providerStreamIndex))
        (.configInvalid "duplicate stream reference in head_streams")
      require (head ∈ selection.keepStreams)
        (.configInvalid "head_streams must be a subset of keep_streams")
      validateHeads (before ++ [head]) rest

def validateHeadRefs : Except MkvtoolnixError Unit :=
  validateHeads selection [] selection.headStreams

def isAudio (stream : RemuxStreamRef) : Bool :=
  (mapping stream.providerStreamIndex).any (·.kind = .audio)

/-- Put `replacements` in the places of the audio streams. -/
def replaceAudio : List RemuxStreamRef → List RemuxStreamRef →
    Except MkvtoolnixError (List RemuxStreamRef)
  | [], _ => .ok []
  | stream :: rest, replacements =>
      if isAudio mapping stream then
        match replacements with
        | [] => .error (.configInvalid "audio head permutation lost a stream")
        | replacement :: replacements => do
            let rest ← replaceAudio rest replacements
            return replacement :: rest
      else do
        let rest ← replaceAudio rest replacements
        return stream :: rest

/-- Move the audio head before the other audio streams. -/
def placeAudioHead (ordered : List RemuxStreamRef) (head : RemuxStreamRef) :
    Except MkvtoolnixError (List RemuxStreamRef) := do
  require (selection.headStreams = [])
    (.configInvalid "global heads and audio head cannot be combined")
  let audio := ordered.filter (isAudio mapping)
  require (head ∈ audio)
    (.configInvalid "audio head must select an exact retained audio stream")
  replaceAudio mapping ordered (head :: audio.erase head)

/-- The passes of the order: each head, the groups, the rest. -/
def orderPasses : List (RemuxStreamRef → Bool) :=
  ((sortBy (·.providerStreamIndex) selection.headStreams).map fun head stream =>
      decide (stream = head)) ++
    (selection.trackOrder.map fun group stream =>
      (mapping stream.providerStreamIndex).any (·.kind.matchesGroup group)) ++ [fun _ => true]

def orderedKeepStreams : Except MkvtoolnixError (List RemuxStreamRef) := do
  let source := sortBy (·.providerStreamIndex) selection.keepStreams
  let _ ← source.mapM (requireTrack mapping)
  validateHeadRefs selection
  let ordered := arrange (·.providerStreamIndex) source (orderPasses selection mapping)
  match selection.audioHeadStream with
  | none => return ordered
  | some head => placeAudioHead selection mapping ordered head

/-- Attachments are placed in no list but the kept ones. -/
def validateAttachmentSelectionBoundaries : Except MkvtoolnixError Unit :=
  let fields := [("default_streams", selection.defaultStreams),
    ("clear_default_streams", selection.clearDefaultStreams),
    ("head_streams", selection.headStreams),
    ("forced_streams", selection.forcedStreams),
    ("clear_forced_streams", selection.clearForcedStreams)]
  match fields.find? fun field =>
      field.2.any fun stream =>
        (mapping stream.providerStreamIndex).any (·.kind = .attachment) with
  | some field => .error (.configInvalid (field.1 ++ " cannot contain attachments"))
  | none => .ok ()

/-- The default flag of a stream in the output.  Attachments are no tracks and are
numbered on their own. -/
def defaultAfter (flags : List (Nat × Bool)) (stream : SnapshotStreamFact) : SnapshotFact Bool :=
  let tracks := (mapping stream.providerStreamIndex).filter (·.kind ≠ .attachment)
  match tracks.bind fun track => flags.lookup track.id with
  | some value => .value value
  | none => stream.isDefault

/-- The facts of the file the worker leaves: the kept streams in their new order, with the
default flags set and cleared. -/
def remuxedFacts (facts : List SnapshotStreamFact) :
    Except MkvtoolnixError (List SnapshotStreamFact) := do
  validateAttachmentSelectionBoundaries selection mapping
  let flags ← defaultFlags selection mapping
  let _ ← forcedFlags selection mapping
  let ordered ← orderedKeepStreams selection mapping
  let streams := ordered.filterMap fun ref =>
    facts.find? (·.snapshotStreamId = ref.snapshotStreamId)
  return streams.mapIdx fun i stream => stream.placed i (defaultAfter mapping flags stream)

end Worker

/-! ## The file that is left -/

def trackKind : TrackTarget → MkvmergeTrackKind
  | .video => .video
  | .audio => .audio
  | .subtitle => .subtitle
  | .attachment => .attachment

/-- The mapping is that of the file with these streams.  Attachments are numbered apart from
the tracks. -/
structure Mirrors (mapping : MkvmergeTrackMapping) (facts : List SnapshotStreamFact) : Prop where
  track : ∀ s ∈ facts, ∃ id, mapping s.providerStreamIndex = some ⟨id, trackKind s.kind⟩
  distinct : ∀ s ∈ facts, ∀ s' ∈ facts, s.kind ≠ .attachment → s'.kind ≠ .attachment →
    ∀ t ∈ mapping s.providerStreamIndex, ∀ t' ∈ mapping s'.providerStreamIndex,
      t.id = t'.id → s = s'

variable {facts : List SnapshotStreamFact}

theorem Mirrors.subset {mapping : MkvmergeTrackMapping} {kept : List SnapshotStreamFact}
    (h : Mirrors mapping facts) (hsub : ∀ s ∈ kept, s ∈ facts) : Mirrors mapping kept :=
  ⟨fun s hs => h.track s (hsub s hs), fun s hs s' hs' => h.distinct s (hsub s hs) s' (hsub s' hs')⟩

/-- Tracks numbered by provider stream index. -/
theorem Mirrors.of_indexes {mapping : MkvmergeTrackMapping} (hdist : Distinct facts)
    (h : ∀ s ∈ facts,
      mapping s.providerStreamIndex = some ⟨s.providerStreamIndex, trackKind s.kind⟩) :
    Mirrors mapping facts := by
  refine ⟨fun s hs => ⟨_, h s hs⟩, fun s hs s' hs' _ _ t ht _ ht' hid => ?_⟩
  rw [h s hs] at ht
  rw [h s' hs'] at ht'
  cases ht
  cases ht'
  exact inj_on_of_nodup_map hdist.indexes hs hs' hid

open ControlPlaneRemux RemuxPlanner

theorem trackKind_eq_attachment {target : TrackTarget} :
    trackKind target = .attachment ↔ target = .attachment := by
  cases target <;> simp [trackKind]

theorem matchesGroup_trackKind (target group : TrackTarget) :
    (trackKind target).matchesGroup (remuxTrackGroup group) = decide (target = group) := by
  cases target <;> cases group <;> rfl

section Left
variable {selection : RemuxSelection} {mapping : MkvmergeTrackMapping}
  {facts kept : List SnapshotStreamFact} {set clear refs ordered : List RemuxStreamRef}
  {flagged : List (Nat × Bool)} {s : SnapshotStreamFact} {payload : RemuxOperationPayload}
  {targets : List TrackTarget}

/-! ### Flags -/

theorem lookup_map_const (ids : List Nat) (value : Bool) (id : Nat) :
    (ids.map fun i => (i, value)).lookup id = if id ∈ ids then some value else none := by
  induction ids with
  | nil => rfl
  | cons i _ ih =>
    rw [map_cons, lookup_cons, ih]
    by_cases h : id = i
    · simp [h]
    · rw [beq_false_of_ne h, if_congr (mem_cons.trans (or_iff_right h)) rfl rfl]

theorem lookup_flags (h : flags mapping set clear = .ok flagged) :
    ∃ setTracks clearTracks, set.mapM (requireTrack mapping) = .ok setTracks ∧
      clear.mapM (requireTrack mapping) = .ok clearTracks ∧
      ∀ id, flagged.lookup id =
        if id ∈ setTracks.map (·.id) then some true
        else if id ∈ clearTracks.map (·.id) then some false else none := by
  simp only [flags, bind_ok, return_ok] at h
  obtain ⟨setTracks, hset, clearTracks, hclear, rfl⟩ := h
  refine ⟨setTracks, clearTracks, hset, hclear, fun id => ?_⟩
  have hids : (setTracks.map fun track => (track.id, true)) =
      (setTracks.map (·.id)).map fun id => (id, true) := by
    rw [map_map]
    rfl
  rw [hids, lookup_append, lookup_map_const, lookup_map_const]
  by_cases hmem : id ∈ setTracks.map (·.id)
  · rw [if_pos hmem, if_pos hmem]
    rfl
  · rw [if_neg hmem, if_neg hmem]
    refine if_congr ?_ rfl rfl
    rw [mem_filter, decide_eq_true_iff]
    exact and_iff_left hmem

/-- Of ordinary streams, the one a track stands for is named by its reference. -/
theorem mem_tracks (hmirr : Mirrors mapping facts) {tracks : List MkvmergeTrack}
    (hrefs : ∀ r ∈ refs, ∃ s ∈ facts, s.kind ≠ .attachment ∧ r = streamRef s)
    (h : refs.mapM (requireTrack mapping) = .ok tracks) (hs : s ∈ facts)
    (hkind : s.kind ≠ .attachment) {track : MkvmergeTrack}
    (htrack : mapping s.providerStreamIndex = some track) :
    track.id ∈ tracks.map (·.id) ↔ streamRef s ∈ refs := by
  obtain ⟨hto, hfrom⟩ := mapM_ok_mem h
  constructor
  · intro hmem
    obtain ⟨track', htrack', hid⟩ := mem_map.mp hmem
    obtain ⟨r, hr, hfound⟩ := hfrom track' htrack'
    obtain ⟨s', hs', hkind', rfl⟩ := hrefs r hr
    rw [hmirr.distinct s hs s' hs' hkind hkind' track htrack track' (find_ok.mp hfound) hid.symm]
    exact hr
  · intro hmem
    obtain ⟨track', htrack', hfound⟩ := hto _ hmem
    have hsame : some track' = some track := (find_ok.mp hfound).symm.trans htrack
    exact mem_map.mpr ⟨track', htrack', congrArg MkvmergeTrack.id (Option.some.inj hsame)⟩

/-- No attachment is placed in a list of flags. -/
theorem not_attachment_of_boundaries
    (h : validateAttachmentSelectionBoundaries selection mapping = .ok ()) {r : RemuxStreamRef}
    (hr : r ∈ selection.defaultStreams ∨ r ∈ selection.clearDefaultStreams) :
    ∀ t ∈ mapping r.providerStreamIndex, t.kind ≠ .attachment := by
  intro t ht hkind
  unfold validateAttachmentSelectionBoundaries at h
  dsimp only at h
  split at h
  · cases h
  next hnone =>
  have hfields := find?_eq_none.mp hnone
  have hany : (mapping r.providerStreamIndex).any (·.kind = .attachment) = true := by
    rw [Option.mem_def.mp ht, Option.any_some, decide_eq_true_iff]
    exact hkind
  rcases hr with hset | hclear
  · refine hfields ("default_streams", selection.defaultStreams) (by simp) ?_
    exact any_eq_true.mpr ⟨r, hset, hany⟩
  · refine hfields ("clear_default_streams", selection.clearDefaultStreams) (by simp) ?_
    exact any_eq_true.mpr ⟨r, hclear, hany⟩

/-- The worker flags the streams the selection names, and no others. -/
theorem defaultAfter_eq (hmirr : Mirrors mapping kept)
    (hflagged : ∀ r, r ∈ selection.defaultStreams ∨ r ∈ selection.clearDefaultStreams →
      ∃ s ∈ kept, r = streamRef s)
    (hboundaries : validateAttachmentSelectionBoundaries selection mapping = .ok ())
    (h : defaultFlags selection mapping = .ok flagged) (hs : s ∈ kept) :
    defaultAfter mapping flagged s =
      flagBy (selection.defaultStreams, selection.clearDefaultStreams) s := by
  obtain ⟨id, htrack⟩ := hmirr.track s hs
  have hordinary : ∀ r, r ∈ selection.defaultStreams ∨ r ∈ selection.clearDefaultStreams →
      ∃ s ∈ kept, s.kind ≠ .attachment ∧ r = streamRef s := by
    intro r hr
    obtain ⟨s', hs', rfl⟩ := hflagged r hr
    obtain ⟨_, htrack'⟩ := hmirr.track s' hs'
    refine ⟨s', hs', fun hkind => ?_, rfl⟩
    exact not_attachment_of_boundaries hboundaries hr _ htrack' (trackKind_eq_attachment.mpr hkind)
  unfold defaultAfter flagBy
  by_cases hkind : s.kind = .attachment
  · have hnot : ∀ r, r ∈ selection.defaultStreams ∨ r ∈ selection.clearDefaultStreams →
        r ≠ streamRef s := by
      rintro r hr rfl
      exact not_attachment_of_boundaries hboundaries hr _ htrack (trackKind_eq_attachment.mpr hkind)
    have hset : streamRef s ∉ selection.defaultStreams := fun hmem => hnot _ (.inl hmem) rfl
    have hclear : streamRef s ∉ selection.clearDefaultStreams := fun hmem => hnot _ (.inr hmem) rfl
    rw [if_neg hset, if_neg hclear, htrack, hkind]
    rfl
  · obtain ⟨_, _, hset, hclear, hlookup⟩ := lookup_flags h
    have hset' := mem_tracks hmirr (fun r hr => hordinary r (.inl hr)) hset hs hkind htrack
    have hclear' := mem_tracks hmirr (fun r hr => hordinary r (.inr hr)) hclear hs hkind htrack
    have htracks : (mapping s.providerStreamIndex).filter (·.kind ≠ .attachment) =
        some ⟨id, trackKind s.kind⟩ := by
      rw [htrack, Option.filter_some, if_pos]
      exact decide_eq_true fun heq => hkind (trackKind_eq_attachment.mp heq)
    dsimp only
    rw [htracks, Option.bind_some, hlookup, if_congr hset' rfl rfl, if_congr hclear' rfl rfl]
    by_cases h1 : streamRef s ∈ selection.defaultStreams
    · rw [if_pos h1, if_pos h1]
    · rw [if_neg h1, if_neg h1]
      by_cases h2 : streamRef s ∈ selection.clearDefaultStreams
      · rw [if_pos h2, if_pos h2]
      · rw [if_neg h2, if_neg h2]

/-! ### Order -/

/-- The worker's passes are those of the planner. -/
theorem orderPasses_agree (hids : UniqueIds kept)
    (hmirr : Mirrors mapping kept) (hsel : SelectedFrom payload kept selection)
    (htgts : payload.trackOrder = targets.map remuxTrackGroup) :
    List.Forall₂ (fun p q => ∀ s, s ∈ kept → p s = q s)
      ((orderPasses selection mapping).map (· ∘ streamRef))
      (RemuxPlanner.orderPasses targets payload.headSnapshotStreamId) := by
  unfold orderPasses RemuxPlanner.orderPasses
  rw [map_append, map_append]
  refine rel_append (rel_append ?_ ?_) (.cons (fun _ _ => rfl) .nil)
  · have hhead := hsel.head
    cases hid : payload.headSnapshotStreamId with
    | none =>
      rw [hid] at hhead
      rw [show selection.headStreams = [] from hhead]
      exact .nil
    | some =>
      rw [hid] at hhead
      obtain ⟨head, hmem, rfl, hheads⟩ := hhead
      rw [hheads]
      refine .cons (fun s hs => ?_) .nil
      show decide (streamRef s = streamRef head) = _
      rw [decide_eq_decide]
      refine ⟨streamRef_inj, fun heq => ?_⟩
      rw [inj_on_of_nodup_map hids hs hmem heq]
  · rw [hsel.order, htgts, map_map, map_map, forall₂_map_left_iff,
      forall₂_map_right_iff, forall₂_same]
    intro target _ s hs
    obtain ⟨_, htrack⟩ := hmirr.track s hs
    show (mapping s.providerStreamIndex).any _ = _
    rw [htrack]
    exact matchesGroup_trackKind s.kind target

variable (hdist : Distinct kept) (hsort : InOrder kept)
  (hmirr : Mirrors mapping kept) (hsel : SelectedFrom payload kept selection)
  (htgts : payload.trackOrder = targets.map remuxTrackGroup)
  (haudio : payload.audioHeadSnapshotStreamId = none)
include hdist hsort hmirr hsel htgts haudio

/-- The worker brings the kept streams in the order the planner asks for. -/
theorem orderedKeepStreams_eq (h : orderedKeepStreams selection mapping = .ok ordered) :
    ordered = (gather (RemuxPlanner.orderPasses targets payload.headSnapshotStreamId) kept).map
      streamRef := by
  have hsrc : sortBy (·.providerStreamIndex) selection.keepStreams = kept.map streamRef := by
    rw [hsel.keep]
    exact sortBy_of_pairwise (pairwise_map.mpr (hsort.imp Nat.le_of_lt))
  have hkeys : ((kept.map streamRef).map (·.providerStreamIndex)).Nodup := by
    rw [map_map]
    exact hdist.indexes
  simp only [orderedKeepStreams, bind_ok, hsrc, hsel.audio_head haudio, return_ok] at h
  obtain ⟨_, -, _, -, rfl⟩ := h
  rw [arrange_eq_gather hkeys, gather_map]
  congr 1
  exact gather_congr (orderPasses_agree hdist.ids hmirr hsel htgts) fun _ hs => hs

/-- The file a remux leaves: the kept streams in the order asked for, with the flags of the
selection. -/
theorem remuxedFacts_eq {facts' : List SnapshotStreamFact}
    (hids : UniqueIds facts) (hsub : ∀ s ∈ kept, s ∈ facts)
    (h : remuxedFacts selection mapping facts = .ok facts') :
    facts' = (gather (RemuxPlanner.orderPasses targets payload.headSnapshotStreamId)
      kept).mapIdx fun i s =>
        s.placed i (flagBy (selection.defaultStreams, selection.clearDefaultStreams) s) := by
  simp only [remuxedFacts, bind_ok, return_ok] at h
  obtain ⟨_, hboundaries, flagged, hflagged, _, -, ordered, hord, rfl⟩ := h
  have hmem : ∀ s ∈ gather (RemuxPlanner.orderPasses targets payload.headSnapshotStreamId) kept,
      s ∈ kept := fun s hs => mem_of_mem_gather hs
  have hstreams : (ordered.filterMap fun ref =>
      facts.find? (·.snapshotStreamId = ref.snapshotStreamId)) =
      gather (RemuxPlanner.orderPasses targets payload.headSnapshotStreamId) kept := by
    rw [orderedKeepStreams_eq hdist hsort hmirr hsel htgts haudio hord, filterMap_map]
    refine (filterMap_congr fun s hs => ?_).trans filterMap_some
    exact find?_key hids (hsub s (hmem s hs))
  rw [hstreams]
  refine mapIdx_eq_mapIdx_iff.mpr fun i hi => ?_
  rw [defaultAfter_eq hmirr hsel.flagged hboundaries hflagged (hmem _ (getElem_mem hi))]

end Left

end MkvtoolnixWorker

end Voom
