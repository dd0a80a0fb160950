import VoomProof.RemuxWorker

/-!
# Remuxing until nothing is left to do

A remux is planned from the facts of a file and leaves a file with other facts: streams are
gone, their order and their indexes have changed, default flags are set and cleared. Does
planning the same operations again find nothing to do?

What a remux does not change of a stream is its `content`, and filters and rankings see nothing
else, unless a filter asks for the default flag. So a filter selects the same stream again, and
what is in order stays in order. But `first` and `best` select by source order, and a pinned
head is moved to the front. A second plan changes the default when the head is of the same kind,
was not the stream selected, and does not rank below it; the plan after that changes nothing.
-/

namespace Voom
open Fallible RustText StableOrder CompiledOperation RemuxPlanner ControlPlaneRemux List
open MkvtoolnixWorker (Mirrors remuxedFacts)

/-! ## What a remux does not change -/

def SnapshotStreamFact.content (stream : SnapshotStreamFact) : SnapshotStreamFact :=
  stream.placed 0 .missing

section Content
variable {stream : SnapshotStreamFact} {streams streams' : List SnapshotStreamFact}
  {p : SnapshotStreamFact → Bool} {id : String}

@[simp] theorem content_placed (index : Nat) (isDefault : SnapshotFact Bool) :
    (stream.placed index isDefault).content = stream.content := rfl

section Fields
variable {s s' : SnapshotStreamFact} (h : s.content = s'.content)
include h

theorem id_of_content : s.snapshotStreamId = s'.snapshotStreamId := by
  show s.content.snapshotStreamId = s'.content.snapshotStreamId
  rw [h]

theorem kind_of_content : s.kind = s'.kind := by
  show s.content.kind = s'.content.kind
  rw [h]

theorem language_of_content : s.language = s'.language := by
  show s.content.language = s'.content.language
  rw [h]

end Fields

theorem evaluateFilter_content {filter : TrackFilter} (h : filter.mentionsDefault = false) :
    evaluateFilter filter stream.content = evaluateFilter filter stream :=
  evaluateFilter_placed filter h

/-- Two lists hold the same streams, up to their place, their flag and their order. -/
def SameStreams (streams streams' : List SnapshotStreamFact) : Prop :=
  (streams.map (·.content)).Perm (streams'.map (·.content))

theorem filter_content (hp : ∀ s, p s.content = p s) (streams : List SnapshotStreamFact) :
    (streams.filter p).map (·.content) = (streams.map (·.content)).filter p := by
  rw [filter_map]
  congr 1
  exact filter_congr fun s _ => (hp s).symm

theorem SameStreams.filter (hp : ∀ s, p s.content = p s) (h : SameStreams streams streams') :
    SameStreams (streams.filter p) (streams'.filter p) := by
  unfold SameStreams
  rw [filter_content hp, filter_content hp]
  exact List.Perm.filter p h

section
variable (h : SameStreams streams streams')
include h

theorem SameStreams.ofKind (target : TrackTarget) :
    SameStreams (ofKind target streams) (ofKind target streams') :=
  h.filter fun _ => rfl

theorem SameStreams.eq_nil (hnil : streams' = []) : streams = [] := by
  rw [SameStreams, hnil, map_nil, perm_nil, map_eq_nil_iff] at h
  exact h

theorem SameStreams.ordinary : SameStreams (ordinary streams) (ordinary streams') :=
  h.filter fun _ => rfl

/-- A stream of one list stands for one of the other. -/
theorem SameStreams.exists_mem (hs : stream ∈ streams) :
    ∃ s' ∈ streams', s'.content = stream.content :=
  mem_map.mp ((List.Perm.mem_iff h).mp (mem_map_of_mem hs))

end

theorem selects_content {filter : TrackFilter} (hfilt : filter.mentionsDefault = false) :
    Selects filter (streams.map (·.content)) id ↔ Selects filter streams id := by
  unfold Selects
  rw [forall_mem_map, filter_map, map_map]
  have hmatch : (streams.filter ((fun s => decide (evaluateFilter filter s = .ok true)) ∘
      SnapshotStreamFact.content)) =
      streams.filter fun s => decide (evaluateFilter filter s = .ok true) :=
    filter_congr fun s _ => by rw [Function.comp_apply, evaluateFilter_content hfilt]
  rw [hmatch]
  refine and_congr (forall_congr' fun s => ?_) Iff.rfl
  rw [evaluateFilter_content hfilt]

theorem selects_perm {filter : TrackFilter} (h : streams.Perm streams')
    (hsel : Selects filter streams id) : Selects filter streams' id := by
  obtain ⟨heval, hone⟩ := hsel
  refine ⟨fun s hs => heval s (h.mem_iff.mpr hs), ?_⟩
  have hperm := (h.filter (evaluateFilter filter · = .ok true)).map (·.snapshotStreamId)
  rw [hone] at hperm
  exact singleton_perm.mp hperm |>.symm

/-- A filter that does not ask for the default flag selects the same stream again. -/
theorem SameStreams.selects {filter : TrackFilter} (hfilt : filter.mentionsDefault = false)
    (h : SameStreams streams streams') (hsel : Selects filter streams id) :
    Selects filter streams' id :=
  (selects_content hfilt).mp (selects_perm h ((selects_content hfilt).mpr hsel))

theorem selects_unique {filter : TrackFilter} {id' : String} (h : Selects filter streams id)
    (h' : Selects filter streams id') : id = id' :=
  singleton_inj.mp (h.2.symm.trans h'.2)

theorem SameStreams.ranked {languages : List String} (h : SameStreams streams streams')
    (hranked : Ranked languages streams) : Ranked languages streams' := by
  intro hne _ hs'
  obtain ⟨s, hs, hcont⟩ := SameStreams.exists_mem h.symm hs'
  rw [← language_of_content hcont]
  exact hranked hne s hs

end Content

/-- The filter of an operation of a remux. -/
def CompiledOperation.trackFilter? : CompiledOperation → Option TrackFilter
  | keepTracks _ filter | removeTracks _ filter | setDefaults _ _ filter
  | reorderTracks _ filter => filter
  | _ => none

/-- No filter of the group asks for the default flag. -/
def DefaultBlind (operations : List CompiledOperation) : Prop :=
  ∀ operation ∈ operations, ∀ filter ∈ operation.trackFilter?, filter.mentionsDefault = false

section Blind
variable {operations : List CompiledOperation}

section
variable (h : DefaultBlind operations)
include h

theorem DefaultBlind.filterMap {α : Type} {pick : CompiledOperation → Option α}
    {filterOf : α → Option TrackFilter}
    (hpick : ∀ operation a, pick operation = some a → operation.trackFilter? = filterOf a) :
    ∀ a ∈ operations.filterMap pick, ∀ filter ∈ filterOf a, filter.mentionsDefault = false := by
  intro a ha filter hfilt
  obtain ⟨operation, hmem, heq⟩ := mem_filterMap.mp ha
  exact h operation hmem filter (hpick operation a heq ▸ hfilt)

theorem DefaultBlind.trackAction :
    ∀ action ∈ operations.filterMap trackAction?, ∀ filter ∈ action.filter,
      filter.mentionsDefault = false :=
  h.filterMap fun operation _ heq => by cases operation <;> cases heq <;> rfl

theorem DefaultBlind.defaults :
    ∀ op ∈ operations.filterMap defaults?, ∀ filter ∈ op.filter,
      filter.mentionsDefault = false :=
  h.filterMap fun operation _ heq => by cases operation <;> cases heq; rfl

theorem DefaultBlind.reorder :
    ∀ order ∈ operations.filterMap reorder?, ∀ filter ∈ order.2,
      filter.mentionsDefault = false :=
  h.filterMap fun operation _ heq => by cases operation <;> cases heq; rfl

end

end Blind

/-! ## Actions on content -/

section TrackActions
variable {action : RemuxTrackAction} {actions : List RemuxTrackAction} {s s' : SnapshotStreamFact}

theorem evaluate_of_content (hblind : ∀ filter ∈ action.filter, filter.mentionsDefault = false)
    (h : s.content = s'.content) : action.evaluate s = action.evaluate s' := by
  unfold RemuxTrackAction.evaluate
  cases hfilt : action.filter with
  | none => rfl
  | some filter =>
    have hf := hblind filter hfilt
    dsimp only
    rw [← evaluateFilter_content hf, h, evaluateFilter_content hf]

theorem evaluable_of_content (hblind : ∀ filter ∈ action.filter, filter.mentionsDefault = false)
    (h : s.content = s'.content) (heval : action.Evaluable s) : action.Evaluable s' := by
  intro hkind
  rw [← evaluate_of_content hblind h]
  exact heval ((kind_of_content h).trans hkind)

theorem keepsStream_of_content
    (hblind : ∀ action ∈ actions, ∀ filter ∈ action.filter, filter.mentionsDefault = false)
    (h : s.content = s'.content) : keepsStream actions s = keepsStream actions s' := by
  unfold keepsStream
  generalize true = kept
  induction actions generalizing kept with
  | nil => rfl
  | cons action _ ih =>
    obtain ⟨hfirst, hrest⟩ := forall_mem_cons.mp hblind
    have hkeeps : action.keeps s kept = action.keeps s' kept := by
      unfold RemuxTrackAction.keeps
      rw [kind_of_content h, evaluate_of_content hfirst h]
    rw [foldl_cons, foldl_cons, hkeeps, ih hrest]

end TrackActions

/-! ## What an operation makes of the default flags -/

/-- An operation that selects by source order. -/
def Ranks (op : DefaultsOperation) : Prop :=
  op.filter = none ∧ (op.strategy = .first ∨ op.strategy = .best)

/-- The rank by which a strategy selects; of equal ones the first is taken. -/
def defaultRank (languages : List String) : DefaultStrategy → SnapshotStreamFact → Nat
  | .best => languageRank languages
  | _ => fun _ => 0

section Outcome
variable {languages : List String} {streams streams' : List SnapshotStreamFact}
  {op : DefaultsOperation} {action action' : RemuxDefaultAction} {e e' : EffectiveDefaultAction}

theorem defaultRank_content (strategy : DefaultStrategy) :
    defaultRank languages strategy ∘ SnapshotStreamFact.content =
      defaultRank languages strategy := by
  cases strategy <;> rfl

/-- Such an operation makes the first stream of the smallest rank the default. -/
theorem outcome_of_ranks (hranks : Ranks op)
    (hres : Resolves languages streams op action) (heff : EffectiveOf action e)
    (hne : streams ≠ []) :
    ∃ m, IsFirstMin (defaultRank languages op.strategy) streams m ∧
      ∀ s, e.outcome streams s = .value (s.snapshotStreamId = m.snapshotStreamId) := by
  obtain ⟨_, _, _⟩ := op
  obtain ⟨_, _, selected⟩ := action
  obtain ⟨rfl, hstrat⟩ := hranks
  obtain ⟨rfl, rfl, hsel⟩ := hres
  obtain ⟨_, hclass, hinto⟩ := heff
  rcases hstrat with rfl | rfl
  · obtain rfl : selected = none := hsel
    cases hclass
    cases hinto
    obtain ⟨first, _, rfl⟩ := exists_cons_of_ne_nil hne
    refine ⟨first, .of_head fun b _ => Nat.le_refl 0, fun s => ?_⟩
    simp [EffectiveDefaultAction.outcome, eq_comm]
  · obtain ⟨m, hmin, rfl⟩ := hsel
    cases hclass
    cases hinto
    exact ⟨m, hmin, fun s => rfl⟩

/-- Other operations make the same of the same streams, or keep the flags. -/
theorem outcome_of_not_ranks (hranks : ¬ Ranks op)
    (hsame : ∀ filter ∈ op.filter, ∀ id, Selects filter streams id → Selects filter streams' id)
    (hres : Resolves languages streams op action) (heff : EffectiveOf action e)
    (hres' : Resolves languages streams' op action') (heff' : EffectiveOf action' e') :
    (∃ wanted : String → Bool, (∀ s, e.outcome streams s = .value (wanted s.snapshotStreamId)) ∧
        ∀ s, e'.outcome streams' s = .value (wanted s.snapshotStreamId)) ∨
      ∀ s, e'.outcome streams' s = s.isDefault := by
  obtain ⟨_, _, filter⟩ := op
  obtain ⟨_, _, selected₁⟩ := action
  obtain ⟨_, strategy₂, selected₂⟩ := action'
  obtain ⟨rfl, rfl, hsel⟩ := hres
  obtain ⟨rfl, rfl, hsel'⟩ := hres'
  obtain ⟨_, hclass, hinto⟩ := heff
  obtain ⟨_, hclass', hinto'⟩ := heff'
  cases filter with
  | some filter =>
    obtain ⟨id, hid, rfl⟩ := hsel
    obtain ⟨id', hid', rfl⟩ := hsel'
    obtain rfl : id = id' := selects_unique (hsame filter rfl id hid) hid'
    refine .inl ⟨(· = id), ?_⟩
    cases strategy₂ <;> cases hclass <;> cases hclass' <;> cases hinto <;> cases hinto' <;>
      exact ⟨fun s => rfl, fun s => rfl⟩
  | none =>
    cases strategy₂ with
    | first => exact absurd ⟨rfl, .inl rfl⟩ hranks
    | best => exact absurd ⟨rfl, .inr rfl⟩ hranks
    | none =>
      obtain rfl : selected₁ = none := hsel
      obtain rfl : selected₂ = none := hsel'
      cases hclass
      cases hclass'
      cases hinto
      cases hinto'
      exact .inl ⟨fun _ => false, fun s => rfl, fun s => rfl⟩
    | preserve =>
      obtain rfl : selected₂ = none := hsel'
      cases hclass'
      cases hinto'
      exact .inr fun s => rfl

/-- An operation that could be carried out once can be carried out again. -/
theorem exists_effectiveOf (hres : Resolves languages streams op action)
    (heff : EffectiveOf action e) (hres' : Resolves languages streams' op action') :
    ∃ e', EffectiveOf action' e' := by
  obtain ⟨_, _, filter⟩ := op
  obtain ⟨_, _, _⟩ := action
  obtain ⟨_, strategy₂, selected₂⟩ := action'
  obtain ⟨rfl, rfl, hsel⟩ := hres
  obtain ⟨rfl, rfl, hsel'⟩ := hres'
  obtain ⟨_, hclass, _⟩ := heff
  cases filter with
  | some =>
    obtain ⟨_, -, rfl⟩ := hsel
    obtain ⟨_, -, rfl⟩ := hsel'
    cases strategy₂ <;> cases hclass <;> exact ⟨_, _, rfl, rfl⟩
  | none =>
    cases strategy₂ with
    | best =>
      obtain ⟨m, -, rfl⟩ := hsel'
      exact ⟨_, _, rfl, rfl⟩
    | _ =>
      obtain rfl : selected₂ = none := hsel'
      exact ⟨_, _, rfl, rfl⟩

/-- An action changes the file when some flag is not what the action makes of it. -/
theorem defaultChanges_eq {facts : List SnapshotStreamFact} {keepIds : List String}
    (hkept : ∀ s ∈ facts, s.snapshotStreamId ∈ keepIds) (hsort : InOrder facts)
    (heff : EffectiveOf action e)
    (hfirst : action.strategy = .first → ofKind action.target facts ≠ [])
    (hknown : ∀ s ∈ ofKind action.target facts,
      e.outcome (ofKind action.target facts) s = s.isDefault ∨
        ∃ value, s.isDefault = .value value) :
    defaultChanges facts keepIds action =
      .ok (decide (∃ s ∈ ofKind action.target facts,
        s.isDefault ≠ e.outcome (ofKind action.target facts) s)) := by
  obtain ⟨target, strategy, selected⟩ := action
  have hstreams : (facts.filter fun s => s.kind = target && s.snapshotStreamId ∈ keepIds) =
      ofKind target facts :=
    filter_congr fun s hs => by rw [decide_eq_true (hkept s hs), Bool.and_true]
  have hretained : retainedStreams facts keepIds (some target) = ofKind target facts := by
    rw [← hstreams]
    refine (sortBy_of_pairwise ((hsort.filter _).imp Nat.le_of_lt)).trans ?_
    exact filter_congr fun s _ => Bool.and_comm _ _
  have hdiff : ∀ wanted : SnapshotStreamFact → Bool,
      (∀ s, e.outcome (ofKind target facts) s = .value (wanted s)) →
      flagsDiffer wanted (ofKind target facts) = .ok (decide (∃ s ∈ ofKind target facts,
        s.isDefault ≠ e.outcome (ofKind target facts) s)) := by
    intro wanted hwanted
    rw [flagsDiffer_eq]
    · congr 1
      rw [Bool.eq_iff_iff, any_eq_true, decide_eq_true_iff]
      refine exists_congr fun s => and_congr_right fun _ => ?_
      rw [decide_eq_true_iff, hwanted]
    · intro s hs
      rcases hknown s hs with hout | hvalue
      · exact ⟨wanted s, hout.symm.trans (hwanted s)⟩
      · exact hvalue
  obtain ⟨_, hclass, hinto⟩ := heff
  unfold defaultChanges
  cases selected with
  | some =>
    rw [hstreams]
    cases strategy <;> cases hclass <;> cases hinto <;> exact hdiff _ fun s => rfl
  | none =>
    cases strategy with
    | first =>
      cases hclass
      cases hinto
      obtain ⟨first, _, hcons⟩ := exists_cons_of_ne_nil (hfirst rfl)
      rw [hretained, bind_of_find (a := first) (by rw [hcons]; rfl)]
      refine hdiff _ fun s => ?_
      rw [hcons]
      simp [EffectiveDefaultAction.outcome, eq_comm]
    | none =>
      cases hclass
      cases hinto
      rw [hretained]
      exact hdiff _ fun s => rfl
    | preserve =>
      cases hclass
      cases hinto
      simp [EffectiveDefaultAction.outcome]
    | best =>
      cases hclass
      cases hinto

end Outcome

/-! ## Order -/

section Order
variable {targets : List TrackTarget} {head : Option String}
  {streams : List SnapshotStreamFact} {kind : TrackTarget}

/-- An order looks at content only. -/
theorem gather_content (targets : List TrackTarget) (head : Option String)
    (streams : List SnapshotStreamFact) :
    (gather (orderPasses targets head) streams).map (·.content) =
      gather (orderPasses targets head) (streams.map (·.content)) := by
  have hpasses : (orderPasses targets head).map (· ∘ SnapshotStreamFact.content) =
      orderPasses targets head := by
    unfold orderPasses
    rw [map_append, map_append, map_map, map_map]
    rfl
  rw [gather_map, hpasses]

theorem gather_orderPasses_perm (targets : List TrackTarget) (head : Option String)
    (streams : List SnapshotStreamFact) :
    (gather (orderPasses targets head) streams).Perm streams :=
  gather_perm fun _ _ =>
    ⟨fun _ => true, mem_append_right _ (mem_singleton.mpr rfl), rfl⟩

/-- Streams of one kind stay in source order when none of them is the head. -/
theorem gather_orderPasses_kind (hkind : ∀ s ∈ streams, s.kind = kind)
    (hhead : ∀ s ∈ streams, head ≠ some s.snapshotStreamId) :
    gather (orderPasses targets head) streams = streams := by
  refine gather_of_const (fun p hp => ?_)
    ⟨fun _ => true, mem_append_right _ (mem_singleton.mpr rfl), fun _ _ => rfl⟩
  rcases mem_append.mp hp with hp | hlast
  · rcases mem_append.mp hp with hpin | hgroup
    · obtain ⟨_, hid, rfl⟩ := mem_map.mp hpin
      refine .inr fun s hs => decide_eq_false fun heq => hhead s hs ?_
      rw [heq]
      exact Option.mem_toList.mp hid
    · obtain ⟨target, -, rfl⟩ := mem_map.mp hgroup
      by_cases h : kind = target
      · exact .inl fun s hs => decide_eq_true ((hkind s hs).trans h)
      · exact .inr fun s hs => decide_eq_false fun heq => h ((hkind s hs).symm.trans heq)
  · rw [mem_singleton.mp hlast]
    exact .inl fun _ _ => rfl

/-- The head is moved before the other streams of its kind. -/
theorem gather_orderPasses_head (hids : UniqueIds streams)
    (hkind : ∀ s ∈ streams, s.kind = kind) {h : SnapshotStreamFact} (hmem : h ∈ streams) :
    gather (orderPasses targets (some h.snapshotStreamId)) streams =
      h :: streams.filter (·.snapshotStreamId ≠ h.snapshotStreamId) := by
  have hone : (streams.filter fun s => decide (s.snapshotStreamId = h.snapshotStreamId)) = [h] := by
    have hsame : (streams.filter fun s => decide (s.snapshotStreamId = h.snapshotStreamId)) =
        streams.filter (· == h) := by
      refine filter_congr fun s hs => ?_
      rw [Bool.eq_iff_iff, decide_eq_true_iff, beq_iff_eq]
      exact ⟨inj_on_of_nodup_map hids hs hmem, congrArg _⟩
    rw [hsame, filter_beq, count_eq_one_of_mem hids.of_map hmem]
    rfl
  have hrest : gather (orderPasses targets none)
      (streams.filter fun s => !decide (s.snapshotStreamId = h.snapshotStreamId)) =
      streams.filter fun s => !decide (s.snapshotStreamId = h.snapshotStreamId) :=
    gather_orderPasses_kind (fun s hs => hkind s (mem_filter.mp hs).1) fun s _ hno => (nomatch hno)
  show filter _ _ ++ gather (orderPasses targets none) _ = _
  rw [hone, hrest]
  simp

end Order

/-! ## What source order selects after the head has moved -/

section Pick
variable {targets : List TrackTarget} {head : Option String} {kind : TrackTarget}
  {streams streams' : List SnapshotStreamFact} {rank : SnapshotStreamFact → Nat}
  {m m' : SnapshotStreamFact}

/-- Ranked again, the same stream is selected unless a head that does not rank below it was
put before it. -/
theorem same_pick_iff (hids : UniqueIds streams)
    (hkind : ∀ s ∈ streams, s.kind = kind) (hrank : rank ∘ SnapshotStreamFact.content = rank)
    (hcont : streams'.map (·.content) =
      (gather (orderPasses targets head) streams).map (·.content))
    (hmin : IsFirstMin rank streams m) (hmin' : IsFirstMin rank streams' m') :
    m'.snapshotStreamId = m.snapshotStreamId ↔
      ∀ h ∈ streams, head = some h.snapshotStreamId → h = m ∨ rank m < rank h := by
  -- what is selected after the move, told by content
  have hpick : ∀ x, IsFirstMin rank (gather (orderPasses targets head) streams) x →
      m'.snapshotStreamId = x.snapshotStreamId := by
    intro x hx
    rw [← hrank] at hmin' hx
    have hleft := hmin'.map
    rw [hcont] at hleft
    exact id_of_content (hleft.unique hx.map)
  by_cases hpinned : ∃ h ∈ streams, head = some h.snapshotStreamId
  · obtain ⟨h, hmem, rfl⟩ := hpinned
    rw [gather_orderPasses_head hids hkind hmem] at hpick
    have hfront := hmin.move_front (x := h) (p := fun s =>
      decide (s.snapshotStreamId ≠ h.snapshotStreamId)) fun s hs hno => by
        refine inj_on_of_nodup_map hids hs hmem ?_
        simpa using hno
    by_cases hcond : h = m ∨ rank m < rank h
    · refine iff_of_true (hpick m (hfront.1 hcond)) fun _ hmem' hhead => ?_
      rw [inj_on_of_nodup_map hids hmem' hmem (Option.some.inj hhead).symm]
      exact hcond
    · refine iff_of_false (fun heq => ?_) fun hall => hcond (hall h hmem rfl)
      have hh := (hpick h (hfront.2 hcond)).symm.trans heq
      exact hcond (.inl (inj_on_of_nodup_map hids hmem hmin.mem hh))
  · have hnone : ∀ s ∈ streams, head ≠ some s.snapshotStreamId :=
      fun s hs hhead => hpinned ⟨s, hs, hhead⟩
    rw [gather_orderPasses_kind hkind hnone] at hpick
    exact iff_of_true (hpick m hmin) fun h hmem hhead => absurd hhead (hnone h hmem)

end Pick

/-! ## One remux -/

/-- The head of the order does not stand in the way of an operation that selects by source
order: it is the stream selected, or it ranks below it. -/
def Agrees (languages : List String) (kept : List SnapshotStreamFact)
    (head : Option String) (op : DefaultsOperation) : Prop :=
  ∀ m, IsFirstMin (defaultRank languages op.strategy) (ofKind op.target kept) m →
    ∀ h ∈ ofKind op.target kept, head = some h.snapshotStreamId →
      h = m ∨ defaultRank languages op.strategy m <
        defaultRank languages op.strategy h

/-- What a remux makes of the facts of a file: the kept streams in the order of the payload,
with the flags its actions give them. -/
structure Leaves (operations : List CompiledOperation) (languages : List String)
    (payload : RemuxOperationPayload) (targets : List TrackTarget)
    (flag : SnapshotStreamFact → SnapshotFact Bool)
    (facts kept facts' : List SnapshotStreamFact) : Prop where
  survive : kept = survivors (operations.filterMap trackAction?) facts
  distinct : Distinct facts
  distinct' : Distinct facts'
  evaluable : ∀ action ∈ operations.filterMap trackAction?, ∀ s ∈ facts, action.Evaluable s
  decided : Decided operations languages kept payload.defaults
  first : ∀ action ∈ payload.defaults, action.strategy = .first →
    action.selectedSnapshotStreamId = none → ofKind action.target kept ≠ []
  ordered : Ordered operations kept payload targets
  flagged : ∀ action ∈ payload.defaults, ∃ e, EffectiveOf action e ∧
    ∀ s ∈ ofKind action.target kept, flag s = e.outcome (ofKind action.target kept) s
  left : facts' = (gather (orderPasses targets payload.headSnapshotStreamId) kept).mapIdx
    fun i s => s.placed i (flag s)

namespace Leaves
variable {operations : List CompiledOperation} {languages : List String}
  {payload : RemuxOperationPayload} {targets : List TrackTarget}
  {flag : SnapshotStreamFact → SnapshotFact Bool} {facts kept facts' : List SnapshotStreamFact}
  {x : SnapshotStreamFact} (h : Leaves operations languages payload targets flag facts kept facts')

section Facts
include h

theorem content : facts'.map (·.content) =
    (gather (orderPasses targets payload.headSnapshotStreamId) kept).map (·.content) := by
  rw [h.left]
  refine ext_getElem (by simp) fun i _ _ => ?_
  simp

theorem same : SameStreams kept facts' := by
  unfold SameStreams
  rw [h.content]
  exact ((gather_orderPasses_perm _ _ kept).map _).symm

theorem sorted : InOrder facts' := by
  rw [h.left, InOrder, pairwise_iff_getElem]
  intro i j _ _ hij
  rw [getElem_mapIdx, getElem_mapIdx]
  exact hij

/-- A stream of the file that is left, and the one it was. -/
theorem was (hx : x ∈ facts') : ∃ s ∈ kept, x.content = s.content ∧ x.isDefault = flag s := by
  rw [h.left] at hx
  obtain ⟨i, hi, rfl⟩ := mem_mapIdx.mp hx
  exact ⟨_, mem_of_mem_gather (getElem_mem hi), rfl, rfl⟩

theorem ids : UniqueIds kept := by
  rw [h.survive]
  exact (distinct_survivors h.distinct _).ids

section
variable (hblind : DefaultBlind operations)
include hblind

/-- Everything that was kept is kept again. -/
theorem keeps (hx : x ∈ facts') : keepsStream (operations.filterMap trackAction?) x = true := by
  obtain ⟨s, hs, hcont, -⟩ := h.was hx
  rw [keepsStream_of_content hblind.trackAction hcont]
  rw [h.survive] at hs
  exact (mem_filter.mp hs).2

theorem survive' : survivors (operations.filterMap trackAction?) facts' = facts' := by
  rw [survivors, sortBy_of_pairwise (h.sorted.imp Nat.le_of_lt)]
  exact filter_eq_self.mpr fun x hx => h.keeps hblind hx

theorem evaluable' :
    ∀ action ∈ operations.filterMap trackAction?, ∀ x ∈ facts', action.Evaluable x := by
  intro action ha x hx
  obtain ⟨s, hs, hcont, -⟩ := h.was hx
  rw [h.survive] at hs
  have hfacts : s ∈ facts := mem_sortBy.mp (mem_filter.mp hs).1
  exact evaluable_of_content (hblind.trackAction action ha) hcont.symm
    (h.evaluable action ha s hfacts)

theorem resolvable' :
    ∀ op ∈ operations.filterMap defaults?,
      Resolvable languages (ofKind op.target facts') op := by
  intro op hop
  have hsame := h.same.ofKind op.target
  have hres := h.decided.resolvable op hop
  unfold Resolvable at hres ⊢
  cases hfilt : op.filter with
  | some filter =>
    rw [hfilt] at hres
    obtain ⟨id, hid⟩ := hres
    exact ⟨id, hsame.selects (hblind.defaults op hop filter hfilt) hid⟩
  | none =>
    rw [hfilt] at hres
    cases hstrat : op.strategy with
    | best =>
      rw [hstrat] at hres
      exact hsame.ranked hres
    | first | none | preserve => trivial

end

/-- The streams are in order now. -/
theorem settled : gather (orderPasses targets payload.headSnapshotStreamId) facts' = facts' := by
  have hcont : (gather (orderPasses targets payload.headSnapshotStreamId) facts').map
      (·.content) = facts'.map (·.content) := by
    rw [gather_content, h.content, ← gather_content, gather_gather]
  refine eq_of_map_eq hcont fun a ha b hb heq => ?_
  exact inj_on_of_nodup_map h.distinct'.ids (mem_of_mem_gather ha) hb (id_of_content heq)

theorem content_ofKind (target : TrackTarget) : (ofKind target facts').map (·.content) =
    (gather (orderPasses targets payload.headSnapshotStreamId) (ofKind target kept)).map
      (·.content) := by
  have hkind : ∀ s : SnapshotStreamFact, decide (s.content.kind = target) =
    decide (s.kind = target) := fun _ => rfl
  unfold ofKind
  rw [filter_content hkind, h.content, ← filter_content hkind, gather_filter]

theorem was_ofKind {target : TrackTarget} (hx : x ∈ ofKind target facts') :
    ∃ s ∈ ofKind target kept, x.content = s.content ∧ x.isDefault = flag s := by
  obtain ⟨hmem, hkind⟩ := mem_filter.mp hx
  obtain ⟨s, hs, hcont, hdef⟩ := h.was hmem
  refine ⟨s, mem_filter.mpr ⟨hs, ?_⟩, hcont, hdef⟩
  rw [← kind_of_content hcont]
  exact hkind

section
variable (hblind : DefaultBlind operations)
include hblind

/-- The flags a remux leaves, against what the same operation asks for now. -/
theorem outcome_again {op : DefaultsOperation} (hop : op ∈ operations.filterMap defaults?)
    {action action' : RemuxDefaultAction} {e e' : EffectiveDefaultAction}
    (hres : Resolves languages (ofKind op.target kept) op action) (heff : EffectiveOf action e)
    (hflag : ∀ s ∈ ofKind op.target kept, flag s = e.outcome (ofKind op.target kept) s)
    (hres' : Resolves languages (ofKind op.target facts') op action')
    (heff' : EffectiveOf action' e') :
    (∀ x ∈ ofKind op.target facts', e'.outcome (ofKind op.target facts') x = x.isDefault ∨
      ∃ value, x.isDefault = .value value) ∧
    ((∀ x ∈ ofKind op.target facts', x.isDefault = e'.outcome (ofKind op.target facts') x) ↔
      (Ranks op → Agrees languages kept payload.headSnapshotStreamId op)) := by
  have hsame := h.same.ofKind op.target
  by_cases hnil : ofKind op.target facts' = []
  · have hkept := hsame.eq_nil hnil
    rw [hnil]
    refine ⟨fun x hx => (nomatch hx), iff_of_true (fun x hx => (nomatch hx)) fun _ m hm => ?_⟩
    rw [hkept] at hm
    exact hm.elim
  have hkept : ofKind op.target kept ≠ [] := by
    obtain ⟨x, hx⟩ := exists_mem_of_ne_nil _ hnil
    obtain ⟨s, hs, -⟩ := h.was_ofKind hx
    exact ne_nil_of_mem hs
  by_cases hranks : Ranks op
  · obtain ⟨m, hmin, hout⟩ := outcome_of_ranks hranks hres heff hkept
    obtain ⟨m', hmin', hout'⟩ := outcome_of_ranks hranks hres' heff' hnil
    have hdef : ∀ x ∈ ofKind op.target facts',
        x.isDefault = .value (x.snapshotStreamId = m.snapshotStreamId) := by
      intro x hx
      obtain ⟨s, hs, hcont, hx⟩ := h.was_ofKind hx
      rw [hx, hflag s hs, hout, id_of_content hcont]
    refine ⟨fun x hx => .inr ⟨_, hdef x hx⟩, ?_⟩
    have hids : UniqueIds (ofKind op.target kept) :=
      h.ids.sublist (filter_sublist.map _)
    have hpick := same_pick_iff hids (fun s hs => of_decide_eq_true (mem_filter.mp hs).2)
      (defaultRank_content op.strategy) (h.content_ofKind op.target) hmin hmin'
    constructor
    · intro hall _ x hx
      rw [← hmin.unique hx]
      refine hpick.mp ?_
      have hm' := (hdef m' hmin'.mem).symm.trans (hall m' hmin'.mem)
      rw [hout', SnapshotFact.value.injEq, decide_eq_decide] at hm'
      exact hm'.mpr rfl
    · intro hagrees x hx
      rw [hdef x hx, hout', hpick.mpr (hagrees hranks m hmin)]
  · refine ⟨fun x hx => ?_, iff_of_true (fun x hx => ?_) fun hyes => absurd hyes hranks⟩
    all_goals
      obtain ⟨s, hs, hcont, hx⟩ := h.was_ofKind hx
      rcases outcome_of_not_ranks hranks (fun filter hfilt _ =>
        hsame.selects (hblind.defaults op hop filter hfilt)) hres heff hres' heff'
        with ⟨wanted, hout, hout'⟩ | hpreserve
    · exact .inr ⟨_, hx.trans ((hflag s hs).trans (hout s))⟩
    · exact .inl (hpreserve x)
    · rw [hx, hflag s hs, hout, hout', id_of_content hcont]
    · exact (hpreserve x).symm

/-- Planned again, an action changes nothing just when the head does not stand in the way
of its operation. -/
theorem unchanged_iff {op : DefaultsOperation} (hop : op ∈ operations.filterMap defaults?)
    {action' : RemuxDefaultAction} (hres' : Resolves languages (ofKind op.target facts') op action')
    {keepIds : List String} (hkept : ∀ x ∈ facts', x.snapshotStreamId ∈ keepIds) :
    (∃ differ, defaultChanges facts' keepIds action' = .ok differ) ∧
      (defaultChanges facts' keepIds action' = .ok false ↔
        (Ranks op → Agrees languages kept payload.headSnapshotStreamId op)) := by
  have htgt : action'.target = op.target := hres'.1
  obtain ⟨action, ha, hres⟩ : ∃ action ∈ payload.defaults,
      Resolves languages (ofKind op.target kept) op action := by
    refine (h.decided.of_operation op hop).resolve_left ?_
    rintro ⟨hfilt, hbest, hnil⟩
    obtain ⟨-, -, hsel⟩ := hres'
    rw [hfilt, hbest, SameStreams.eq_nil (h.same.ofKind op.target).symm hnil] at hsel
    obtain ⟨m, hmin, -⟩ := hsel
    exact hmin
  obtain ⟨e, heff, hflag⟩ := h.flagged action ha
  rw [hres.1] at hflag
  obtain ⟨_, heff'⟩ := exists_effectiveOf hres heff hres'
  obtain ⟨hknown, hiff⟩ := h.outcome_again hblind hop hres heff hflag hres' heff'
  have hfirst : action'.strategy = .first → ofKind action'.target facts' ≠ [] := by
    intro hstrat hnil
    have hstrat' : action.strategy = .first :=
      hres.2.1.trans (hres'.2.1.symm.trans hstrat)
    refine h.first action ha hstrat' ?_ ?_
    · exact heff.selected_of_first hstrat'
    · rw [hres.1, ← htgt]
      exact (h.same.ofKind action'.target).eq_nil hnil
  have hchanges := defaultChanges_eq hkept h.sorted heff' hfirst (htgt ▸ hknown)
  refine ⟨⟨_, hchanges⟩, ?_⟩
  rw [hchanges, Except.ok.injEq, decide_eq_false_iff_not, htgt, ← hiff]
  push Not
  exact Iff.rfl

/-- The order that was asked for is there, and the same head is found again. -/
theorem order_again {keepIds : List String}
    (hkeep : resolveTrackKeepIds facts' (operations.filterMap trackAction?) = .ok keepIds) :
    ∃ order, resolveTrackOrder operations facts' keepIds =
      .ok (order, payload.headSnapshotStreamId, false) := by
  obtain ⟨-, hcases⟩ := h.ordered
  cases hreord : operations.filterMap reorder? with
  | nil =>
    rw [hreord] at hcases
    refine ⟨[], ?_⟩
    rw [resolveTrackOrder, hreord, show payload.headSnapshotStreamId = none from hcases]
  | cons first rest =>
    cases rest with
    | cons =>
      rw [hreord] at hcases
      exact hcases.elim
    | nil =>
      obtain ⟨_, headFilter⟩ := first
      rw [hreord] at hcases
      obtain ⟨rfl, hval, hheads⟩ := hcases
      have hsrc : retainedStreams facts' keepIds none = ordinary facts' := by
        rw [retainedStreams_none h.distinct' hkeep, h.survive' hblind]
      have hheads' : Heads headFilter (ordinary facts') payload.headSnapshotStreamId := by
        cases headFilter with
        | none => exact hheads
        | some filter =>
          obtain ⟨id, hid, hhead⟩ := hheads
          have hfilt := hblind.reorder (targets, some filter)
            (hreord ▸ mem_singleton.mpr rfl) filter rfl
          exact ⟨id, h.same.ordinary.selects hfilt hid, hhead⟩
      have hids : UniqueIds (ordinary facts') :=
        h.distinct'.ids.sublist (filter_sublist.map _)
      have hchanged : desiredOrderChanges facts' keepIds targets payload.headSnapshotStreamId =
          false := by
        unfold desiredOrderChanges
        dsimp only
        rw [hsrc, arrange_eq_gather hids, ordinary, gather_filter, h.settled]
        exact decide_eq_false (not_not_intro rfl)
      refine ⟨targets.map remuxTrackGroup, (resolveTrackOrder_ok_iff hreord).mpr ⟨hval, ?_⟩⟩
      exact ⟨_, hsrc.symm ▸ hheads', by rw [hchanged]⟩

/-- Planned again, the operations find nothing to do just when the head does not stand in the
way of a default. -/
theorem resolve_again (hone : ((operations.filterMap defaults?).map (·.target)).Nodup)
    (base : RemuxOperationPayload) (hbase : base.trackActions = operations.filterMap trackAction?) :
    ∃ resolution, resolveTrackOperations facts' operations languages base =
        .ok resolution ∧
      resolution.payload.container = base.container ∧
      (resolution.trackSelectionChanged = false ↔ ∀ op ∈ operations.filterMap defaults?,
        Ranks op → Agrees languages kept payload.headSnapshotStreamId op) := by
  obtain ⟨keepIds, hkeep⟩ := exists_resolveTrackKeepIds (h.evaluable' hblind)
  have hkept : ∀ x ∈ facts', x.snapshotStreamId ∈ keepIds := fun x hx =>
    ((resolveTrackKeepIds_spec h.distinct'.ids hkeep).2 x hx).mpr (h.keeps hblind hx)
  have hretained : ∀ target, retainedStreams facts' keepIds (some target) =
      ofKind target facts' := fun target => by
    rw [retainedStreams_some h.distinct' hkeep, h.survive' hblind]
  obtain ⟨resolved, hresd⟩ : ∃ resolved,
      resolveDefaultActions operations facts' keepIds languages = .ok resolved := by
    refine exists_resolveDefaultActions hone fun op hop => ?_
    rw [streamsFor, hretained]
    exact h.resolvable' hblind op hop
  obtain ⟨-, hfrom, heach⟩ := resolveDefaultActions_spec hone hresd
  simp only [hretained] at hfrom heach
  obtain ⟨_, hchanged, hiff⟩ := defaultsChange_false_iff fun action ha => by
    obtain ⟨_, hop, hres⟩ := hfrom action ha
    exact (h.unchanged_iff hblind hop hres hkept).1
  obtain ⟨_, hord⟩ := h.order_again hblind hkeep
  have hremoved : (facts'.any fun x => x.snapshotStreamId ∉ keepIds) = false := by
    rw [any_eq_false]
    intro x hx
    rw [decide_eq_true_iff]
    exact not_not_intro (hkept x hx)
  obtain ⟨resolution, hresolution, hcont, hsel⟩ :=
    resolveTrackOperations_of (hbase ▸ hkeep) hresd hchanged hord
  refine ⟨resolution, hresolution, hcont, ?_⟩
  rw [hsel, hremoved, Bool.false_or, Bool.or_false, hiff]
  constructor
  · intro hnone op hop hranks
    rcases heach op hop with ⟨-, -, hnil⟩ | ⟨action, ha, hres⟩
    · intro m hmin
      rw [(h.same.ofKind op.target).eq_nil hnil] at hmin
      exact hmin.elim
    · exact (h.unchanged_iff hblind hop hres hkept).2.mp (hnone action ha) hranks
  · intro hall action ha
    obtain ⟨op, hop, hres⟩ := hfrom action ha
    exact (h.unchanged_iff hblind hop hres hkept).2.mpr (hall op hop)

/-- The head is found again. -/
theorem same_head {payload' : RemuxOperationPayload} {targets' : List TrackTarget}
    (hord : Ordered operations facts' payload' targets') :
    payload'.headSnapshotStreamId = payload.headSnapshotStreamId := by
  obtain ⟨-, hcases⟩ := h.ordered
  obtain ⟨-, hcases'⟩ := hord
  split at hcases
  · next hreord =>
    rw [hreord] at hcases'
    exact Eq.trans hcases' hcases.symm
  · next order headFilter hreord =>
    rw [hreord] at hcases'
    obtain ⟨-, -, hheads⟩ := hcases
    obtain ⟨-, -, hheads'⟩ := hcases'
    cases headFilter with
    | none => exact Eq.trans hheads' hheads.symm
    | some filter =>
      obtain ⟨_, hid, hhead⟩ := hheads
      obtain ⟨_, hid', hhead'⟩ := hheads'
      have hfilt := hblind.reorder (order, some filter) (hreord ▸ mem_singleton.mpr rfl) filter rfl
      rw [hhead, hhead', selects_unique (h.same.ordinary.selects hfilt hid) hid']
  · exact hcases.elim

end

/-- The head comes before the other streams of its kind. -/
theorem head_first {target : TrackTarget} (hx : x ∈ ofKind target facts')
    (hhead : payload.headSnapshotStreamId = some x.snapshotStreamId)
    {rank : SnapshotStreamFact → Nat} {m : SnapshotStreamFact}
    (hmin : IsFirstMin rank (ofKind target facts') m) : x = m ∨ rank m < rank x := by
  obtain ⟨s, hs, hcont, -⟩ := h.was_ofKind hx
  have hids : UniqueIds (ofKind target kept) :=
    h.ids.sublist (filter_sublist.map _)
  have hfront := h.content_ofKind target
  rw [hhead, id_of_content hcont, gather_orderPasses_head hids
    (fun s hs => of_decide_eq_true (mem_filter.mp hs).2) hs] at hfront
  obtain ⟨y, _, hcons, hy, -⟩ := map_eq_cons_iff.mp hfront
  have hmem : y ∈ ofKind target facts' := hcons ▸ mem_cons_self
  obtain rfl : y = x := inj_on_of_nodup_map h.distinct'.ids (mem_filter.mp hmem).1
    (mem_filter.mp hx).1 (id_of_content (hy.trans hcont.symm))
  rw [hcons] at hmin
  rcases hmin with ⟨heq, -⟩ | ⟨hlt, -⟩
  · exact .inl heq.symm
  · exact .inr hlt

end Facts

end Leaves

/-! ## Remux after remux -/

/-- A remux of a file: it is planned, its streams are selected, the worker carries it out on a
file whose tracks are those of the snapshot, and a snapshot is taken of what it leaves. -/
structure Remuxes (phaseName : String) (operations : List CompiledOperation)
    (preferredLanguages : List String) (snapshot snapshot' : MediaSnapshotInput) : Prop where
  planned : (planGroup phaseName snapshot operations preferredLanguages).status = .planned
  done : ∃ snapshotId facts selection mapping facts',
    streamFacts snapshot = .ok facts ∧
    selectionFromPayloadAndSnapshot
      (planGroup phaseName snapshot operations preferredLanguages).operationPayload snapshotId
      snapshot = .ok selection ∧
    Mirrors mapping facts ∧ remuxedFacts selection mapping facts = .ok facts' ∧
    streamFacts snapshot' = .ok facts'
  container : snapshot'.container = some "mkv"

/-- The pinned head, if any, does not stand in the way of a default that is selected by source
order. -/
def HeadAgrees (phaseName : String) (operations : List CompiledOperation)
    (preferredLanguages : List String) (snapshot : MediaSnapshotInput) : Prop :=
  ∀ facts, streamFacts snapshot = .ok facts → ∀ op ∈ operations.filterMap defaults?, Ranks op →
    Agrees preferredLanguages (survivors (operations.filterMap trackAction?) facts)
      (planGroup phaseName snapshot operations
        preferredLanguages).operationPayload.headSnapshotStreamId op

section Remuxes
variable {phaseName : String} {operations : List CompiledOperation}
  {preferredLanguages : List String} {snapshot snapshot' : MediaSnapshotInput}
  (hblind : DefaultBlind operations)
  (hone : ((operations.filterMap defaults?).map (·.target)).Nodup)
  (h : Remuxes phaseName operations preferredLanguages snapshot snapshot')
include hone

/-- What a plan that was made says about its payload, with or without track operations. -/
theorem resolved_payload {facts : List SnapshotStreamFact}
    (hfacts : streamFacts snapshot = .ok facts) {resolution : RemuxResolution}
    (h : resolveRemuxOperations snapshot operations preferredLanguages = .ok resolution) :
    ResolvedPayload snapshot operations preferredLanguages facts resolution.payload := by
  rw [resolveRemuxOperations_eq hfacts] at h
  obtain ⟨_, -, h⟩ := bind_ok.mp h
  cases hany : operations.any (·.container?.isNone) with
  | true =>
    rw [hany] at h
    exact resolveTrackOperations_spec (streamFacts_distinct hfacts) hone h
  | false =>
    rw [hany] at h
    cases h
    obtain ⟨hactions, hreord, hdefs⟩ := no_track_operations hany
    obtain ⟨targets, htgts⟩ := baseTrackOrder_eq hreord
    have hnil : (baseRemuxPayload snapshot operations).defaults = [] := by
      rw [baseRemuxPayload, hdefs]
      rfl
    have hnone : ∀ action, action ∉ (baseRemuxPayload snapshot operations).defaults :=
      eq_nil_iff_forall_not_mem.mp hnil
    refine ⟨?_, ⟨hnil ▸ .nil, ?_, fun action ha => absurd ha (hnone action), ?_⟩,
      fun action ha => absurd ha (hnone action), ⟨targets, htgts, ?_⟩, _, _, _, rfl⟩
    · rw [hactions]
      exact fun _ ha => (nomatch ha)
    · rw [hdefs]
      exact fun _ hop => (nomatch hop)
    · rw [hdefs]
      exact fun _ hop => (nomatch hop)
    · rw [hreord]
      rfl

include h

theorem Remuxes.leaves :
    ∃ facts facts' targets flag,
      streamFacts snapshot = .ok facts ∧ streamFacts snapshot' = .ok facts' ∧
      (∃ x ∈ facts', x.kind = .video) ∧
      (baseRemuxPayload snapshot operations).container = "mkv" ∧
      Leaves operations preferredLanguages
        (planGroup phaseName snapshot operations preferredLanguages).operationPayload targets flag
        facts (survivors (operations.filterMap trackAction?) facts) facts' := by
  obtain ⟨resolution, hres, hpay⟩ := planGroup_planned h.planned
  obtain ⟨_, facts, selection, _, facts', hfacts, hselection, hmirr, hremuxed, hfacts'⟩ := h.done
  rw [hpay] at hselection ⊢
  obtain ⟨heval, hdecided, hfirst, ⟨targets, hord⟩, _, _, _, heq⟩ :=
    resolved_payload hone hfacts hres
  have hactions : resolution.payload.trackActions = operations.filterMap trackAction? := by
    rw [heq]
    rfl
  have hcont : resolution.payload.container = (baseRemuxPayload snapshot operations).container := by
    rw [heq]
  have haudio : resolution.payload.audioHeadSnapshotStreamId = none := by
    rw [heq]
    rfl
  obtain ⟨hmkv, ⟨v, hv, hvideo⟩, hsel⟩ := selection_spec hselection hfacts hdecided.targets
  rw [hactions] at hsel hv
  have hdist := streamFacts_distinct hfacts
  have hsub : ∀ s ∈ survivors (operations.filterMap trackAction?) facts, s ∈ facts :=
    fun s hs => mem_sortBy.mp (mem_filter.mp hs).1
  have hleft := MkvtoolnixWorker.remuxedFacts_eq (distinct_survivors hdist _)
    ((sortBy_strict hdist.indexes).filter _) (hmirr.subset hsub) hsel hord.1 haudio
    hdist.ids hsub hremuxed
  have hleaves : Leaves operations preferredLanguages resolution.payload targets
      (flagBy (selection.defaultStreams, selection.clearDefaultStreams)) facts
      (survivors (operations.filterMap trackAction?) facts) facts' :=
    ⟨rfl, hdist, streamFacts_distinct hfacts', heval, hdecided, hfirst, hord, hsel.outcome, hleft⟩
  refine ⟨facts, facts', targets, _, hfacts, hfacts', ?_, hcont ▸ hmkv, hleaves⟩
  obtain ⟨x, hx, hcontent⟩ := hleaves.same.exists_mem hv
  exact ⟨x, hx, (kind_of_content hcontent).trans hvideo⟩

include hblind

/-- Planning again finds nothing to do just when the head does not stand in the way. -/
theorem Remuxes.noOp_iff :
    (planGroup phaseName snapshot' operations preferredLanguages).status = .noOp ↔
      HeadAgrees phaseName operations preferredLanguages snapshot := by
  obtain ⟨facts, _, _, _, hfacts, hfacts', hvideo, hmkv, hleaves⟩ := h.leaves hone
  have hagrees : HeadAgrees phaseName operations preferredLanguages snapshot ↔
      ∀ op ∈ operations.filterMap defaults?, Ranks op →
        Agrees preferredLanguages (survivors (operations.filterMap trackAction?) facts)
          (planGroup phaseName snapshot operations
            preferredLanguages).operationPayload.headSnapshotStreamId op := by
    refine ⟨fun hall => hall facts hfacts, fun hall _ hfacts₂ => ?_⟩
    obtain rfl := ok_unique hfacts hfacts₂
    exact hall
  -- the container is the one asked for, so what counts is the selection
  obtain ⟨resolution, hres, hcont, hiff⟩ : ∃ resolution,
      resolveRemuxOperations snapshot' operations preferredLanguages = .ok resolution ∧
        resolution.payload.container = "mkv" ∧
        (resolution.trackSelectionChanged = false ↔
          HeadAgrees phaseName operations preferredLanguages snapshot) := by
    rw [resolveRemuxOperations_eq hfacts', bind_of_require hvideo]
    cases hany : operations.any (·.container?.isNone) with
    | true =>
      obtain ⟨resolution, hres, hcont, hiff⟩ :=
        hleaves.resolve_again hblind hone (baseRemuxPayload snapshot' operations) rfl
      exact ⟨resolution, hres, hcont.trans hmkv, hiff.trans hagrees.symm⟩
    | false =>
      obtain ⟨-, -, hdefs⟩ := no_track_operations hany
      refine ⟨_, rfl, hmkv, iff_of_true rfl (hagrees.mpr ?_)⟩
      rw [hdefs]
      exact fun _ hop => (nomatch hop)
  rw [planGroup_noOp_iff, ← hiff]
  constructor
  · rintro ⟨_, hres', _, -⟩
    rwa [ok_unique hres hres']
  · intro hsame
    refine ⟨resolution, hres, hsame, "mkv", h.container, ?_⟩
    rw [hcont]
    rfl

/-- After a remux the head is in front, and stands in the way of nothing. -/
theorem Remuxes.headAgrees {snapshot'' : MediaSnapshotInput}
    (h' : Remuxes phaseName operations preferredLanguages snapshot' snapshot'') :
    HeadAgrees phaseName operations preferredLanguages snapshot' := by
  obtain ⟨_, _, _, _, -, hfacts', -, -, hleaves⟩ := h.leaves hone
  obtain ⟨_, _, _, _, hfacts₁, -, -, -, hleaves'⟩ := h'.leaves hone
  obtain rfl := ok_unique hfacts' hfacts₁
  rw [hleaves.survive' hblind] at hleaves'
  intro _ hfacts₂ _ _ _ m hmin x hx hhead
  obtain rfl := ok_unique hfacts' hfacts₂
  rw [hleaves.survive' hblind] at hmin hx
  rw [hleaves.same_head hblind hleaves'.ordered] at hhead
  exact hleaves.head_first hx hhead hmin

/-- With one default a target and no filter that asks for the default flag, planning again
after a remux finds nothing to do just when the pinned head does not stand in the way of a
`first` or `best`: it is of another kind, is the stream they selected, or ranks below it.  In
any case nothing is left to do after a second remux. -/
theorem planGroup_settles :
    ((planGroup phaseName snapshot' operations preferredLanguages).status = .noOp ↔
      HeadAgrees phaseName operations preferredLanguages snapshot) ∧
    ∀ snapshot'', Remuxes phaseName operations preferredLanguages snapshot' snapshot'' →
      (planGroup phaseName snapshot'' operations preferredLanguages).status = .noOp :=
  ⟨h.noOp_iff hblind hone, fun _ h' => (h'.noOp_iff hblind hone).mpr (h.headAgrees hblind hone h')⟩

end Remuxes

/-! ### A file with two audio streams

The English stream is the first one and the Japanese one is pinned as the head. `first` makes
the English stream the default; after the remux the Japanese one is first. -/

def probedStream (id : String) (index : Int) (kind language : String) (isDefault : Bool) : Json :=
  .object [("id", .string id), ("index", .integer index), ("kind", .string kind),
    ("language", .string language),
    ("disposition", .object [("default", .bool isDefault), ("forced", .bool false)])]

def probedFile (streams : List Json) : MediaSnapshotInput :=
  ⟨some 1, some "mkv", .object [("streams", .array streams)]⟩

def dualAudio : MediaSnapshotInput :=
  probedFile [probedStream "v" 0 "video" "und" true, probedStream "en" 1 "audio" "eng" true,
    probedStream "ja" 2 "audio" "jpn" false]

def dualAudioPinned : MediaSnapshotInput :=
  probedFile [probedStream "ja" 0 "audio" "jpn" false, probedStream "v" 1 "video" "und" true,
    probedStream "en" 2 "audio" "eng" true]

def firstAndHead : List CompiledOperation :=
  [.setDefaults .audio .first none, .reorderTracks [] (some (.languageIn ["jpn"]))]

def dualAudioTracks : MkvtoolnixWorker.MkvmergeTrackMapping
  | 0 => some ⟨0, .video⟩
  | 1 => some ⟨1, .audio⟩
  | 2 => some ⟨2, .audio⟩
  | _ => none

theorem firstAndHead_blind : DefaultBlind firstAndHead := by
  intro _ hmem _ hfilt
  rcases mem_cons.mp hmem with rfl | hmem
  · cases hfilt
  · rw [mem_singleton.mp hmem] at hfilt
    cases hfilt
    rfl

def dualAudioFacts : List SnapshotStreamFact :=
  (streamFacts dualAudio).toOption.getD []

theorem dualAudio_remuxes : Remuxes "normalize" firstAndHead [] dualAudio dualAudioPinned where
  planned := by decide
  done := ⟨1, dualAudioFacts, _, dualAudioTracks, _, rfl, rfl,
    .of_indexes (@streamFacts_distinct dualAudio dualAudioFacts rfl) (by decide), rfl, rfl⟩
  container := rfl

theorem dualAudio_settles :
    ((planGroup "normalize" dualAudioPinned firstAndHead []).status = .noOp ↔
      HeadAgrees "normalize" firstAndHead [] dualAudio) ∧
    ∀ snapshot'', Remuxes "normalize" firstAndHead [] dualAudioPinned snapshot'' →
      (planGroup "normalize" snapshot'' firstAndHead []).status = .noOp :=
  planGroup_settles firstAndHead_blind (by decide) dualAudio_remuxes

/-- One remux is not enough: the plan that follows moves the default to the pinned stream. -/
theorem dualAudio_planned_again :
    DefaultBlind firstAndHead ∧
      ((firstAndHead.filterMap defaults?).map (·.target)).Nodup ∧
      Remuxes "normalize" firstAndHead [] dualAudio dualAudioPinned ∧
      (planGroup "normalize" dualAudioPinned firstAndHead []).status = .planned :=
  ⟨firstAndHead_blind, by decide, dualAudio_remuxes, by decide⟩

end Voom
