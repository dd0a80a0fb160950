import VoomProof.LoweredOperations
import VoomProof.PlanBuilder
import VoomProof.RemuxSelection

/-!
# Which planned remuxes can be executed

The planner resolves a group of operations against a snapshot and says `planned`; the control
plane takes the payload of the plan and the same snapshot and resolves the streams again. No
filter, strategy, head or order that the planner lets through is rejected there, because the
operations were compiled: their container is the one a remux can write, and a filter never comes
with a strategy.

Three plans are rejected all the same: one that only sets the container of a file whose
stream facts cannot be read, one that sets or clears the default flag of an attachment, and
one that pins the snapshot with the id 0.
-/

namespace Voom
open Fallible RustText StableOrder CompiledOperation List

variable {actions : List RemuxTrackAction} {order : List RemuxTrackGroup}
  {snapshot : MediaSnapshotInput}

namespace RemuxPlanner

/-! ## Default actions of a plan -/

/-- An operation that is not dropped for an explicit one of its target. -/
def active (explicitTargets : List TrackTarget) (op : DefaultsOperation) : Bool :=
  op.filter.isSome || op.target ∉ explicitTargets

/-- The actions of a plan name a kept stream where their strategy asks for one, and then they
are alone for their target. -/
structure Settled (kept : List SnapshotStreamFact) (actions : List RemuxDefaultAction) : Prop where
  selected : ∀ action ∈ actions, ∀ id ∈ action.selectedSnapshotStreamId,
    ∃ s ∈ ofKind action.target kept, s.snapshotStreamId = id
  best : ∀ action ∈ actions, action.strategy = .best → action.selectedSnapshotStreamId.isSome
  strategy : ∀ action ∈ actions, action.selectedSnapshotStreamId.isSome →
    action.strategy = .best ∨ action.strategy = .preserve
  alone : ∀ action ∈ actions, action.selectedSnapshotStreamId.isSome →
    (actions.map (·.target)).count action.target ≤ 1

section Defaults
variable {facts streams : List SnapshotStreamFact} {keepIds : List String}
  {languages : List String} {explicitTargets : List TrackTarget}
  {defaults : List DefaultsOperation} {op : DefaultsOperation} {action : RemuxDefaultAction}

theorem Selects.mem {filter : TrackFilter} {id : String} (h : Selects filter streams id) :
    ∃ s ∈ streams, s.snapshotStreamId = id := by
  have hmem : id ∈ (streams.filter (evaluateFilter filter · = .ok true)).map
      (·.snapshotStreamId) := h.2 ▸ mem_singleton.mpr rfl
  obtain ⟨s, hs, hid⟩ := mem_map.mp hmem
  exact ⟨s, (mem_filter.mp hs).1, hid⟩

theorem Resolves.selected (h : Resolves languages streams op action) :
    ∀ id ∈ action.selectedSnapshotStreamId, ∃ s ∈ streams, s.snapshotStreamId = id := by
  obtain ⟨_, strategy, filter⟩ := op
  obtain ⟨-, -, hcase⟩ := h
  intro _ hid
  rw [Option.mem_def] at hid
  cases filter with
  | some =>
    obtain ⟨_, hsel, hsome⟩ := hcase
    rw [hsome, Option.some.injEq] at hid
    exact hid ▸ hsel.mem
  | none =>
    cases strategy with
    | best =>
      obtain ⟨m, hmin, hsome⟩ := hcase
      rw [hsome, Option.some.injEq] at hid
      exact ⟨m, hmin.mem, hid⟩
    | first | none | preserve =>
      rw [hcase] at hid
      cases hid

theorem Resolves.isSome_iff (h : Resolves languages streams op action) :
    action.selectedSnapshotStreamId.isSome ↔ op.filter.isSome ∨ op.strategy = .best := by
  obtain ⟨_, strategy, filter⟩ := op
  obtain ⟨-, -, hcase⟩ := h
  cases filter with
  | some =>
    obtain ⟨_, -, hsome⟩ := hcase
    simp [hsome]
  | none =>
    cases strategy with
    | best =>
      obtain ⟨m, -, hsome⟩ := hcase
      simp [hsome]
    | first | none | preserve =>
      dsimp only at hcase
      simp [hcase]

/-- Dropped operations may be left out beforehand. -/
theorem foldlM_active (resolved : RemuxDefaultsResolution) :
    defaults.foldlM (resolveDefaultAction facts keepIds languages explicitTargets)
        resolved =
      (defaults.filter (active explicitTargets)).foldlM
        (resolveDefaultAction facts keepIds languages explicitTargets) resolved := by
  induction defaults generalizing resolved with
  | nil => rfl
  | cons op _ ih =>
    rw [foldlM_cons, filter_cons]
    split
    case isTrue =>
      exact congrArg _ (funext ih)
    case isFalse hact =>
    have hstep : resolveDefaultAction facts keepIds languages explicitTargets
        resolved op = .ok resolved := by
      obtain ⟨target, _, filter⟩ := op
      cases filter with
      | some => exact absurd rfl hact
      | none =>
        have hexpl : target ∈ explicitTargets := by simpa [active] using hact
        simp only [resolveDefaultAction, if_pos hexpl]
        rfl
    rw [bind_of_ok hstep, ih]

/-- An operation that selects a stream is the only one of its target that is not dropped. -/
theorem count_active_le_one (hexpl : ((defaults.filter (·.filter.isSome)).map (·.target)).Nodup)
    (hbest : defaults.find?
      (bestConflict defaults ((defaults.filter (·.filter.isSome)).map (·.target))) = none)
    (hop : op ∈ defaults.filter
      (active ((defaults.filter (·.filter.isSome)).map (·.target))))
    (hsel : op.filter.isSome ∨ op.strategy = .best) :
    ((defaults.filter (active ((defaults.filter (·.filter.isSome)).map (·.target)))).map
      (·.target)).count op.target ≤ 1 := by
  obtain ⟨hmem, hact⟩ := mem_filter.mp hop
  rw [count, countP_map, countP_filter]
  by_cases hfilt : op.filter.isSome = true
  · -- the others of the target that are left have a filter as well
    refine le_trans ?_ (nodup_iff_count_le_one.mp hexpl op.target)
    rw [count, countP_map, countP_filter]
    refine countP_mono_left fun candidate _ hboth => ?_
    obtain ⟨htgt, hleft⟩ := Bool.and_eq_true_iff.mp hboth
    have hsame : candidate.target = op.target := by simpa using htgt
    rw [htgt]
    rcases Bool.or_eq_true_iff.mp hleft with hsome | hnot
    · exact hsome
    · rw [decide_eq_true_iff, hsame] at hnot
      exact absurd (mem_map_of_mem (mem_filter.mpr ⟨hmem, hfilt⟩)) hnot
  · have hfree : op.target ∉ (defaults.filter (·.filter.isSome)).map (·.target) := by
      simpa [active, hfilt] using hact
    have hnone := find?_eq_none.mp hbest op hmem
    simp only [bestConflict, hsel.resolve_left hfilt, hfree, not_false_eq_true,
      Bool.not_eq_true, Option.not_isSome_iff_eq_none.mp hfilt, Option.isNone_none,
      decide_true, Bool.true_and, decide_eq_false_iff_not, Nat.not_lt] at hnone
    refine le_trans (countP_mono_left fun candidate hcand hboth => ?_) hnone
    obtain ⟨htgt, -⟩ := Bool.and_eq_true_iff.mp hboth
    have hsame : candidate.target = op.target := by simpa using htgt
    rw [Bool.and_eq_true_iff, decide_eq_true_iff]
    refine ⟨?_, hsame⟩
    by_contra hsome
    refine hfree (hsame ▸ mem_map_of_mem (mem_filter.mpr ⟨hcand, ?_⟩))
    exact Option.isSome_iff_ne_none.mpr (by simpa using hsome)

/-- What the planner resolves the defaults of a group to. -/
theorem resolveDefaultActions_settled {operations : List CompiledOperation}
    {resolved : RemuxDefaultsResolution} (hfacts : Distinct facts)
    (hkeep : resolveTrackKeepIds facts actions = .ok keepIds)
    (hfiltered : ∀ op ∈ operations.filterMap defaults?, op.filter.isSome → op.strategy = .preserve)
    (h : resolveDefaultActions operations facts keepIds languages = .ok resolved) :
    Settled (survivors actions facts) resolved.actions := by
  simp only [resolveDefaultActions, bind_ok] at h
  obtain ⟨_, hexpl, _, hval, hfold⟩ := h
  obtain ⟨rfl, hnd⟩ := explicitDefaultTargets_ok_iff.mp hexpl
  have hbest : (operations.filterMap defaults?).find? (bestConflict (operations.filterMap defaults?)
      (((operations.filterMap defaults?).filter (·.filter.isSome)).map (·.target))) = none := by
    unfold validateBestDefaultStrategyConflicts at hval
    split at hval
    · cases hval
    case h_2 hnone => exact hnone
  rw [foldlM_active] at hfold
  obtain ⟨-, hfrom, -, -⟩ := foldlM_resolveDefaultAction (fun _ hop hnone => by
    simpa [active, hnone] using (mem_filter.mp hop).2) hfold
  have htgts := foldlM_resolveDefaultAction_targets hfold
  have hof : ∀ action ∈ resolved.actions, ∃ op ∈ (operations.filterMap defaults?).filter
      (active (((operations.filterMap defaults?).filter (·.filter.isSome)).map (·.target))),
      Resolves languages (ofKind op.target (survivors actions facts)) op action := by
    intro action ha
    obtain ⟨op, hop, hres⟩ := (hfrom action ha).resolve_left not_mem_nil
    exact ⟨op, hop, retainedStreams_some hfacts hkeep op.target ▸ hres⟩
  constructor
  · intro action ha id hid
    obtain ⟨_, -, hres⟩ := hof action ha
    rw [hres.1]
    exact hres.selected id hid
  · intro action ha hstrat
    obtain ⟨_, -, hres⟩ := hof action ha
    exact hres.isSome_iff.mpr (.inr (hres.2.1 ▸ hstrat))
  · intro action ha hsome
    obtain ⟨op, hop, hres⟩ := hof action ha
    rw [hres.2.1]
    exact (hres.isSome_iff.mp hsome).symm.imp_right (hfiltered op (mem_filter.mp hop).1)
  · intro action ha hsome
    obtain ⟨_, hop, hres⟩ := hof action ha
    rw [hres.1]
    exact (htgts.count_le _).trans (count_active_le_one hnd hbest hop (hres.isSome_iff.mp hsome))

end Defaults

/-! ## Order and head of a plan -/

section Order
variable {facts : List SnapshotStreamFact} {keepIds : List String}
  {operations : List CompiledOperation}

theorem baseTrackOrder_nodup (h : operations.filterMap reorder? = []) :
    (baseTrackOrder operations).Nodup := by
  unfold baseTrackOrder
  rw [h]
  dsimp only
  split <;> decide

theorem Heads.mem {headFilter : Option TrackFilter} {streams : List SnapshotStreamFact}
    {head : Option String} (h : Heads headFilter streams head) :
    ∀ id ∈ head, ∃ s ∈ streams, s.snapshotStreamId = id := by
  cases headFilter with
  | none =>
    obtain rfl : head = none := h
    exact nofun
  | some =>
    obtain ⟨_, hsel, rfl⟩ := h
    rintro _ ⟨⟩
    exact hsel.mem

/-- The groups of a plan are distinct and its head is a kept stream. -/
theorem resolveTrackOrder_settled (hfacts : Distinct facts)
    (hkeep : resolveTrackKeepIds facts actions = .ok keepIds) {head : Option String}
    {moved : Bool} (h : resolveTrackOrder operations facts keepIds = .ok (order, head, moved)) :
    (if operations.any (·.reorder?.isSome) then order else baseTrackOrder operations).Nodup ∧
      ∀ id ∈ head, ∃ s ∈ ordinary (survivors actions facts), s.snapshotStreamId = id := by
  rcases hreord : operations.filterMap reorder? with _ | ⟨⟨_, _⟩, _ | ⟨_, _⟩⟩
  · rw [resolveTrackOrder, hreord] at h
    cases h
    rw [reorders_eq_false hreord]
    exact ⟨baseTrackOrder_nodup hreord, fun id hid => absurd hid (Option.not_mem_none id)⟩
  · obtain ⟨⟨hnd, -⟩, _, hhead, heq⟩ := (resolveTrackOrder_ok_iff hreord).mp h
    cases heq
    rw [reorders_eq_true hreord]
    refine ⟨hnd.map fun a b hab => ?_, retainedStreams_none hfacts hkeep ▸ hhead.mem⟩
    cases a <;> cases b <;> first | rfl | cases hab
  · rw [resolveTrackOrder, hreord] at h
    cases h

end Order

end RemuxPlanner

namespace ControlPlaneRemux
open RemuxPlanner

/-! ## Default actions of a selection -/

section Effective
variable {kept : List SnapshotStreamFact} {defaults : List RemuxDefaultAction}
  {action : RemuxDefaultAction} {c : ClassifiedDefaultAction}

section
variable (h : Settled kept defaults)
include h

theorem exists_classifyDefaultAction (ha : action ∈ defaults) :
    ∃ c, classifyDefaultAction action = .ok c := by
  have hstrat := h.strategy action ha
  obtain ⟨_, strategy, selected⟩ := action
  cases strategy <;> cases selected <;> first | exact ⟨_, rfl⟩ | simp at hstrat

/-- Actions that have to be alone have a selected stream. -/
theorem isSome_of_classify (ha : action ∈ defaults) (hc : classifyDefaultAction action = .ok c)
    (halone : c.isResolvedExplicit ∨ c.isBest) : action.selectedSnapshotStreamId.isSome := by
  have hbest := h.best action ha
  obtain ⟨_, strategy, selected⟩ := action
  cases strategy <;> cases selected <;> cases hc <;>
    simp_all [ClassifiedDefaultAction.isResolvedExplicit, ClassifiedDefaultAction.isBest]

theorem exists_intoEffective (ha : action ∈ defaults) (hc : classifyDefaultAction action = .ok c) :
    ∃ e, c.intoEffective = .ok e := by
  have hbest := h.best action ha
  obtain ⟨_, strategy, selected⟩ := action
  cases strategy <;> cases selected <;> cases hc <;> first | exact ⟨_, rfl⟩ | simp at hbest

/-- The actions of a plan are all effective. -/
theorem exists_effectiveDefaultActions :
    ∃ effective, effectiveDefaultActions defaults = .ok effective ∧
      (∀ action ∈ defaults, ∃ e ∈ effective, EffectiveOf action e) ∧
      ∀ e ∈ effective, ∃ action ∈ defaults, EffectiveOf action e := by
  obtain ⟨classified, hclassified⟩ := exists_mapM fun action ha => exists_classifyDefaultAction h ha
  obtain ⟨hto, hfrom⟩ := mapM_ok_mem hclassified
  have htgts : classified.map (·.target) = defaults.map (·.target) :=
    mapM_ok_map (fun _ _ => classifyDefaultAction_target) hclassified
  have halone : ∀ c ∈ classified, c.isResolvedExplicit ∨ c.isBest →
      (classified.map (·.target)).count c.target ≤ 1 := by
    intro c hc hor
    obtain ⟨action, ha, hclass⟩ := hfrom c hc
    rw [htgts, classifyDefaultAction_target hclass]
    exact h.alone action ha (isSome_of_classify h ha hclass hor)
  have hnd : ((classified.filter (·.isResolvedExplicit)).map (·.target)).Nodup := by
    refine nodup_iff_count_le_one.mpr fun target => ?_
    by_cases hmem : target ∈ (classified.filter (·.isResolvedExplicit)).map (·.target)
    · obtain ⟨c, hc, rfl⟩ := mem_map.mp hmem
      obtain ⟨hc, hexpl⟩ := mem_filter.mp hc
      exact ((filter_sublist.map _).count_le _).trans (halone c hc (.inl hexpl))
    · rw [count_eq_zero_of_not_mem hmem]
      exact Nat.zero_le 1
  have hpushed := foldlM_pushExplicitTarget_ok_iff.mpr ⟨rfl, hnd⟩
  have hall := filter_unshadowed hpushed fun other hother hexpl c hc htgt =>
    (eq_of_count_le_one (halone other hother (.inl hexpl)) hother hc htgt.symm).symm
  have hbest : validateBestDefaultStrategyConflicts classified = .ok () := by
    have hnone : (classified.find? fun action =>
        action.isBest && 1 < classified.countP (·.target = action.target)) = none := by
      refine find?_eq_none.mpr fun c hc hconflict => ?_
      obtain ⟨hisBest, hmany⟩ := Bool.and_eq_true_iff.mp hconflict
      have hone := halone c hc (.inr hisBest)
      rw [count, countP_map] at hone
      exact absurd hone (Nat.not_le.mpr (of_decide_eq_true hmany))
    rw [validateBestDefaultStrategyConflicts, hnone]
  obtain ⟨effective, heff⟩ := exists_mapM (f := (·.intoEffective)) (l := classified) fun c hc => by
      obtain ⟨_, ha, hclass⟩ := hfrom c hc
      exact exists_intoEffective h ha hclass
  obtain ⟨hto', hfrom'⟩ := mapM_ok_mem heff
  refine ⟨effective, ?_, fun action ha => ?_, fun e he => ?_⟩
  · unfold effectiveDefaultActions
    rw [bind_of_ok hclassified, bind_of_ok hpushed]
    rw [hall, bind_of_ok hbest, heff]
  · obtain ⟨c, hc, hclass⟩ := hto action ha
    obtain ⟨e, he, hinto⟩ := hto' c hc
    exact ⟨e, he, c, hclass, hinto⟩
  · obtain ⟨c, hc, hinto⟩ := hfrom' e he
    obtain ⟨action, ha, hclass⟩ := hfrom c hc
    exact ⟨action, ha, c, hclass, hinto⟩

end

end Effective

/-! ## Attachments in a selection -/

/-- Some default action sets or clears the flag of a kept attachment. -/
def PlacesAttachment (payload : RemuxOperationPayload) (facts : List SnapshotStreamFact) : Prop :=
  ∃ action ∈ payload.defaults, action.target = .attachment ∧
    ∃ s ∈ facts, s.kind = .attachment ∧ keepsStream payload.trackActions s = true ∧
      (action.strategy ≠ .preserve ∨ action.selectedSnapshotStreamId.isSome ∨
        ∃ flag, s.isDefault = .value flag)

variable {effective : List EffectiveDefaultAction}

section Refs
variable {facts : List SnapshotStreamFact} {keepIds : List String} {s : SnapshotStreamFact}
  {e : EffectiveDefaultAction} {refs : List RemuxStreamRef × List RemuxStreamRef}

theorem exists_actionRefs (h : ∀ target id, e = .resolved target id →
      ∃ s, resolvedKeptStream facts keepIds id (some target) = .ok s) :
    ∃ refs, actionRefs facts keepIds e = .ok refs := by
  cases e with
  | resolved target id =>
    obtain ⟨s, hs⟩ := h target id rfl
    exact ⟨_, bind_of_ok hs _⟩
  | first =>
    unfold actionRefs
    dsimp only
    split <;> exact ⟨_, rfl⟩
  | none | preserve => exact ⟨_, rfl⟩

/-- An action names every kept stream of its target, but for unknown flags it preserves. -/
theorem actionRefs_covers (hsort : InOrder facts)
    (hids : UniqueIds facts) (h : actionRefs facts keepIds e = .ok refs)
    (hs : s ∈ keptTargetStreams facts keepIds e.target)
    (hknown : e = .preserve e.target → ∃ flag, s.isDefault = .value flag) :
    ∃ v, streamRef s ∈ flagged v refs := by
  cases actionRefs_spec hsort h with
  | @selects selected hmem =>
    by_cases hid : s.snapshotStreamId = selected.snapshotStreamId
    · rw [inj_on_of_nodup_map (keptTargetStreams_ids hids) hs hmem hid]
      exact ⟨true, mem_singleton.mpr rfl⟩
    · exact ⟨false, mem_map_of_mem (mem_filter.mpr ⟨hs, decide_eq_true hid⟩)⟩
  | clears => exact ⟨false, mem_map_of_mem hs⟩
  | preserves he =>
    obtain ⟨flag, hflag⟩ := hknown he
    refine ⟨flag, ?_⟩
    cases flag <;> exact mem_map_of_mem (mem_filter.mpr ⟨hs, decide_eq_true hflag⟩)

theorem EffectiveOf.preserve_iff {action : RemuxDefaultAction} (h : EffectiveOf action e) :
    e = .preserve e.target ↔
      action.strategy = .preserve ∧ action.selectedSnapshotStreamId = none := by
  obtain ⟨target, strategy, selected⟩ := action
  obtain ⟨_, hclass, hinto⟩ := h
  cases strategy <;> cases selected <;> cases hclass <;> cases hinto <;>
    simp [EffectiveDefaultAction.target]

/-- The flags of a selection name an attachment where an action is about one. -/
theorem defaultRefs_attachment_iff {payload : RemuxOperationPayload} (hids : UniqueIds facts)
    (hsort : InOrder facts)
    (hkept : ∀ s ∈ facts, s.snapshotStreamId ∈ keepIds ↔ keepsStream payload.trackActions s = true)
    (hto : ∀ action ∈ payload.defaults, ∃ e ∈ effective, EffectiveOf action e)
    (hfrom : ∀ e ∈ effective, ∃ action ∈ payload.defaults, EffectiveOf action e)
    (h : defaultRefs facts keepIds effective = .ok refs) :
    (∃ v, ∃ r ∈ flagged v refs, attachmentPlaced facts r = true) ↔
      PlacesAttachment payload facts := by
  constructor
  · rintro ⟨v, r, hr, hplaced⟩
    obtain ⟨e, he, _, hpart, hr, s, hs, rfl⟩ := action_of_defaultRefs hsort h hr
    obtain ⟨hsf, hkind, hid⟩ := mem_keptTargetStreams.mp hs
    have hattachment := (attachmentPlaced_iff hids hsf).mp hplaced
    have htgt := hkind.symm.trans hattachment
    obtain ⟨action, ha, heff⟩ := hfrom e (mem_effective he htgt)
    refine ⟨action, ha, heff.target.symm.trans htgt, s, hsf, hattachment, (hkept s hsf).mp hid, ?_⟩
    by_cases hpreserve : action.strategy = .preserve
    · rcases hsel : action.selectedSnapshotStreamId with _ | _
      · -- what is preserved is named by its flag
        have he' := heff.preserve_iff.mpr ⟨hpreserve, hsel⟩
        rw [he'] at hpart
        cases hpart
        obtain ⟨_, hs', href, hflag⟩ := mem_preservedRefs hr
        have hsame := inj_on_of_nodup_map hids (mem_keptTargetStreams.mp hs').1 hsf
          (streamRef_inj href).symm
        exact .inr (.inr ⟨v, hsame ▸ hflag⟩)
      · exact .inr (.inl rfl)
    · exact .inl hpreserve
  · rintro ⟨action, ha, htgt, s, hs, hkind, hkeeps, hcase⟩
    obtain ⟨e, he, heff⟩ := hto action ha
    have hall : e ∈ allActions effective := mem_append_left _ he
    obtain ⟨_, hpart⟩ := part_of_defaultRefs h hall
    have hmem : s ∈ keptTargetStreams facts keepIds e.target :=
      mem_keptTargetStreams.mpr
        ⟨hs, hkind.trans (htgt.symm.trans heff.target.symm), (hkept s hs).mpr hkeeps⟩
    obtain ⟨v, hv⟩ := actionRefs_covers hsort hids hpart hmem fun hpreserve => by
      obtain ⟨hstrat, hnone⟩ := heff.preserve_iff.mp hpreserve
      rcases hcase with hother | hsome | hflag
      · exact absurd hstrat hother
      · rw [hnone] at hsome
        cases hsome
      · exact hflag
    exact ⟨v, streamRef s, mem_defaultRefs hsort hids hpart h hall hs hv,
      (attachmentPlaced_iff hids hs).mpr hkind⟩

end Refs

/-! ## Payloads that are selected from -/

/-- A payload that fits the facts of the snapshot it pins, but for attachments. -/
structure Ready (payload : RemuxOperationPayload) (snapshotId : Nat)
    (facts : List SnapshotStreamFact) : Prop where
  container : payload.container = "mkv"
  pinned : payload.sourceMediaSnapshotId = some snapshotId
  order : payload.trackOrder.Nodup
  audio_head : payload.audioHeadSnapshotStreamId = none
  video : ∃ s ∈ facts, s.kind = .video
  actions : ∀ action ∈ payload.trackActions, action.target ≠ .video
  evaluable : ∀ action ∈ payload.trackActions, ∀ s ∈ facts, action.Evaluable s
  audio : (∃ s ∈ facts, s.kind = .audio) →
    ∃ s ∈ facts, s.kind = .audio ∧ keepsStream payload.trackActions s = true
  head : ∀ id ∈ payload.headSnapshotStreamId,
    ∃ s ∈ ordinary (survivors payload.trackActions facts), s.snapshotStreamId = id
  defaults : Settled (survivors payload.trackActions facts) payload.defaults

section Execution
variable {payload : RemuxOperationPayload} {snapshotId : Nat}
  {facts sorted : List SnapshotStreamFact} {keepIds : List String}

theorem requireDistinctOrder_ok (before : List RemuxTrackGroup) (h : (before ++ order).Nodup) :
    RemuxOperationPayload.requireDistinctOrder before order = .ok () := by
  induction order generalizing before with
  | nil => rfl
  | cons group rest ih =>
    have hnew : group ∉ before := fun hmem =>
      (nodup_append.mp h).2.2 group hmem group mem_cons_self rfl
    rw [RemuxOperationPayload.requireDistinctOrder, bind_of_require hnew]
    exact ih (before ++ [group]) (append_cons before group rest ▸ h)

theorem requireDefaults_ok {defaults : List RemuxDefaultAction}
    (h : ∀ action ∈ defaults, ∀ id ∈ action.selectedSnapshotStreamId, blank id = false)
    (index : Nat) : RemuxOperationPayload.requireDefaults index defaults = .ok () := by
  induction defaults generalizing index with
  | nil => rfl
  | cons action _ ih =>
    obtain ⟨haction, hrest⟩ := forall_mem_cons.mp h
    have hall : action.selectedSnapshotStreamId.all (!blank ·) = true := by
      cases hsel : action.selectedSnapshotStreamId with
      | none => rfl
      | some id => simpa using haction id hsel
    rw [RemuxOperationPayload.requireDefaults, RemuxOperationPayload.requireStreamId,
      bind_of_require hall]
    exact ih hrest (index + 1)

theorem mem_survivors {s : SnapshotStreamFact} :
    s ∈ survivors actions facts ↔ s ∈ facts ∧ keepsStream actions s = true := by
  rw [survivors, mem_filter, mem_sortBy]

/-- A payload that fits is parsed unless it pins the id 0. -/
theorem Ready.tryFromExecutionValue_iff (h : Ready payload snapshotId facts)
    (hnonblank : ∀ s ∈ facts, blank s.snapshotStreamId = false) :
    payload.tryFromExecutionValue = .ok () ↔ snapshotId ≠ 0 := by
  have hhead : payload.headSnapshotStreamId.all (!blank ·) = true := by
    cases hid : payload.headSnapshotStreamId with
    | none => rfl
    | some id =>
      obtain ⟨s, hs, rfl⟩ := h.head id hid
      simpa using hnonblank s (mem_survivors.mp (mem_filter.mp hs).1).1
  have hdefs : RemuxOperationPayload.requireDefaults 0 payload.defaults = .ok () := by
    refine requireDefaults_ok (fun action ha id hid => ?_) 0
    obtain ⟨s, hs, rfl⟩ := h.defaults.selected action ha id hid
    exact hnonblank s (mem_survivors.mp (mem_filter.mp hs).1).1
  simp [RemuxOperationPayload.tryFromExecutionValue, RemuxOperationPayload.requireStreamId,
    h.container, h.pinned, h.audio_head, requireDistinctOrder_ok [] h.order, hhead,
    hdefs]

section Sorted
variable (h : Ready payload snapshotId facts) (hmem : ∀ s, s ∈ sorted ↔ s ∈ facts)
  (hids : UniqueIds sorted)
  (hkept : ∀ s ∈ sorted, s.snapshotStreamId ∈ keepIds ↔ keepsStream payload.trackActions s = true)
include h hmem hids hkept

omit h in
theorem resolvedKeptStream_of_survivor {s : SnapshotStreamFact}
    (hs : s ∈ survivors payload.trackActions facts) {expectedTarget : Option TrackTarget}
    (hkind : ∀ target ∈ expectedTarget, s.kind = target) :
    s ∈ sorted ∧ resolvedKeptStream sorted keepIds s.snapshotStreamId expectedTarget = .ok s := by
  obtain ⟨hsf, hkeeps⟩ := mem_survivors.mp hs
  have hsort := (hmem s).mpr hsf
  refine ⟨hsort, ?_⟩
  rw [resolvedKeptStream, bind_of_find (find?_key hids hsort),
    bind_of_require ((hkept s hsort).mpr hkeeps)]
  cases expectedTarget with
  | none => rfl
  | some target => exact bind_of_require (hkind target rfl) _

theorem Ready.exists_headRefs :
    ∃ heads, headRefs sorted keepIds payload.headSnapshotStreamId = .ok heads ∧
      ∀ r ∈ heads, attachmentPlaced sorted r = false := by
  cases hid : payload.headSnapshotStreamId with
  | none => exact ⟨[], rfl, nofun⟩
  | some id =>
    obtain ⟨s, hs, rfl⟩ := h.head id hid
    obtain ⟨hsurv, hkind⟩ := mem_filter.mp hs
    have hordinary : s.kind ≠ .attachment := of_decide_eq_true hkind
    obtain ⟨hsort, hfound⟩ := resolvedKeptStream_of_survivor hmem hids hkept hsurv
      fun _ (h : _ ∈ none) => nomatch h
    refine ⟨[streamRef s], ?_, forall_mem_singleton.mpr ?_⟩
    · rw [headRefs, bind_of_ok hfound, bind_of_require hordinary]
      rfl
    · exact Bool.eq_false_iff.mpr fun hplaced =>
        hordinary ((attachmentPlaced_iff hids hsort).mp hplaced)

theorem Ready.exists_defaultRefs
    (hfrom : ∀ e ∈ effective, ∃ action ∈ payload.defaults, EffectiveOf action e) :
    ∃ refs, defaultRefs sorted keepIds effective = .ok refs := by
  have hactions : ∀ e ∈ effective, ∃ refs, actionRefs sorted keepIds e = .ok refs := by
    intro e he
    obtain ⟨action, ha, heff⟩ := hfrom e he
    refine exists_actionRefs fun target id heq => ?_
    have hsel : action.selectedSnapshotStreamId = some id ∧ action.target = target := by
      obtain ⟨_, strategy, selected⟩ := action
      obtain ⟨_, hclass, hinto⟩ := heff
      subst heq
      cases strategy <;> cases selected <;> cases hclass <;> cases hinto <;> exact ⟨rfl, rfl⟩
    obtain ⟨s, hs, rfl⟩ := h.defaults.selected action ha id hsel.1
    obtain ⟨hsurv, hkind⟩ := mem_filter.mp hs
    refine ⟨s, (resolvedKeptStream_of_survivor hmem hids hkept hsurv ?_).2⟩
    rintro _ ⟨⟩
    exact (of_decide_eq_true hkind).trans hsel.2
  obtain ⟨_, hacted⟩ := exists_mapM hactions
  exact ⟨_, bind_of_ok hacted _⟩

end Sorted

theorem forcedRefs_ordinary (hids : UniqueIds facts) {r : RemuxStreamRef}
    {v : Bool} (hr : r ∈ flagged v (forcedRefs facts keepIds)) :
    attachmentPlaced facts r = false := by
  obtain ⟨s, hs, rfl, -⟩ := mem_preservedRefs hr
  obtain ⟨hmem, hkind⟩ := mem_filter.mp hs
  exact Bool.eq_false_iff.mpr fun hplaced =>
    of_decide_eq_true (Bool.and_eq_true_iff.mp hkind).1
      ((attachmentPlaced_iff hids hmem).mp hplaced)

theorem placesAttachment_congr (hmem : ∀ s, s ∈ sorted ↔ s ∈ facts) :
    PlacesAttachment payload sorted ↔ PlacesAttachment payload facts := by
  simp only [PlacesAttachment, hmem]

/-- A payload that fits is selected from unless it pins the id 0 or places an attachment. -/
theorem Ready.selection_iff (h : Ready payload snapshotId facts)
    (hfacts : streamFacts snapshot = .ok facts) :
    (∃ selection, selectionFromPayloadAndSnapshot payload snapshotId snapshot = .ok selection) ↔
      snapshotId ≠ 0 ∧ ¬ PlacesAttachment payload facts := by
  have hparse := h.tryFromExecutionValue_iff (streamFacts_nonblank hfacts)
  by_cases hzero : snapshotId = 0
  · refine iff_of_false ?_ fun hboth => hboth.1 hzero
    rintro ⟨_, hsel⟩
    simp only [selectionFromPayloadAndSnapshot, bind_ok, mapError_ok] at hsel
    obtain ⟨_, htry, -⟩ := hsel
    exact hparse.mp htry hzero
  have hdist := streamFacts_distinct hfacts
  generalize hsort : sortBy (·.providerStreamIndex) facts = sorted
  have hmem : ∀ s, s ∈ sorted ↔ s ∈ facts := fun s => by rw [← hsort, mem_sortBy]
  have hids : UniqueIds sorted := by
    rw [← hsort]
    exact ((sortBy_perm facts).map _).nodup_iff.mpr hdist.ids
  have hsorted : InOrder sorted :=
    hsort ▸ sortBy_strict hdist.indexes
  have hvideo : ∃ s ∈ sorted, s.kind = .video := by simpa only [hmem] using h.video
  obtain ⟨ids, hres⟩ := exists_resolveTrackKeepIds fun action ha s hs =>
    h.evaluable action ha s ((hmem s).mp hs)
  generalize hkeepIds : ids ++ (sorted.filter (·.kind = .video)).map (·.snapshotStreamId) = keepIds
  have hkept : ∀ s ∈ sorted, s.snapshotStreamId ∈ keepIds ↔
      keepsStream payload.trackActions s = true := fun s hs =>
    hkeepIds ▸ mem_keptIds hids h.actions hres hs
  have haudio : rejectEmptyAudio sorted keepIds = .ok () := by
    refine require_ok.mpr ?_
    rintro ⟨s, hs, hkind⟩
    obtain ⟨s', hs', hkind', hkeeps⟩ := h.audio ⟨s, (hmem s).mp hs, hkind⟩
    exact ⟨s', (hmem s').mpr hs', hkind', (hkept s' ((hmem s').mpr hs')).mpr hkeeps⟩
  obtain ⟨_, heff, hto, hfrom⟩ := exists_effectiveDefaultActions h.defaults
  obtain ⟨_, hrefs⟩ := h.exists_defaultRefs hmem hids hkept hfrom
  obtain ⟨_, hheads, hplaced⟩ := h.exists_headRefs hmem hids hkept
  have hplaces := (defaultRefs_attachment_iff hids hsorted hkept hto hfrom hrefs).trans
    (placesAttachment_congr hmem)
  unfold selectionFromPayloadAndSnapshot
  rw [bind_of_ok (mapError_ok.mpr (hparse.mpr hzero)),
    bind_of_require (by rw [h.container]; decide), bind_of_require h.pinned,
    bind_of_ok (mapError_ok.mpr hfacts)]
  dsimp only
  rw [hsort, bind_of_require hvideo, bind_of_require h.actions,
    bind_of_ok (mapError_ok.mpr hres), hkeepIds, bind_of_ok haudio,
    bind_of_ok heff, bind_of_ok hrefs, bind_of_ok hheads, h.audio_head]
  simp only [bind_ok, return_ok]
  rw [← hplaces]
  constructor
  · rintro ⟨_, _, ⟨⟩, _, hreject, rfl⟩
    have hall := rejectAttachmentPlacements_ok_iff.mp hreject
    simp only [forall_mem_cons] at hall
    refine ⟨hzero, ?_⟩
    rintro ⟨_ | _, r, hr, hattachment⟩
    · exact Bool.false_ne_true ((hall.2.1 r hr).symm.trans hattachment)
    · exact Bool.false_ne_true ((hall.1 r hr).symm.trans hattachment)
  · rintro ⟨-, hnone⟩
    refine ⟨_, none, rfl, (), rejectAttachmentPlacements_ok_iff.mpr ?_, rfl⟩
    simp only [forall_mem_cons]
    refine ⟨?_, ?_, hplaced, fun _ h => absurd h not_mem_nil, ?_, ?_,
      fun _ h => absurd h not_mem_nil⟩
    · exact fun r hr => Bool.eq_false_iff.mpr fun hp => hnone ⟨true, r, hr, hp⟩
    · exact fun r hr => Bool.eq_false_iff.mpr fun hp => hnone ⟨false, r, hr, hp⟩
    · exact fun r hr => forcedRefs_ordinary (v := true) hids hr
    · exact fun r hr => forcedRefs_ordinary (v := false) hids hr

end Execution

end ControlPlaneRemux

/-! ## Plans of compiled policies -/

open RemuxPlanner ControlPlaneRemux
open Planner (candidateSupport trackCandidateSupport)

/-- Remux operations of an accepted policy that the planner supports. -/
structure RemuxGroupOf (source : Text) (operations : List CompiledOperation) : Prop where
  accepted : ∃ output, compilePolicy source = .ok output ∧ ∀ op ∈ operations,
    ∃ phase ∈ output.policy.phases, ∃ top ∈ phase.operations, Within op top
  supported : ∀ op ∈ operations, candidateSupport op = some .supported

/-- The resolved keep set of a payload retains audio where the snapshot has some. -/
def KeepsAudio (snapshot : MediaSnapshotInput) (payload : RemuxOperationPayload) : Prop :=
  ∀ facts keepIds, streamFacts snapshot = .ok facts →
    resolveTrackKeepIds facts payload.trackActions = .ok keepIds →
    (∃ s ∈ facts, s.kind = .audio) → ∃ s ∈ facts, s.kind = .audio ∧ s.snapshotStreamId ∈ keepIds

theorem keepsAudio_iff {payload : RemuxOperationPayload} :
    ((streamFacts snapshot).toOption.all fun facts =>
      (resolveTrackKeepIds facts payload.trackActions).toOption.all fun keepIds =>
        decide ((∃ s ∈ facts, s.kind = .audio) →
          ∃ s ∈ facts, s.kind = .audio ∧ s.snapshotStreamId ∈ keepIds)) = true ↔
      KeepsAudio snapshot payload := by
  unfold KeepsAudio
  cases streamFacts snapshot with
  | error => exact iff_of_true rfl nofun
  | ok facts =>
    constructor
    · rintro h _ _ ⟨⟩ hkeep
      simpa [Except.toOption, hkeep] using h
    · intro h
      cases hkeep : resolveTrackKeepIds facts payload.trackActions with
      | error => simp [Except.toOption, hkeep]
      | ok keepIds => simpa [Except.toOption, hkeep] using h facts keepIds rfl hkeep

instance (snapshot : MediaSnapshotInput) (payload : RemuxOperationPayload) :
    Decidable (KeepsAudio snapshot payload) :=
  decidable_of_iff _ keepsAudio_iff

namespace RemuxGroupOf
variable {source : Text} {operations : List CompiledOperation} (h : RemuxGroupOf source operations)
include h

theorem origin {op : CompiledOperation} (hop : op ∈ operations) : Origin source op := by
  obtain ⟨_, hcomp, hwithin⟩ := h.accepted
  obtain ⟨_, hphase, _, htop, hx⟩ := hwithin op hop
  exact origin_of_compiled hcomp hphase htop hx

theorem container (snapshot : MediaSnapshotInput) :
    (baseRemuxPayload snapshot operations).container = "mkv" := by
  unfold baseRemuxPayload
  cases hfound : operations.findSome? container? with
  | none => rfl
  | some container =>
    obtain ⟨op, hop, hcont⟩ := exists_of_findSome?_eq_some hfound
    cases op <;> cases hcont
    exact (h.origin hop).container

theorem track_actions : ∀ action ∈ operations.filterMap trackAction?, action.target ≠ .video := by
  intro _ ha
  obtain ⟨op, hop, haction⟩ := mem_filterMap.mp ha
  have hsupp := h.supported op hop
  cases op <;> cases haction
  all_goals
    intro hvideo
    simp only [candidateSupport, trackCandidateSupport, if_pos hvideo] at hsupp
    cases hsupp

theorem filtered_defaults : ∀ op ∈ operations.filterMap defaults?, op.filter.isSome →
    op.strategy = .preserve := by
  intro _ hop hsome
  obtain ⟨operation, hmem, hdefs⟩ := mem_filterMap.mp hop
  have horigin := h.origin hmem
  obtain ⟨filter, hfilt⟩ := Option.isSome_iff_exists.mp hsome
  cases operation <;> cases hdefs
  obtain rfl : _ = some filter := hfilt
  exact horigin.filtered_defaults

/-- What the planner resolves such a group to fits the facts of the snapshot. -/
theorem ready {snapshotId : Nat} (hid : snapshot.existingMediaSnapshotId = some snapshotId)
    {facts : List SnapshotStreamFact} (hfacts : streamFacts snapshot = .ok facts)
    {languages : List String} {resolution : RemuxResolution}
    (hres : resolveRemuxOperations snapshot operations languages = .ok resolution)
    (haudio : KeepsAudio snapshot resolution.payload) :
    Ready resolution.payload snapshotId facts := by
  have hdist := streamFacts_distinct hfacts
  rw [resolveRemuxOperations_eq hfacts] at hres
  simp only [bind_ok, require_ok] at hres
  obtain ⟨_, hvideo, hres⟩ := hres
  split at hres
  case isTrue =>
    simp only [resolveTrackOperations, bind_ok, return_ok] at hres
    obtain ⟨keepIds, hkeep, _, hdefs, _, -, ⟨order, head, _⟩, hord, rfl⟩ := hres
    obtain ⟨heval, hkept⟩ := resolveTrackKeepIds_spec hdist.ids hkeep
    obtain ⟨hnd, hhead⟩ := resolveTrackOrder_settled hdist hkeep hord
    exact {
      container := h.container snapshot
      pinned := hid
      order := hnd
      audio_head := rfl
      video := hvideo
      actions := h.track_actions
      evaluable := heval
      audio := fun hsome => by
        obtain ⟨s, hs, hkind, hin⟩ := haudio facts keepIds hfacts hkeep hsome
        exact ⟨s, hs, hkind, (hkept s hs).mp hin⟩
      head := hhead
      defaults := resolveDefaultActions_settled hdist hkeep h.filtered_defaults hdefs }
  case isFalse hnone =>
  obtain rfl := return_ok.mp hres
  obtain ⟨hactions, hreord, hdefs⟩ := no_track_operations (Bool.eq_false_iff.mpr hnone)
  have hno : (baseRemuxPayload snapshot operations).trackActions = [] := hactions
  have hsettled : (baseRemuxPayload snapshot operations).defaults = [] := by
    rw [baseRemuxPayload, hdefs]
    rfl
  exact {
    container := h.container snapshot
    pinned := hid
    order := baseTrackOrder_nodup hreord
    audio_head := rfl
    video := hvideo
    actions := h.track_actions
    evaluable := by simp [hno]
    audio := by
      rintro ⟨s, hs, hkind⟩
      exact ⟨s, hs, hkind, by rw [hno]; rfl⟩
    head := fun id hid => absurd hid (Option.not_mem_none id)
    defaults := by rw [hsettled]; constructor <;> simp }

end RemuxGroupOf

/-- A planned remux is executable unless the snapshot has the id 0, its stream facts cannot be
read, or a default action is about an attachment. -/
theorem planned_remux_executable_iff {source : Text} {operations : List CompiledOperation}
    (hgroup : RemuxGroupOf source operations) (phaseName : String) {snapshot : MediaSnapshotInput}
    {snapshotId : Nat} (hid : snapshot.existingMediaSnapshotId = some snapshotId)
    {preferredLanguages : List String} {plan : OperationPlan}
    (hplan : planGroup phaseName snapshot operations preferredLanguages = plan)
    (hplanned : plan.status = .planned) (haudio : KeepsAudio snapshot plan.operationPayload) :
    (∃ selection, selectionFromPayloadAndSnapshot plan.operationPayload snapshotId snapshot =
        .ok selection) ↔
      snapshotId ≠ 0 ∧ ∃ facts, streamFacts snapshot = .ok facts ∧
        ¬ PlacesAttachment plan.operationPayload facts := by
  subst hplan
  obtain ⟨_, hresolved, hpayload⟩ := planGroup_planned hplanned
  rw [hpayload] at haudio ⊢
  cases hfacts : streamFacts snapshot with
  | error =>
    refine iff_of_false ?_ fun ⟨_, _, hok, _⟩ => nomatch hok
    rintro ⟨_, hselection⟩
    simp only [selectionFromPayloadAndSnapshot, bind_ok] at hselection
    obtain ⟨_, -, _, -, _, -, _, hok, -⟩ := hselection
    rw [hfacts] at hok
    cases hok
  | ok =>
    rw [(hgroup.ready hid hfacts hresolved haudio).selection_iff hfacts]
    simp

/-- The operations of a phase, all of them supported. -/
theorem RemuxGroupOf.of_phase {source : Text} {output : CompileOutput}
    (hcomp : compilePolicy source = .ok output) {phase : CompiledPhase}
    (hphase : phase ∈ output.policy.phases)
    (hsupp : ∀ op ∈ phase.operations, candidateSupport op = some .supported) :
    RemuxGroupOf source phase.operations where
  accepted := ⟨output, hcomp, fun op hop => ⟨phase, hphase, op, hop, .self⟩⟩
  supported := hsupp

theorem selected_remux_of_phase :
    ∃ output, compilePolicy
        "policy \"p\" \x7b phase a \x7b container mkv\ndefaults audio best \x7d \x7d".toList =
          .ok output ∧
      ∃ phase ∈ output.policy.phases,
        let snapshot := fileWith "mp4" [unflagged "v" 0 "video", unflagged "a" 1 "audio"]
        ∃ selection, selectionFromPayloadAndSnapshot
          (planGroup "a" snapshot phase.operations []).operationPayload 1 snapshot =
            .ok selection := by
  obtain ⟨output, hcompiled, phase, hphase, hsupported, hplanned, haudio, htargets⟩ :=
    exists_ok (x := compilePolicy
        "policy \"p\" \x7b phase a \x7b container mkv\ndefaults audio best \x7d \x7d".toList)
      (P := fun output => ∃ phase ∈ output.policy.phases,
        let snapshot := fileWith "mp4" [unflagged "v" 0 "video", unflagged "a" 1 "audio"]
        let plan := planGroup "a" snapshot phase.operations []
        (∀ op ∈ phase.operations, candidateSupport op = some .supported) ∧
          plan.status = .planned ∧ KeepsAudio snapshot plan.operationPayload ∧
          ∀ action ∈ plan.operationPayload.defaults, action.target ≠ .attachment)
      (by decide +kernel)
  refine ⟨output, hcompiled, phase, hphase, ?_⟩
  refine (planned_remux_executable_iff (.of_phase hcompiled hphase hsupported) "a" rfl rfl
    hplanned haudio).mpr ⟨by decide, _, rfl, ?_⟩
  rintro ⟨action, ha, htarget, -⟩
  exact htargets action ha htarget

/-- A file that is only to change its container, with a stream that has neither id nor index, and
a default action on attachments: both are planned and then rejected. -/
theorem planned_remux_rejected :
    (∃ output, compilePolicy "policy \"p\" \x7b phase a \x7b container mkv \x7d \x7d".toList =
        .ok output ∧
      ∃ phase ∈ output.policy.phases,
        let snapshot := fileWith "mp4" [.object [("kind", .string "video")]]
        let plan := planGroup "a" snapshot phase.operations []
        (∀ op ∈ phase.operations, candidateSupport op = some .supported) ∧
          plan.status = .planned ∧ KeepsAudio snapshot plan.operationPayload ∧
          selectionFromPayloadAndSnapshot plan.operationPayload 1 snapshot =
            .error (.config "remux snapshot has insufficient stream facts")) ∧
    ∃ output, compilePolicy
        "policy \"p\" \x7b phase a \x7b container mkv\ndefaults attachment none \x7d \x7d".toList =
          .ok output ∧
      ∃ phase ∈ output.policy.phases,
        let snapshot := fileWith "mp4" [unflagged "v" 0 "video",
          unflagged "f" 1 "attachment"]
        let plan := planGroup "a" snapshot phase.operations []
        (∀ op ∈ phase.operations, candidateSupport op = some .supported) ∧
          plan.status = .planned ∧ KeepsAudio snapshot plan.operationPayload ∧
          selectionFromPayloadAndSnapshot plan.operationPayload 1 snapshot =
            .error (.config "remux selection places attachment `f` in clear_default_streams") :=
  ⟨exists_ok (by decide +kernel), exists_ok (by decide +kernel)⟩

end Voom
