import VoomProof.RemuxPlanner

/-!
# What a remux resolves to

The planner works on lists of ids and loops that may fail. Here each of its resolutions
is said in terms of the kept streams in source order: a filter selects the one stream that
matches, `best` the first of the best rank, `first` the first, and a track order is a
gathering of the kept streams.
-/

namespace Voom
open Fallible RustText StableOrder CompiledOperation List

namespace RemuxPlanner

/-! ## Selections -/

/-- The streams the actions keep, in source order. -/
def survivors (actions : List RemuxTrackAction) (facts : List SnapshotStreamFact) :
    List SnapshotStreamFact :=
  (sortBy (·.providerStreamIndex) facts).filter (keepsStream actions)

def ofKind (target : TrackTarget) (streams : List SnapshotStreamFact) : List SnapshotStreamFact :=
  streams.filter (·.kind = target)

/-- All but the attachments. -/
def ordinary (streams : List SnapshotStreamFact) : List SnapshotStreamFact :=
  streams.filter (·.kind ≠ .attachment)

section Selected
variable {facts streams : List SnapshotStreamFact} {keepIds languages : List String}
  {actions : List RemuxTrackAction} {stream : SnapshotStreamFact}

theorem distinct_survivors (h : Distinct facts) (actions : List RemuxTrackAction) :
    Distinct (survivors actions facts) := by
  constructor
  · exact (((sortBy_perm facts).map _).nodup_iff.mpr h.ids).sublist (filter_sublist.map _)
  · exact (((sortBy_perm facts).map _).nodup_iff.mpr h.indexes).sublist (filter_sublist.map _)

theorem sortBy_kept (h : Distinct facts) (hkeep : resolveTrackKeepIds facts actions = .ok keepIds)
    (p : SnapshotStreamFact → Bool) :
    sortBy (·.providerStreamIndex) (facts.filter fun s => s.snapshotStreamId ∈ keepIds && p s) =
      (survivors actions facts).filter p := by
  rw [← filter_sortBy h.indexes, survivors, filter_filter]
  refine filter_congr fun s hs => ?_
  have hiff := (resolveTrackKeepIds_spec h.ids hkeep).2 s (mem_sortBy.mp hs)
  rw [Bool.and_comm]
  congr 1
  rw [Bool.eq_iff_iff, decide_eq_true_iff, hiff]

theorem retainedStreams_some (h : Distinct facts)
    (hkeep : resolveTrackKeepIds facts actions = .ok keepIds) (target : TrackTarget) :
    retainedStreams facts keepIds (some target) = ofKind target (survivors actions facts) :=
  sortBy_kept h hkeep fun s => s.kind = target

theorem retainedStreams_none (h : Distinct facts)
    (hkeep : resolveTrackKeepIds facts actions = .ok keepIds) :
    retainedStreams facts keepIds none = ordinary (survivors actions facts) :=
  sortBy_kept h hkeep fun s => s.kind ≠ .attachment

/-- The filter can be evaluated on every stream, and one matches. -/
def Selects (filter : TrackFilter) (streams : List SnapshotStreamFact) (id : String) : Prop :=
  (∀ s ∈ streams, ∃ matched, evaluateFilter filter s = .ok matched) ∧
    (streams.filter (evaluateFilter filter · = .ok true)).map (·.snapshotStreamId) = [id]

theorem foldlM_pushIfMatched {filter : TrackFilter} {found found' : List String} :
    streams.foldlM (pushIfMatched filter) found = .ok found' ↔
      (∀ s ∈ streams, ∃ matched, evaluateFilter filter s = .ok matched) ∧
      found' = found ++
        (streams.filter (evaluateFilter filter · = .ok true)).map (·.snapshotStreamId) := by
  induction streams generalizing found with
  | nil =>
    simp [pure, Except.pure, eq_comm]
  | cons s _ ih =>
    rw [foldlM_cons]
    cases hs : evaluateFilter filter s with
    | error e =>
      refine ⟨fun h => ?_, fun h => ?_⟩
      · obtain ⟨_, hnext, -⟩ := bind_ok.mp h
        obtain ⟨_, hmatch, -⟩ := bind_ok.mp hnext
        rw [hs] at hmatch
        cases hmatch
      · obtain ⟨_, hmatch⟩ := h.1 s mem_cons_self
        rw [hs] at hmatch
        cases hmatch
    | ok matched =>
      have hstep : pushIfMatched filter found s =
          .ok (if matched then found ++ [s.snapshotStreamId] else found) := by
        unfold pushIfMatched
        rw [bind_of_ok hs]
        rfl
      rw [bind_of_ok hstep, ih]
      cases matched <;> simp [hs]

theorem resolveUniqueFilter_ok_iff {filter : TrackFilter} {operation : RemuxFilterOperation}
    {id : String} :
    resolveUniqueFilter streams filter operation = .ok id ↔ Selects filter streams id := by
  unfold resolveUniqueFilter Selects
  rw [bind_ok]
  constructor
  · rintro ⟨_, hfound, h⟩
    obtain ⟨heval, rfl⟩ := foldlM_pushIfMatched.mp hfound
    refine ⟨heval, ?_⟩
    split at h
    next heq => cases h; simpa using heq
    · cases h
    · cases h
  · rintro ⟨heval, heq⟩
    exact ⟨[id], foldlM_pushIfMatched.mpr ⟨heval, by rw [heq]; rfl⟩, rfl⟩

/-- The place of a stream's language in the list of preferred ones. -/
def languageRank (languages : List String) (stream : SnapshotStreamFact) : Nat :=
  languages.idxOf <| match stream.language with
    | .value language => language
    | _ => "und"

/-- Every language that is looked at is known. -/
def Ranked (languages : List String) (streams : List SnapshotStreamFact) : Prop :=
  languages ≠ [] → ∀ s ∈ streams, s.language ≠ .malformed

theorem languageOf_ok (languages : List String) (h : stream.language ≠ .malformed) :
    ∃ language, languageOf stream = .ok language ∧
      languages.idxOf language = languageRank languages stream := by
  unfold languageOf languageRank
  cases hl : stream.language with
  | missing | value => exact ⟨_, rfl, rfl⟩
  | malformed => exact absurd hl h

theorem not_malformed_of_languageOf {language : String} (h : languageOf stream = .ok language) :
    stream.language ≠ .malformed := by
  intro hl
  rw [languageOf, hl] at h
  cases h

/-- A round of the ranking keeps the first of the best. -/
theorem rankStream_eq (languages : List String) (best : BestSoFar)
    (h : stream.language ≠ .malformed) : ∃ untagged,
      rankStream languages best stream = .ok
        (if best.rank.all (languageRank languages stream < ·) then
          ⟨stream, some (languageRank languages stream), untagged⟩
        else { best with untagged := untagged }) := by
  obtain ⟨language, hlang, hrank⟩ := languageOf_ok languages h
  refine ⟨best.untagged || stream.language = .missing, ?_⟩
  unfold rankStream
  rw [bind_of_ok hlang, hrank]
  rfl

theorem foldlM_rankStream {best best' : BestSoFar}
    (hrank : best.rank = some (languageRank languages best.selected))
    (h : streams.foldlM (rankStream languages) best = .ok best') :
    IsFirstMin (languageRank languages) (best.selected :: streams) best'.selected := by
  induction streams generalizing best with
  | nil =>
    cases h
    exact .of_head fun b hb => nomatch hb
  | cons s _ ih =>
    obtain ⟨_, hnext, hrest⟩ := bind_ok.mp h
    obtain ⟨_, hlang, -⟩ := bind_ok.mp hnext
    obtain ⟨_, heq⟩ := rankStream_eq languages best (not_malformed_of_languageOf hlang)
    rw [heq, hrank] at hnext
    by_cases hlt : languageRank languages s < languageRank languages best.selected
    · rw [if_pos (by simpa using hlt)] at hnext
      cases hnext
      have hmin := ih rfl hrest
      exact .inr ⟨Nat.lt_of_le_of_lt (hmin.le s mem_cons_self) hlt, hmin⟩
    · rw [if_neg (by simpa using hlt)] at hnext
      cases hnext
      rcases ih rfl hrest with ⟨hsel, hall⟩ | ⟨hbelow, hmin⟩
      · exact .inl ⟨hsel, forall_mem_cons.mpr ⟨Nat.not_lt.mp hlt, hall⟩⟩
      · exact .inr ⟨hbelow, .inr ⟨Nat.lt_of_lt_of_le hbelow (Nat.not_lt.mp hlt), hmin⟩⟩

/-- The stream `best` selects is the first of the best rank. -/
theorem resolveBestDefault_spec {resolved : Option ResolvedBestDefault}
    (h : resolveBestDefault streams languages = .ok resolved) :
    Ranked languages streams ∧
      ((streams = [] ∧ resolved = none) ∨ ∃ best m, resolved = some best ∧
        best.selectedSnapshotStreamId = m.snapshotStreamId ∧
        IsFirstMin (languageRank languages) streams m) := by
  unfold resolveBestDefault at h
  split at h
  · cases h
    exact ⟨fun _ s hs => (nomatch hs), .inl ⟨rfl, rfl⟩⟩
  next first rest =>
  split at h
  next hnil =>
    cases h
    refine ⟨fun hne => absurd hnil hne, .inr ⟨_, first, rfl, rfl, ?_⟩⟩
    rw [hnil]
    exact .of_head fun b _ => Nat.le_refl 0
  · obtain ⟨best, hbest, heq⟩ := bind_ok.mp h
    cases heq
    have hranked : ∀ s ∈ first :: rest, s.language ≠ .malformed := by
      intro s hs
      obtain ⟨_, _, hround⟩ := foldlM_ok_mem hbest s hs
      obtain ⟨_, hlang, -⟩ := bind_ok.mp hround
      exact not_malformed_of_languageOf hlang
    refine ⟨fun _ => hranked, .inr ⟨_, best.selected, rfl, rfl, ?_⟩⟩
    obtain ⟨_, hnext, hrest⟩ := bind_ok.mp hbest
    obtain ⟨_, hfirst⟩ := rankStream_eq languages ⟨first, none, false⟩ (hranked first mem_cons_self)
    rw [hfirst] at hnext
    cases hnext
    exact foldlM_rankStream rfl hrest

theorem exists_resolveBestDefault (h : Ranked languages streams) :
    ∃ resolved, resolveBestDefault streams languages = .ok resolved := by
  unfold resolveBestDefault
  split
  · exact ⟨_, rfl⟩
  next first rest =>
  split
  · exact ⟨_, rfl⟩
  next hne =>
  have hrounds : ∀ s ∈ first :: rest, ∀ best, ∃ best', rankStream languages best s = .ok best' := by
    intro s hs best
    obtain ⟨_, heq⟩ := rankStream_eq languages best (h hne s hs)
    exact ⟨_, heq⟩
  obtain ⟨_, hbest⟩ := exists_foldlM hrounds ⟨first, none, false⟩
  exact ⟨_, bind_of_ok hbest _⟩

end Selected

/-! ### Defaults operations -/

/-- The streams an operation selects from are all known well enough. -/
def Resolvable (languages : List String) (streams : List SnapshotStreamFact)
    (op : DefaultsOperation) : Prop :=
  match op.filter, op.strategy with
  | some filter, _ => ∃ id, Selects filter streams id
  | none, .best => Ranked languages streams
  | none, _ => True

/-- The action an operation resolves to. -/
def Resolves (languages : List String) (streams : List SnapshotStreamFact)
    (op : DefaultsOperation) (action : RemuxDefaultAction) : Prop :=
  action.target = op.target ∧ action.strategy = op.strategy ∧
    match op.filter, op.strategy with
    | some filter, _ =>
        ∃ id, Selects filter streams id ∧ action.selectedSnapshotStreamId = some id
    | none, .best => ∃ m, IsFirstMin (languageRank languages) streams m ∧
        action.selectedSnapshotStreamId = some m.snapshotStreamId
    | none, _ => action.selectedSnapshotStreamId = none

/-- `best` has nothing to select from. -/
def Idle (streams : List SnapshotStreamFact) (op : DefaultsOperation) : Prop :=
  op.filter = none ∧ op.strategy = .best ∧ streams = []

abbrev streamsFor (facts : List SnapshotStreamFact) (keepIds : List String)
    (op : DefaultsOperation) : List SnapshotStreamFact :=
  retainedStreams facts keepIds (some op.target)

section Defaults
variable {facts : List SnapshotStreamFact} {keepIds languages : List String}
  {explicitTargets : List TrackTarget} {op : DefaultsOperation} {defaults : List DefaultsOperation}
  {resolved resolved' : RemuxDefaultsResolution} {actions : List RemuxDefaultAction}

theorem resolveDefaultAction_spec (hshadow : op.filter = none → op.target ∉ explicitTargets)
    (h : resolveDefaultAction facts keepIds languages explicitTargets resolved op =
      .ok resolved') :
    Resolvable languages (streamsFor facts keepIds op) op ∧
      ((Idle (streamsFor facts keepIds op) op ∧ resolved'.actions = resolved.actions) ∨
        ∃ action, Resolves languages (streamsFor facts keepIds op) op action ∧
          resolved'.actions = resolved.actions ++ [action]) := by
  obtain ⟨_, strategy, filter⟩ := op
  unfold resolveDefaultAction at h
  cases filter with
  | some =>
    obtain ⟨id, hid, heq⟩ := bind_ok.mp h
    cases heq
    have hsel := resolveUniqueFilter_ok_iff.mp hid
    exact ⟨⟨id, hsel⟩, .inr ⟨_, ⟨rfl, rfl, id, hsel, rfl⟩, rfl⟩⟩
  | none =>
    dsimp only at h
    rw [if_neg (hshadow rfl)] at h
    split at h
    next hbest =>
      obtain ⟨best, hres, heq⟩ := bind_ok.mp h
      obtain rfl : strategy = .best := hbest
      obtain ⟨hranked, ⟨hnil, rfl⟩ | ⟨_, m, rfl, hid, hmin⟩⟩ :=
        resolveBestDefault_spec hres
      · cases heq
        exact ⟨hranked, .inl ⟨⟨rfl, rfl, hnil⟩, rfl⟩⟩
      · cases heq
        exact ⟨hranked, .inr ⟨_, ⟨rfl, rfl, m, hmin, congrArg some hid⟩, rfl⟩⟩
    next hbest =>
    cases h
    cases strategy with
    | best => exact absurd rfl hbest
    | first | none | preserve => exact ⟨trivial, .inr ⟨_, ⟨rfl, rfl, rfl⟩, rfl⟩⟩

theorem exists_resolveDefaultAction (h : Resolvable languages (streamsFor facts keepIds op) op)
    (resolved : RemuxDefaultsResolution) :
    ∃ resolved', resolveDefaultAction facts keepIds languages explicitTargets resolved
      op = .ok resolved' := by
  obtain ⟨_, strategy, filter⟩ := op
  unfold resolveDefaultAction
  cases filter with
  | some =>
    obtain ⟨_, hid⟩ := h
    exact ⟨_, bind_of_ok (resolveUniqueFilter_ok_iff.mpr hid) _⟩
  | none =>
    dsimp only
    split
    · exact ⟨_, rfl⟩
    split
    next hbest =>
      obtain rfl : strategy = .best := hbest
      obtain ⟨best, hres⟩ := exists_resolveBestDefault h
      rw [bind_of_ok hres]
      cases best <;> exact ⟨_, rfl⟩
    · exact ⟨_, rfl⟩

/-- The targets with a filter, if they are all different. -/
theorem explicitDefaultTargets_ok_iff {targets : List TrackTarget} :
    explicitDefaultTargets defaults = .ok targets ↔
      targets = (defaults.filter (·.filter.isSome)).map (·.target) ∧ targets.Nodup :=
  foldlM_pushNew_ok_iff (fun _ _ h => if_pos (by simpa using h))
    fun _ _ h => if_neg (by simpa using Option.isSome_iff_ne_none.mp h)

theorem validateBest_ok (hone : (defaults.map (·.target)).Nodup) :
    validateBestDefaultStrategyConflicts defaults explicitTargets = .ok () := by
  have hnone : defaults.find? (bestConflict defaults explicitTargets) = none := by
    refine find?_eq_none.mpr fun op _ hconflict => ?_
    obtain ⟨-, hmany⟩ := Bool.and_eq_true_iff.mp hconflict
    have hcount : (defaults.map (·.target)).count op.target ≤ 1 :=
      nodup_iff_count_le_one.mp hone op.target
    have hle : (defaults.countP fun candidate =>
        candidate.filter.isNone && candidate.target = op.target) ≤
        (defaults.map (·.target)).count op.target := by
      rw [count, countP_map]
      refine countP_mono_left fun _ _ hboth => ?_
      simpa using (Bool.and_eq_true_iff.mp hboth).2
    have := of_decide_eq_true hmany
    omega
  rw [validateBestDefaultStrategyConflicts, hnone]

theorem not_shadowed (hone : (defaults.map (·.target)).Nodup) (hop : op ∈ defaults)
    (hfilt : op.filter = none) :
    op.target ∉ (defaults.filter (·.filter.isSome)).map (·.target) := by
  intro hmem
  obtain ⟨_, hother, htgt⟩ := mem_map.mp hmem
  obtain ⟨hother, hsome⟩ := mem_filter.mp hother
  rw [inj_on_of_nodup_map hone hother hop htgt, hfilt] at hsome
  cases hsome

/-- The actions of a run over operations none of which is shadowed. -/
theorem foldlM_resolveDefaultAction
    (hshadow : ∀ op ∈ defaults, op.filter = none → op.target ∉ explicitTargets) (h : defaults.foldlM
      (resolveDefaultAction facts keepIds languages explicitTargets) resolved =
        .ok resolved') : (∀ op ∈ defaults,
      Resolvable languages (streamsFor facts keepIds op) op) ∧
    (∀ action ∈ resolved'.actions, action ∈ resolved.actions ∨ ∃ op ∈ defaults,
      Resolves languages (streamsFor facts keepIds op) op action) ∧
    (∀ action ∈ resolved.actions, action ∈ resolved'.actions) ∧
    (∀ op ∈ defaults, Idle (streamsFor facts keepIds op) op ∨
      ∃ action ∈ resolved'.actions,
        Resolves languages (streamsFor facts keepIds op) op action) := by
  induction defaults generalizing resolved with
  | nil =>
    cases h
    exact ⟨fun op hop => (nomatch hop), fun action ha => .inl ha, fun _ ha => ha,
      fun _ hop => (nomatch hop)⟩
  | cons op _ ih =>
    obtain ⟨hop, hlater⟩ := forall_mem_cons.mp hshadow
    obtain ⟨_, hnext, hrest⟩ := bind_ok.mp h
    obtain ⟨hresolvable, hone⟩ := resolveDefaultAction_spec hop hnext
    obtain ⟨hall, hfrom, hkept, heach⟩ := ih hlater hrest
    refine ⟨forall_mem_cons.mpr ⟨hresolvable, hall⟩, ?_, ?_, ?_⟩
    · intro action ha
      rcases hfrom action ha with hbef | ⟨other, hother, hres⟩
      · rcases hone with ⟨-, hsame⟩ | ⟨_, hres, hpush⟩
        · exact .inl (hsame ▸ hbef)
        rw [hpush] at hbef
        rcases mem_append.mp hbef with hold | hnew
        · exact .inl hold
        · rw [mem_singleton.mp hnew]
          exact .inr ⟨op, mem_cons_self, hres⟩
      · exact .inr ⟨other, mem_cons_of_mem op hother, hres⟩
    · intro action ha
      rcases hone with ⟨-, hsame⟩ | ⟨new, -, hpush⟩
      · exact hkept action (hsame ▸ ha)
      · exact hkept action (hpush ▸ mem_append_left [new] ha)
    · refine forall_mem_cons.mpr ⟨?_, heach⟩
      rcases hone with ⟨hidle, -⟩ | ⟨new, hres, hpush⟩
      · exact .inl hidle
      · refine .inr ⟨new, hkept new ?_, hres⟩
        rw [hpush]
        exact mem_append_right _ (mem_singleton.mpr rfl)

/-- An operation gives one action of its target at most. -/
theorem resolveDefaultAction_targets
    (h : resolveDefaultAction facts keepIds languages explicitTargets resolved op =
      .ok resolved') : resolved'.actions.map (·.target) = resolved.actions.map (·.target) ∨
      resolved'.actions.map (·.target) = resolved.actions.map (·.target) ++ [op.target] := by
  obtain ⟨_, _, filter⟩ := op
  unfold resolveDefaultAction at h
  cases filter with
  | some =>
    obtain ⟨_, -, heq⟩ := bind_ok.mp h
    cases heq
    exact .inr map_append
  | none =>
    dsimp only at h
    split at h
    · cases h
      exact .inl rfl
    split at h
    · obtain ⟨best, -, heq⟩ := bind_ok.mp h
      cases best with
      | none => cases heq; exact .inl rfl
      | some => cases heq; exact .inr map_append
    · cases h
      exact .inr map_append

theorem foldlM_resolveDefaultAction_targets (h : defaults.foldlM
      (resolveDefaultAction facts keepIds languages explicitTargets) resolved =
        .ok resolved') : (resolved'.actions.map (·.target)).Sublist
      (resolved.actions.map (·.target) ++ defaults.map (·.target)) := by
  induction defaults generalizing resolved with
  | nil =>
    cases h
    simp
  | cons _ _ ih =>
    obtain ⟨_, hnext, hrest⟩ := bind_ok.mp h
    refine (ih hrest).trans ?_
    rcases resolveDefaultAction_targets hnext with hsame | hpush
    · rw [hsame]
      exact (sublist_cons_self _ _).append_left _
    · rw [hpush, map_cons, append_assoc, singleton_append]

section Actions
variable {operations : List CompiledOperation} {resolved : RemuxDefaultsResolution}

theorem resolveDefaultActions_eq (hone : ((operations.filterMap defaults?).map (·.target)).Nodup) :
    resolveDefaultActions operations facts keepIds languages =
      (operations.filterMap defaults?).foldlM (resolveDefaultAction facts keepIds
        languages (((operations.filterMap defaults?).filter (·.filter.isSome)).map
          (·.target))) ⟨[], false⟩ := by
  have htgts := explicitDefaultTargets_ok_iff.mpr ⟨rfl, hone.sublist (filter_sublist.map _)⟩
  unfold resolveDefaultActions
  rw [bind_of_ok htgts, bind_of_ok (validateBest_ok hone)]

section
variable (hone : ((operations.filterMap defaults?).map (·.target)).Nodup)
include hone

/-- With one operation a target, the actions are those of the operations. -/
theorem resolveDefaultActions_spec
    (h : resolveDefaultActions operations facts keepIds languages = .ok resolved) :
    (∀ op ∈ operations.filterMap defaults?, Resolvable languages (streamsFor facts keepIds op) op) ∧
    (∀ action ∈ resolved.actions, ∃ op ∈ operations.filterMap defaults?,
      Resolves languages (streamsFor facts keepIds op) op action) ∧
    (∀ op ∈ operations.filterMap defaults?,
      Idle (streamsFor facts keepIds op) op ∨ ∃ action ∈ resolved.actions,
        Resolves languages (streamsFor facts keepIds op) op action) := by
  rw [resolveDefaultActions_eq hone] at h
  obtain ⟨hall, hfrom, -, heach⟩ :=
    foldlM_resolveDefaultAction (fun _ hop => not_shadowed hone hop) h
  refine ⟨hall, fun action ha => ?_, heach⟩
  exact (hfrom action ha).resolve_left not_mem_nil

theorem resolveDefaultActions_targets
    (h : resolveDefaultActions operations facts keepIds languages = .ok resolved) :
    (resolved.actions.map (·.target)).Nodup := by
  rw [resolveDefaultActions_eq hone] at h
  exact hone.sublist (foldlM_resolveDefaultAction_targets h)

theorem exists_resolveDefaultActions
    (h : ∀ op ∈ operations.filterMap defaults?,
      Resolvable languages (streamsFor facts keepIds op) op) :
    ∃ resolved, resolveDefaultActions operations facts keepIds languages =
      .ok resolved := by
  rw [resolveDefaultActions_eq hone]
  exact exists_foldlM (fun op hop => exists_resolveDefaultAction (h op hop)) _

end

end Actions

/-! ### Changes -/

theorem flagsDiffer_eq {streams : List SnapshotStreamFact} {wanted : SnapshotStreamFact → Bool}
    (h : ∀ s ∈ streams, ∃ value, s.isDefault = .value value) :
    flagsDiffer wanted streams =
      .ok (streams.any fun s => s.isDefault ≠ .value (wanted s)) := by
  unfold flagsDiffer
  rw [foldlM_any (g := fun s => s.isDefault ≠ .value (wanted s))]
  · rw [Bool.false_or]
  · intro s hs _
    obtain ⟨value, hvalue⟩ := h s hs
    have hfact : requiredFact s.isDefault = .ok value := by rw [hvalue]; rfl
    rw [bind_of_ok hfact, hvalue]
    simp [pure, Except.pure]

/-- Nothing is changed when no action changes anything. -/
theorem defaultsChange_false_iff
    (h : ∀ action ∈ actions, ∃ differ, defaultChanges facts keepIds action = .ok differ) :
    ∃ changed, defaultsChange actions facts keepIds = .ok changed ∧
      (changed = false ↔ ∀ action ∈ actions, defaultChanges facts keepIds action = .ok false) := by
  let g := fun action => match defaultChanges facts keepIds action with
    | .ok differ => differ
    | .error _ => false
  have hg : ∀ action ∈ actions, defaultChanges facts keepIds action = .ok (g action) := by
    intro action ha
    obtain ⟨_, hdiff⟩ := h action ha
    simp only [g, hdiff]
  refine ⟨actions.any g, ?_, ?_⟩
  · unfold defaultsChange
    rw [foldlM_any (g := g), Bool.false_or]
    intro action ha _
    rw [bind_of_ok (hg action ha)]
    rfl
  · rw [any_eq_false]
    refine forall_congr' fun action => forall_congr' fun ha => ?_
    rw [hg action ha, Bool.not_eq_true]
    exact ⟨congrArg _, Except.ok.inj⟩

theorem defaultChanges_ok {changed : Bool}
    (h : defaultsChange actions facts keepIds = .ok changed) :
    ∀ action ∈ actions, ∃ differ, defaultChanges facts keepIds action = .ok differ := by
  intro action ha
  obtain ⟨_, _, hround⟩ := foldlM_ok_mem h action ha
  obtain ⟨differ, hdiff, -⟩ := bind_ok.mp hround
  exact ⟨differ, hdiff⟩

end Defaults

/-! ## Order -/

/-- The head a track order asks for. -/
def Heads (headFilter : Option TrackFilter) (streams : List SnapshotStreamFact)
    (head : Option String) : Prop :=
  match headFilter with
  | none => head = none
  | some filter => ∃ id, Selects filter streams id ∧ head = some id

section Order
variable {facts : List SnapshotStreamFact} {keepIds : List String}
  {operations : List CompiledOperation} {targets : List TrackTarget}
  {headFilter : Option TrackFilter}

theorem resolveHead_ok_iff {head : Option String} :
    resolveHead facts keepIds headFilter = .ok head ↔
      Heads headFilter (retainedStreams facts keepIds none) head := by
  cases headFilter with
  | none => simp [resolveHead, Heads, eq_comm]
  | some =>
    simp only [resolveHead, bind_ok, return_ok, resolveUniqueFilter_ok_iff]
    refine exists_congr fun _ => and_congr_right fun _ => eq_comm

/-- A group with one order: it is well formed and its head is selected. -/
theorem resolveTrackOrder_ok_iff (hreord : operations.filterMap reorder? = [(targets, headFilter)])
    {r : List RemuxTrackGroup × Option String × Bool} :
    resolveTrackOrder operations facts keepIds = .ok r ↔
      (targets.Nodup ∧ (targets ≠ [] ∨ headFilter.isSome)) ∧
        ∃ head, Heads headFilter (retainedStreams facts keepIds none) head ∧
          (targets.map remuxTrackGroup, head,
            desiredOrderChanges facts keepIds targets head) = r := by
  simp only [resolveTrackOrder, hreord, bind_ok, require_ok, return_ok, resolveHead_ok_iff]
  constructor
  · rintro ⟨_, hval, h⟩
    exact ⟨hval, h⟩
  · rintro ⟨hval, h⟩
    exact ⟨(), hval, h⟩

end Order

/-! ## A group of operations -/

/-- The default actions are those the operations ask for of the kept streams. -/
structure Decided (operations : List CompiledOperation) (languages : List String)
    (kept : List SnapshotStreamFact) (actions : List RemuxDefaultAction) : Prop where
  targets : (actions.map (·.target)).Nodup
  resolvable : ∀ op ∈ operations.filterMap defaults?,
    Resolvable languages (ofKind op.target kept) op
  of_action : ∀ action ∈ actions, ∃ op ∈ operations.filterMap defaults?,
    Resolves languages (ofKind op.target kept) op action
  of_operation : ∀ op ∈ operations.filterMap defaults?, Idle (ofKind op.target kept) op ∨
    ∃ action ∈ actions, Resolves languages (ofKind op.target kept) op action

/-- The order and the head of a payload are those the operations ask for. -/
def Ordered (operations : List CompiledOperation) (kept : List SnapshotStreamFact)
    (payload : RemuxOperationPayload) (targets : List TrackTarget) : Prop :=
  payload.trackOrder = targets.map remuxTrackGroup ∧
    match operations.filterMap reorder? with
    | [] => payload.headSnapshotStreamId = none
    | [(order, headFilter)] =>
        targets = order ∧ (order.Nodup ∧ (order ≠ [] ∨ headFilter.isSome)) ∧
          Heads headFilter (ordinary kept) payload.headSnapshotStreamId
    | _ => False

section Group
variable {snapshot : MediaSnapshotInput} {facts : List SnapshotStreamFact}
  {operations : List CompiledOperation} {languages : List String}

theorem reorders_eq_false (h : operations.filterMap reorder? = []) :
    operations.any (·.reorder?.isSome) = false := by
  rw [any_eq_false]
  intro operation hmem
  rw [filterMap_eq_nil_iff.mp h operation hmem]
  exact Bool.false_ne_true

theorem reorders_eq_true {order : List TrackTarget × Option TrackFilter}
    (h : operations.filterMap reorder? = [order]) : operations.any (·.reorder?.isSome) = true := by
  have hmem : order ∈ operations.filterMap reorder? := h ▸ mem_singleton.mpr rfl
  obtain ⟨operation, hop, heq⟩ := mem_filterMap.mp hmem
  rw [any_eq_true]
  exact ⟨operation, hop, by rw [heq]; rfl⟩

/-- A group without an order keeps the one of its base payload. -/
theorem baseTrackOrder_eq (h : operations.filterMap reorder? = []) :
    ∃ targets : List TrackTarget, baseTrackOrder operations = targets.map remuxTrackGroup := by
  unfold baseTrackOrder
  rw [h]
  dsimp only
  split
  · exact ⟨[.video, .audio, .subtitle], rfl⟩
  · exact ⟨[], rfl⟩

/-- A group is resolved when each of its resolutions is. -/
theorem resolveTrackOperations_of {payload : RemuxOperationPayload} {keepIds : List String}
    {resolved : RemuxDefaultsResolution} {order : List RemuxTrackGroup} {head : Option String}
    {changed moved : Bool} (hkeep : resolveTrackKeepIds facts payload.trackActions = .ok keepIds)
    (hres : resolveDefaultActions operations facts keepIds languages = .ok resolved)
    (hchanged : defaultsChange resolved.actions facts keepIds = .ok changed)
    (hord : resolveTrackOrder operations facts keepIds = .ok (order, head, moved)) :
    ∃ resolution, resolveTrackOperations facts operations languages payload =
        .ok resolution ∧
      resolution.payload.container = payload.container ∧
      resolution.trackSelectionChanged =
        ((facts.any fun stream => stream.snapshotStreamId ∉ keepIds) || changed || moved) := by
  unfold resolveTrackOperations
  rw [bind_of_ok hkeep, bind_of_ok hres, bind_of_ok hchanged, bind_of_ok hord]
  exact ⟨_, rfl, rfl, rfl⟩

/-- What is known of the payload when the operations of a group are resolved. -/
structure ResolvedPayload (snapshot : MediaSnapshotInput) (operations : List CompiledOperation)
    (languages : List String) (facts : List SnapshotStreamFact)
    (payload : RemuxOperationPayload) : Prop where
  evaluable : ∀ action ∈ operations.filterMap trackAction?, ∀ s ∈ facts, action.Evaluable s
  decided : Decided operations languages
    (survivors (operations.filterMap trackAction?) facts) payload.defaults
  first : ∀ action ∈ payload.defaults, action.strategy = .first →
    action.selectedSnapshotStreamId = none →
    ofKind action.target (survivors (operations.filterMap trackAction?) facts) ≠ []
  ordered : ∃ targets, Ordered operations (survivors (operations.filterMap trackAction?) facts)
    payload targets
  base : ∃ defaults order head, payload = { baseRemuxPayload snapshot operations with
    defaults := defaults, trackOrder := order, headSnapshotStreamId := head }

theorem resolveTrackOperations_spec (hfacts : Distinct facts)
    (hone : ((operations.filterMap defaults?).map (·.target)).Nodup) {resolution : RemuxResolution}
    (h : resolveTrackOperations facts operations languages
      (baseRemuxPayload snapshot operations) = .ok resolution) :
    ResolvedPayload snapshot operations languages facts resolution.payload := by
  simp only [resolveTrackOperations, bind_ok, return_ok] at h
  obtain ⟨keepIds, hkeep, _, hres, _, hchanged, ⟨_, _, _⟩, hord, rfl⟩ := h
  obtain ⟨heval, -⟩ := resolveTrackKeepIds_spec hfacts.ids hkeep
  obtain ⟨hall, hfrom, heach⟩ := resolveDefaultActions_spec hone hres
  simp only [retainedStreams_some hfacts hkeep] at hall hfrom heach
  have htgts := resolveDefaultActions_targets hone hres
  refine ⟨heval, ⟨htgts, hall, hfrom, heach⟩, ?_, ?_, _, _, _, rfl⟩
  · intro action ha hfirst hnone hnil
    obtain ⟨_, hdiff⟩ := defaultChanges_ok hchanged action ha
    have hnil' : retainedStreams facts keepIds (some action.target) = [] :=
      (retainedStreams_some hfacts hkeep _).trans hnil
    rw [defaultChanges, hfirst, hnone] at hdiff
    rw [hnil'] at hdiff
    cases hdiff
  · cases hreord : operations.filterMap reorder? with
    | nil =>
      rw [resolveTrackOrder, hreord] at hord
      cases hord
      obtain ⟨targets, htgts⟩ := baseTrackOrder_eq hreord
      refine ⟨targets, ?_, ?_⟩
      · rw [reorders_eq_false hreord]
        exact htgts
      · rw [hreord]
    | cons first rest =>
      cases rest with
      | nil =>
        obtain ⟨targets, _⟩ := first
        obtain ⟨hval, _, hhead, heq⟩ := (resolveTrackOrder_ok_iff hreord).mp hord
        cases heq
        refine ⟨targets, ?_, ?_⟩
        · rw [reorders_eq_true hreord]
          rfl
        · rw [hreord]
          exact ⟨rfl, hval, retainedStreams_none hfacts hkeep ▸ hhead⟩
      | cons =>
        rw [resolveTrackOrder, hreord] at hord
        cases hord

end Group

/-! ## Plans -/

theorem get_of_requiredString {value : Option Json} {id : String}
    (h : StreamFacts.requiredString value = .ok id) : value.isSome = true := by
  cases value with
  | none => cases h
  | some => rfl

variable {facts : List SnapshotStreamFact}

/-- Facts that can be read have the shape that is looked for before reading them. -/
theorem hasRemuxStreamFactShape_of_streamFacts {snapshot : MediaSnapshotInput}
    (h : streamFacts snapshot = .ok facts) : hasRemuxStreamFactShape snapshot = true := by
  obtain ⟨_, hstreams, hfold⟩ := bind_ok.mp h
  rw [hasRemuxStreamFactShape, find_ok.mp hstreams]
  refine all_eq_true.mpr fun stream hmem => ?_
  obtain ⟨_, _, hround⟩ := foldlM_ok_mem hfold stream hmem
  simp only [StreamFacts.addStream, StreamFacts.streamFact, bind_ok, find_ok] at hround
  obtain ⟨_, ⟨_, -, _, hid, _, -, _, hindex, _, -, _, -, _, hkind, -⟩, -⟩ := hround
  obtain ⟨_, hjson, -⟩ := Option.bind_eq_some_iff.mp hindex
  simp [get_of_requiredString hid, get_of_requiredString hkind, hjson]

variable {operations : List CompiledOperation}

/-- A file with facts needs a video stream, and its track operations are resolved, if there
are any. -/
theorem resolveRemuxOperations_eq {snapshot : MediaSnapshotInput} {languages : List String}
    (hfacts : streamFacts snapshot = .ok facts) :
    resolveRemuxOperations snapshot operations languages = (do
      require (∃ stream ∈ facts, stream.kind = .video) .unsupportedMediaShape
      if operations.any (·.container?.isNone) then
        resolveTrackOperations facts operations languages
          (baseRemuxPayload snapshot operations)
      else return ⟨baseRemuxPayload snapshot operations, false, false⟩) := by
  unfold resolveRemuxOperations
  dsimp only
  rw [hasRemuxStreamFactShape_of_streamFacts hfacts, Bool.not_true, Bool.and_false,
    if_neg Bool.false_ne_true, bind_of_ok hfacts]

/-- A group without track operations. -/
theorem no_track_operations (h : operations.any (·.container?.isNone) = false) :
    operations.filterMap trackAction? = [] ∧ operations.filterMap reorder? = [] ∧
      operations.filterMap defaults? = [] := by
  rw [any_eq_false] at h
  refine ⟨filterMap_eq_nil_iff.mpr fun operation hmem => ?_,
    filterMap_eq_nil_iff.mpr fun operation hmem => ?_,
    filterMap_eq_nil_iff.mpr fun operation hmem => ?_⟩
  all_goals
    have hnot := h operation hmem
    cases operation <;> first | rfl | exact absurd rfl hnot

section Plan
variable {phaseName : String} {snapshot : MediaSnapshotInput}
  {operations : List CompiledOperation} {languages : List String}

theorem planGroup_noOp_iff :
    (planGroup phaseName snapshot operations languages).status = .noOp ↔
      ∃ resolution, resolveRemuxOperations snapshot operations languages =
          .ok resolution ∧ resolution.trackSelectionChanged = false ∧
        ∃ current, snapshot.container = some current ∧
          eqIgnoreAsciiCase current resolution.payload.container = true := by
  unfold planGroup
  cases hres : resolveRemuxOperations snapshot operations languages with
  | error block =>
    cases block <;> simp [remuxBlockShape, shapeOutcome]
  | ok resolution =>
    cases hcont : snapshot.container with
    | none => simp [remuxGroupShape, shapeOutcome, hcont]
    | some current =>
      cases hsame : eqIgnoreAsciiCase current resolution.payload.container <;>
        cases hchanged : resolution.trackSelectionChanged <;>
          simp [remuxGroupShape, shapeOutcome, hcont, hsame, hchanged]

theorem planGroup_planned
    (h : (planGroup phaseName snapshot operations languages).status = .planned) :
    ∃ resolution, resolveRemuxOperations snapshot operations languages =
        .ok resolution ∧
      (planGroup phaseName snapshot operations languages).operationPayload =
        resolution.payload := by
  unfold planGroup at h ⊢
  cases hres : resolveRemuxOperations snapshot operations languages with
  | error block =>
    rw [hres] at h
    cases block <;> simp [remuxBlockShape, shapeOutcome] at h
  | ok resolution => exact ⟨resolution, rfl, rfl⟩

end Plan

end RemuxPlanner

end Voom
