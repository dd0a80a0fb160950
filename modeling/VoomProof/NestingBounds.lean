import VoomProof.LoweredTexts

/-!
# How deep a policy nests

Statements, list literals and track filters spend levels that the parsers count, so their
depth is bounded by constants. Conditions are not counted. What bounds a compiled condition
is the size limit of an accepted source: it nests no deeper than its text is long.

Reading a condition within the size limit, validation ends after as many levels, but lowering
only if it is never stuck (`Stuck`).
-/

namespace Voom
open RustText Fallible TrackFilterParser List Option Nat
open Voom.Parser (Shallow MAX_LEVELS)

/-! ## Depth -/

mutual

def TrackFilter.depth : TrackFilter → Nat
  | .not inner => inner.depth + 1
  | .and filters | .or filters => filtersDepth filters + 1
  | _ => 1

def filtersDepth : List TrackFilter → Nat
  | [] => 0
  | filter :: rest => max filter.depth (filtersDepth rest)

end

mutual

def CompiledCondition.depth : CompiledCondition → Nat
  | .exists _ filter => (filter.map (·.depth)).getD 0 + 1
  | .not inner => inner.depth + 1
  | .and conditions | .or conditions => conditionsDepth conditions + 1
  | _ => 1

def conditionsDepth : List CompiledCondition → Nat
  | [] => 0
  | condition :: rest => max condition.depth (conditionsDepth rest)

end

def settingsDepth (settings : List SettingAst) : Nat := exprsDepth (settings.map (·.value))

mutual

def StatementAst.depth : StatementAst → Nat
  | .raw _ _ _ => 1
  | .block _ _ statements _ => statementsDepth statements + 1
  | .transcodeInline _ _ settings _ | .synthesizeInline _ _ settings _ =>
      settingsDepth settings + 1

def statementsDepth : List StatementAst → Nat
  | [] => 0
  | statement :: rest => max statement.depth (statementsDepth rest)

end

def PolicyAst.depth (ast : PolicyAst) : Nat :=
  max (settingsDepth (ast.metadata ++ ast.config)) <|
    statementsDepth <| (ast.phases.flatMap fun phase => phase.controls ++ phase.operations) ++
      ast.unknownTopLevel

/-- The one bound for everything that is returned. -/
def MAX_DEPTH : Nat := MAX_SOURCE_BYTES + 1

/-! ### Filters -/

variable {n levels : Nat} {statement s : StatementAst}

section Filters
variable {text : Text} {filter : TrackFilter}

theorem filtersDepth_le {filters : List TrackFilter} (h : ∀ filter ∈ filters, filter.depth ≤ n) :
    filtersDepth filters ≤ n :=
  depths_le rfl (fun _ _ => rfl) h

theorem parseScalarLeaf_depth (h : parseScalarLeaf text = some filter) : filter.depth = 1 := by
  unfold parseScalarLeaf at h
  split at h
  · unfold parseChannels at h
    split at h
    · obtain ⟨_, -, h⟩ := bind_eq_some_iff.mp h
      split at h
      · obtain ⟨_, -, rfl⟩ := map_eq_some_iff.mp h
        rfl
      · cases h
    · cases h
  split at h
  · cases h; rfl
  · cases h; rfl
  · cases h; rfl
  · cases h; rfl
  · obtain ⟨_, -, h⟩ := bind_eq_some_iff.mp h
    split at h
    · obtain ⟨⟨_, _⟩, -, h⟩ := bind_eq_some_iff.mp h
      dsimp only at h
      split at h
      · cases h; rfl
      · cases h
    · cases h

theorem parseLeaf_depth (h : parseLeaf text = some filter) : filter.depth = 1 := by
  unfold parseLeaf at h
  split at h
  · obtain ⟨_, -, rfl⟩ := map_eq_some_iff.mp h
    rfl
  split at h
  · obtain ⟨_, -, rfl⟩ := map_eq_some_iff.mp h
    rfl
  split at h
  · obtain ⟨_, -, rfl⟩ := map_eq_some_iff.mp h
    rfl
  · exact parseScalarLeaf_depth h

/-- A filter is one level deeper than its parts. -/
theorem parseExpressionWith_depth {nested : Text → Option TrackFilter}
    (hnest : ∀ text filter, nested text = some filter → filter.depth ≤ n)
    (h : parseExpressionWith nested text = some filter) : filter.depth ≤ n + 1 := by
  have hparts : ∀ {parts : List Text} {filters : List TrackFilter},
      parts.mapM nested = some filters → filtersDepth filters ≤ n := by
    intro _ _ hmap
    refine filtersDepth_le fun filter hfilt => ?_
    obtain ⟨part, -, hpart⟩ := (mapM_some_mem hmap).2 filter hfilt
    exact hnest part filter hpart
  unfold parseExpressionWith at h
  split at h
  · cases h
  obtain ⟨_, -, h⟩ := bind_eq_some_iff.mp h
  split at h
  · obtain ⟨_, hmap, rfl⟩ := map_eq_some_iff.mp h
    exact succ_le_succ (hparts hmap)
  obtain ⟨_, -, h⟩ := bind_eq_some_iff.mp h
  split at h
  · obtain ⟨_, hmap, rfl⟩ := map_eq_some_iff.mp h
    exact succ_le_succ (hparts hmap)
  split at h
  · obtain ⟨_, hin, rfl⟩ := map_eq_some_iff.mp h
    exact succ_le_succ (hnest _ _ hin)
  split at h
  · exact le_succ_of_le (hnest _ _ h)
  · rw [parseLeaf_depth h]
    exact succ_pos n

theorem parseExpression_depth (h : parseExpression n text = some filter) :
    filter.depth ≤ n + 1 := by
  induction n generalizing text filter with
  | zero =>
    have hlast : parseExpressionWith (fun _ => none) text = some filter := h
    exact parseExpressionWith_depth (n := 0) (fun _ _ hnone => by cases hnone) hlast
  | succ n ih => exact parseExpressionWith_depth (fun _ _ => ih) h

theorem parseTrackFilter_depth (h : parseTrackFilter text = some filter) :
    filter.depth ≤ MAX_FILTER_DEPTH + 1 :=
  parseExpression_depth h

theorem lowerOptionalFilter_depth {span : SourceSpan}
    (h : lowerOptionalFilter span text = .ok (some filter)) :
    filter.depth ≤ MAX_FILTER_DEPTH + 1 := by
  have hparse := find_ok.mp h
  unfold parseOptionalFilter at hparse
  split at hparse
  · obtain ⟨_, hfilt, heq⟩ := map_eq_some_iff.mp hparse
    cases heq
    exact parseTrackFilter_depth hfilt
  · split at hparse <;> cases hparse

end Filters

/-! ### Conditions -/

theorem conditionsDepth_le {conditions : List CompiledCondition}
    (h : ∀ condition ∈ conditions, condition.depth ≤ n) : conditionsDepth conditions ≤ n :=
  depths_le rfl (fun _ _ => rfl) h

theorem conditionLeaf_depth (text : Text) : (conditionLeaf text).depth = 1 := by
  unfold conditionLeaf
  dsimp only
  split
  · rfl
  split
  · rfl
  split
  · rfl
  split
  · split <;> rfl
  · rfl

variable {text : Text} {condition : CompiledCondition}

/-- A condition nests no deeper than lowering it did. -/
theorem conditionFromTextAt_depth (h : conditionFromTextAt levels text = some condition) :
    condition.depth ≤ levels := by
  induction levels generalizing text condition with
  | zero => cases h
  | succ levels ih =>
    have hparts : ∀ {parts : List Text} {conditions : List CompiledCondition},
        parts.mapM (conditionFromTextAt levels) = some conditions →
        conditionsDepth conditions ≤ levels := by
      intro _ _ hmap
      refine conditionsDepth_le fun condition hcond => ?_
      obtain ⟨_, -, hpart⟩ := (mapM_some_mem hmap).2 condition hcond
      exact ih hpart
    rw [conditionFromTextAt_succ] at h
    split at h
    case h_1 | h_2 =>
      obtain ⟨_, hmap, rfl⟩ := map_eq_some_iff.mp h
      exact succ_le_succ (hparts hmap)
    · obtain ⟨_, hin, rfl⟩ := map_eq_some_iff.mp h
      exact succ_le_succ (ih hin)
    · cases h
      rw [conditionLeaf_depth]
      exact succ_pos levels

theorem lowerCondition_depth (h : lowerCondition text = .ok condition) :
    condition.depth ≤ text.length + 1 :=
  conditionFromTextAt_depth (find_ok.mp h)

/-! ### Statements -/

theorem statementsDepth_le {statements : List StatementAst} (h : ∀ s ∈ statements, s.depth ≤ n) :
    statementsDepth statements ≤ n :=
  depths_le rfl (fun _ _ => rfl) h

theorem settingsDepth_le {settings : List SettingAst} (h : ∀ s ∈ settings, Shallow s) :
    settingsDepth settings ≤ MAX_NESTING_DEPTH + 1 :=
  exprsDepth_le (forall_mem_map.mpr h)

variable {source : Text}

theorem Produced.depth_le (h : Produced source n statement) :
    statement.depth ≤ n + (MAX_NESTING_DEPTH + 1) := by
  induction h with
  | raw => rw [StatementAst.depth]; omega
  | block _ _ _ _ ih =>
    rw [StatementAst.depth]
    have := statementsDepth_le ih
    omega
  | transcode _ _ _ hshallow | synthesize _ _ _ hshallow =>
    rw [StatementAst.depth]
    have := settingsDepth_le hshallow
    omega

theorem parsed_depth_le {ast : PolicyAst} (h : ast.Parsed source) :
    ast.depth ≤ MAX_LEVELS + (MAX_NESTING_DEPTH + 1) := by
  refine Nat.max_le.mpr ⟨Nat.le_trans (settingsDepth_le ?_) (Nat.le_add_left _ _),
    statementsDepth_le fun s hs => ?_⟩
  · exact forall_mem_append.mpr ⟨h.metadata, h.config⟩
  · rcases mem_append.mp hs with hphase | hunknown
    · obtain ⟨phase, hphase, hs⟩ := mem_flatMap.mp hphase
      rcases mem_append.mp hs with hctl | hop
      · exact (h.controls phase hphase s hctl).depth_le
      · exact (h.operations phase hphase s hop).depth_le
    · exact (h.unknown s hunknown).depth_le

/-! ## Condition texts -/

/-- A text that validation or lowering reads as a condition, in a statement or in one nested
in it. -/
inductive ConditionOf : StatementAst → Text → Prop where
  | «when» {s : StatementAst} (keyword : s.keyword.value = "when") :
      ConditionOf s (whenCondition (statementText s))
  | skip {s : StatementAst} (keyword : s.keyword.value = "skip") :
      ConditionOf s (skipCondition (statementText s))
  | loweredSkip {s : StatementAst} (keyword : s.keyword.value = "skip") :
      ConditionOf s (loweredSkipCondition (statementText s))
  | rule {keyword : Spanned String} {header : Spanned Text} {statements : List StatementAst}
      {span : SourceSpan} {name condition : Text}
      (parts : ruleHeader header.value = some (name, condition)) :
      ConditionOf (.block keyword (some header) statements span) condition
  | nested {keyword : Spanned String} {name : Option (Spanned Text)}
      {statements : List StatementAst} {span : SourceSpan} {s : StatementAst} {text : Text}
      (mem : s ∈ statements) (inner : ConditionOf s text) :
      ConditionOf (.block keyword name statements span) text

theorem ConditionOf.within (h : ConditionOf s text) (hprod : Produced source n s) :
    text <:+: source := by
  induction h generalizing n with
  | «when» hkw => exact hprod.whenCondition_within hkw
  | skip hkw => exact hprod.skipCondition_within hkw
  | loweredSkip hkw => exact hprod.loweredSkipCondition_within hkw
  | rule hparts => exact hprod.ruleCondition_within hparts
  | nested hmem _ ih =>
    cases hprod with
    | block _ _ _ hin => exact ih (hin _ hmem)

/-! ## Compiled policies -/

/-- The conditions that stand in an operation itself. -/
def CompiledOperation.ownConditions : CompiledOperation → List CompiledCondition
  | .conditional condition _ => [condition]
  | .rules _ branches => branches.filterMap (·.2.1)
  | _ => []

def CompiledOperation.ownFilter? : CompiledOperation → Option TrackFilter
  | .keepTracks _ filter | .removeTracks _ filter | .reorderTracks _ filter
  | .setDefaults _ _ filter | .transcodeAudio _ _ filter | .extractAudio _ _ filter
  | .synthesizeAudio _ _ _ filter => filter
  | _ => none

theorem length_le_sourceBytes (source : Text) : source.length ≤ sourceBytes source := by
  induction source with
  | nil => exact le_refl 0
  | cons c _ ih =>
    have := Char.utf8Size_pos c
    rw [sourceBytes, map_cons, sum_cons]
    rw [sourceBytes] at ih
    rw [length_cons]
    omega

theorem sourceBytes_of_valid {ast : PolicyAst}
    (h : hasErrors (validatePolicyAst source ast) = false) :
    sourceBytes source ≤ MAX_SOURCE_BYTES := by
  simp only [validatePolicyAst, clean_append, hasErrors_reportIf, decide_eq_false_iff_not,
    not_lt] at h
  exact h.1.1.1.1.1.1.1.1.2

variable {op : CompiledOperation}

theorem lowerTextOperation_filter {span : SourceSpan}
    {operations : Except LowerFailure (List CompiledOperation)}
    {rules : Except LowerFailure
      (List (String × Option CompiledCondition × List CompiledOperation))}
    (h : lowerTextOperation span text operations rules = .ok op) {filter : TrackFilter}
    (hfilt : op.ownFilter? = some filter) : lowerOptionalFilter span text = .ok (some filter) := by
  have hword := lowerTextOperation_keyword h
  rw [lowerTextOperation, hword] at h
  cases op with
  | keepTracks | removeTracks | setDefaults =>
    simp only [operationKeyword, lowerDefaults, bind_ok] at h
    obtain ⟨_, hfound, heq⟩ := h
    cases heq
    exact hfound.trans (congrArg Except.ok hfilt)
  | transcodeAudio =>
    simp only [operationKeyword, lowerTranscode] at h
    split at h
    · simp only [bind_ok] at h
      obtain ⟨_, hfound, heq⟩ := h
      cases heq
      exact hfound.trans (congrArg Except.ok hfilt)
    · cases return_ok.mp h
  | reorderTracks | extractAudio =>
    simp only [operationKeyword, lowerOrder, bind_ok] at h
    obtain ⟨_, -, _, hfound, heq⟩ := h
    cases heq
    exact hfound.trans (congrArg Except.ok hfilt)
  | synthesizeAudio => cases h
  | _ => cases hfilt

theorem lowerOperation_filter (h : lowerOperation statement = .ok op) :
    ∀ filter ∈ op.ownFilter?, filter.depth ≤ MAX_FILTER_DEPTH + 1 := by
  intro filter hfilt
  cases statement with
  | raw | block => exact lowerOptionalFilter_depth (lowerTextOperation_filter h hfilt)
  | transcodeInline =>
    cases return_ok.mp h
    cases hfilt
  | synthesizeInline =>
    simp only [lowerOperation, lowerSynthesize, bind_ok, find_ok, return_ok] at h
    obtain ⟨_, -, parsed, hparsed, rfl⟩ := h
    obtain rfl : parsed = filter := some.inj hfilt
    exact parseTrackFilter_depth hparsed

/-- A condition nests no deeper than its source is long. -/
theorem ReadFrom.depth (h : ReadFrom source condition) : condition.depth ≤ source.length + 1 := by
  obtain ⟨_, hwithin, hcond⟩ := h
  have hlen := hwithin.length_le
  have hdepth := lowerCondition_depth hcond
  omega

theorem Origin.condition_depth (h : Origin source op) :
    ∀ condition ∈ op.ownConditions, condition.depth ≤ source.length + 1 := by
  intro _ hmem
  cases op with
  | conditional =>
    rw [CompiledOperation.ownConditions, mem_singleton] at hmem
    exact hmem ▸ h.when_readFrom.depth
  | rules =>
    obtain ⟨_, hbranch, hcond⟩ := mem_filterMap.mp hmem
    exact (h.rule_readFrom hbranch hcond).depth
  | _ => cases hmem

/-- The conditions and filters of a compiled phase. -/
structure CompiledPhase.Shallow (phase : CompiledPhase) : Prop where
  skip : ∀ condition ∈ phase.skipIf, condition.depth ≤ MAX_DEPTH
  conditions : ∀ top ∈ phase.operations, ∀ op, Within op top →
    ∀ condition ∈ op.ownConditions, condition.depth ≤ MAX_DEPTH
  filters : ∀ top ∈ phase.operations, ∀ op, Within op top →
    ∀ filter ∈ op.ownFilter?, filter.depth ≤ MAX_DEPTH

theorem shallow_of_compiled {output : CompileOutput} (h : compilePolicy source = .ok output) :
    ∀ phase ∈ output.policy.phases, phase.Shallow := by
  intro _ hphase
  obtain ⟨_, _, hval, _, _⟩ := compilePolicy_ok h
  have hlen : source.length + 1 ≤ MAX_DEPTH :=
    succ_le_succ ((length_le_sourceBytes source).trans (sourceBytes_of_valid hval))
  constructor
  · intro _ hcond
    exact (skipIf_readFrom h hphase hcond).depth.trans hlen
  · intro _ htop _ hop condition hcond
    exact ((origin_of_compiled h hphase htop hop).condition_depth condition hcond).trans hlen
  · intro _ htop _ hop filter hfilt
    obtain ⟨_, _, -, -, hlow⟩ := origin_of_compiled h hphase htop hop
    exact (lowerOperation_filter hlow filter hfilt).trans (by decide)

/-! ## Reading conditions -/

/-- Every tree that is parsed and everything that is compiled nests to a bounded depth.
**Compilation never returns exactly if the source is valid and a text that lowering reads is
stuck.**  In a source of the permitted size validating a condition takes a bounded depth, and so
does lowering one that is not stuck. -/
theorem nesting_bounded (source : Text) :
    (∀ ast, parsePolicySource source = .ok ast → ast.depth ≤ MAX_DEPTH) ∧
    (∀ output, compilePolicy source = .ok output →
      ∀ phase ∈ output.policy.phases, phase.Shallow) ∧
    (compilePolicy source = .error (.lowering .diverges) ↔
      ∃ ast, parsePolicySource source = .ok ast ∧
        hasErrors (validatePolicyAst source ast) = false ∧ ast.reads.Stuck) ∧
    ∀ ast, parsePolicySource source = .ok ast → sourceBytes source ≤ MAX_SOURCE_BYTES →
      ∀ phase ∈ ast.phases, ∀ s ∈ phase.controls ++ phase.operations, ∀ text,
      ConditionOf s text →
        (∀ span levels, MAX_DEPTH ≤ levels →
          isValidConditionAt span levels text = isValidConditionAt span MAX_DEPTH text) ∧
        ((conditionFromTextAt MAX_DEPTH text).isSome ↔ ¬ Stuck text) ∧
        (Stuck text → ∀ levels, conditionFromTextAt levels text = none) := by
  refine ⟨fun _ hparse => ?_, fun _ hcompiled => shallow_of_compiled hcompiled,
    compilePolicy_diverges_iff, ?_⟩
  · exact (parsed_depth_le (parsePolicySource_parsed hparse)).trans (by decide)
  · intro _ hparse hbytes phase hphase s hs text hcondition
    have hparsed := parsePolicySource_parsed hparse
    have hproduced : Produced source MAX_LEVELS s := by
      rcases mem_append.mp hs with hcontrol | hoperation
      · exact hparsed.controls phase hphase s hcontrol
      · exact hparsed.operations phase hphase s hoperation
    have hlength : text.length < MAX_DEPTH :=
      lt_succ_of_le (((hcondition.within hproduced).length_le.trans
        (length_le_sourceBytes source)).trans hbytes)
    refine ⟨fun _ levels hlevels => ?_, ⟨fun hsome hstuck => ?_, fun hfree => ?_⟩, ?_⟩
    · exact isValidConditionAt_enough (hlength.trans_le hlevels) hlength
    · rw [hstuck.unreturned] at hsome
      cases hsome
    · exact conditionFromTextAt_of_not_stuck hfree hlength
    · exact fun hstuck levels => hstuck.unreturned levels

def twoSkips : Text :=
  ("policy \"p\" \x7b phase a \x7b skip when video.hdr\n" ++
    "skip when :not\nkeep audio \x7d \x7d").toList

/-- Of two `skip` lowering reads the first: a stuck one behind it does no harm. -/
theorem later_skip_not_read :
    ∃ ast, parsePolicySource twoSkips = .ok ast ∧
      (∃ phase ∈ ast.phases, ∃ control ∈ phase.controls,
        Stuck (loweredSkipCondition (statementText control))) ∧ ¬ ast.reads.Stuck := by
  obtain ⟨ast, hparse, ⟨phase, hphase, control, hcontrol, htext⟩, hvalid⟩ :=
    exists_ok (x := parsePolicySource twoSkips) (P := fun ast =>
      (∃ phase ∈ ast.phases, ∃ control ∈ phase.controls,
        loweredSkipCondition (statementText control) = ":not".toList) ∧
      hasErrors (validatePolicyAst twoSkips ast) = false) (by decide +kernel)
  obtain ⟨output, hcompiled, -⟩ := exists_ok (x := compilePolicy twoSkips) (P := fun _ => True)
    (by decide +kernel)
  refine ⟨ast, hparse, ⟨phase, hphase, control, hcontrol, htext ▸ .self rfl⟩, fun hstuck => ?_⟩
  cases hcompiled.symm.trans ((nesting_bounded twoSkips).2.2.1.mpr ⟨ast, hparse, hvalid, hstuck⟩)

/-- A `not` behind a colon: the source is valid, and lowering its condition never returns. -/
theorem stuck_condition_accepted :
    (∃ diagnostics, validatePolicy
        "policy \"p\" \x7b phase a \x7b skip when :not\nkeep audio \x7d \x7d".toList =
          .ok diagnostics) ∧
    (∃ ast, parsePolicySource
        "policy \"p\" \x7b phase a \x7b skip when :not\nkeep audio \x7d \x7d".toList = .ok ast ∧
      ∃ phase ∈ ast.phases, ∃ control ∈ phase.controls, control.keyword.value = "skip" ∧
        loweredSkipCondition (statementText control) = ":not".toList) ∧
    ∀ levels, conditionFromTextAt levels ":not".toList = none := by
  refine ⟨?_, exists_ok (by decide +kernel), ?_⟩
  · obtain ⟨diagnostics, hvalid, -⟩ := exists_ok (x := validatePolicy
      "policy \"p\" \x7b phase a \x7b skip when :not\nkeep audio \x7d \x7d".toList)
      (P := fun _ => True) (by decide +kernel)
    exact ⟨diagnostics, hvalid⟩
  · exact conditionFromTextAt_stuck rfl

end Voom
