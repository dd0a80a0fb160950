import VoomProof.CycleReports
import VoomProof.PolicyLowering

/-!
# The order of the phases

Validation looks for cycles among the dependencies; lowering lists the phases by a visit that
relies on there being none. Both read the dependencies from a table with one entry for each
name, so of two phases with the same name only the last one counts. A policy that passes
validation has no two such phases, and then the table is what the phases declare
(`dependencies_of_nodup`); one that does not pass may have a cycle the search does not see.
-/

namespace Voom
open List Bool

open RustText
open Fallible
open Relation
open DepthFirst (Edge)

/-! ## The dependencies of a policy -/

/-- Some phase with the first name lists the second. -/
def PolicyAst.DependsOn (ast : PolicyAst) (a b : String) : Prop :=
  ∃ phase ∈ ast.phases, phase.name.value = a ∧ b ∈ phaseDependencies phase.controls

instance (ast : PolicyAst) (a b : String) : Decidable (ast.DependsOn a b) :=
  inferInstanceAs (Decidable (∃ phase ∈ ast.phases, _))

/-- A cycle of the dependencies as the phases declare them. -/
def PolicyAst.Cyclic (ast : PolicyAst) : Prop := ∃ a, TransGen ast.DependsOn a a

variable {b : String} {compiled : CompiledPhase}

namespace PolicyAst
variable {ast : PolicyAst} {a : String}

theorem dependsOn_of_mem (h : b ∈ ast.dependencies a) : ast.DependsOn a b := by
  unfold dependencies at h
  split at h
  case h_1 phase hfind =>
    have hmem : phase ∈ ast.phases := mem_reverse.mp (mem_of_find?_eq_some hfind)
    exact ⟨phase, hmem, by simpa using find?_some hfind, h⟩
  case h_2 => cases h

theorem declared_of_dependsOn (h : ast.DependsOn a b) : a ∈ ast.phaseNames := by
  obtain ⟨_, hphase, rfl, -⟩ := h
  exact mem_map_of_mem hphase

theorem declared_of_dependencies (h : ast.dependencies a ≠ []) : a ∈ ast.phaseNames := by
  obtain ⟨b, hb⟩ := exists_mem_of_ne_nil _ h
  exact declared_of_dependsOn (dependsOn_of_mem hb)

theorem searchFuel_eq : ast.searchFuel = ast.phaseNames.length + 2 := by
  simp [searchFuel, phaseNames]

/-- Without a name declared twice the table holds what each phase lists. -/
theorem dependencies_of_nodup (h : ast.phaseNames.Nodup) {phase : PhaseAst}
    (hphase : phase ∈ ast.phases) :
    ast.dependencies phase.name.value = phaseDependencies phase.controls := by
  have hnames : (ast.phases.reverse.map (·.name.value)).Nodup := by
    rw [map_reverse, nodup_reverse]
    exact h
  rw [dependencies, find?_key hnames (mem_reverse.mpr hphase)]

theorem mem_dependencies_iff (h : ast.phaseNames.Nodup) :
    b ∈ ast.dependencies a ↔ ast.DependsOn a b := by
  refine ⟨dependsOn_of_mem, ?_⟩
  rintro ⟨_, hphase, rfl, hb⟩
  rw [dependencies_of_nodup h hphase]
  exact hb

/-- Some phase starts a search that meets a cycle exactly when the table has one. -/
theorem hasCycle_iff :
    (∃ phase ∈ ast.phases, ast.hasCycle phase = true) ↔
      ∃ a, TransGen (Edge ast.dependencies) a a := by
  have hsearch : ∀ a, DepthFirst.search ast.dependencies ast.searchFuel [] [] a = none ↔
      ∃ b, ReflTransGen (Edge ast.dependencies) a b ∧ TransGen (Edge ast.dependencies) b b :=
    DepthFirst.search_eq_none_iff (fun _ => declared_of_dependencies) searchFuel_eq.ge
  simp only [hasCycle, Option.isNone_iff_eq_none, hsearch]
  constructor
  · rintro ⟨-, -, b, -, hcycle⟩
    exact ⟨b, hcycle⟩
  · rintro ⟨a, hcycle⟩
    obtain ⟨b, hab, -⟩ := TransGen.head'_iff.mp hcycle
    obtain ⟨phase, hphase, rfl, -⟩ := dependsOn_of_mem hab
    exact ⟨phase, hphase, _, .refl, hcycle⟩

end PolicyAst

/-! ## What validation leaves -/

theorem nodup_of_validatePhaseNames {before phases : List PhaseAst}
    (h : hasErrors (validatePhaseNames before phases) = false) :
    (phases.map (·.name.value)).Nodup ∧
      ∀ phase ∈ phases, ∀ first ∈ before, first.name.value ≠ phase.name.value := by
  induction phases generalizing before with
  | nil => exact ⟨.nil, fun _ hphase => (nomatch hphase)⟩
  | cons phase _ ih =>
    rw [validatePhaseNames, clean_append] at h
    obtain ⟨hfirst, hrest⟩ := h
    obtain ⟨hnd, hapart⟩ := ih hrest
    have hnew : ∀ first ∈ before, first.name.value ≠ phase.name.value := by
      split at hfirst
      case h_1 => cases hfirst
      case h_2 hnone => simpa using find?_eq_none.mp hnone
    refine ⟨nodup_cons.mpr ⟨?_, hnd⟩, forall_mem_cons.mpr ⟨hnew, ?_⟩⟩
    · intro hmem
      obtain ⟨later, hlater, hname⟩ := mem_map.mp hmem
      exact hapart later hlater phase mem_cons_self hname.symm
    · exact fun later hlater first hfirst =>
        hapart later hlater first (mem_cons_of_mem phase hfirst)

/-- What the rest of the compiler may assume of a policy that passed validation. -/
structure PolicyAst.Resolved (ast : PolicyAst) : Prop where
  nodup : ast.phaseNames.Nodup
  declared : ∀ a, ∀ b ∈ ast.dependencies a, b ∈ ast.phaseNames
  acyclic : ∀ a, ¬ TransGen (Edge ast.dependencies) a a

variable {ast : PolicyAst} {phase : PhaseAst}

theorem declared_of_validateReferences
    (h : ∀ control ∈ phase.controls, hasErrors (validateReferences ast phase control) = false)
    (hb : b ∈ phaseDependencies phase.controls) : b ≠ phase.name.value ∧ b ∈ ast.phaseNames := by
  obtain ⟨control, hctl, hvalue⟩ := mem_flatMap.mp hb
  obtain ⟨hmem, hkw⟩ := mem_filter.mp hctl
  have hval := h control hmem
  rw [validateReferences, if_pos (by simpa using hkw), validateDependsOn, clean_append,
    hasErrors_flatMap, any_eq_false] at hval
  have hreference := hval.2 b hvalue
  unfold validatePhaseReference at hreference
  split at hreference
  case isTrue => simp at hreference
  case isFalse hne => exact ⟨hne, by simpa using hreference⟩

variable {source : Text}

theorem resolved_of_valid (h : hasErrors (validatePolicyAst source ast) = false) :
    ast.Resolved := by
  simp only [validatePolicyAst, validatePhaseDependencies, clean_append, hasErrors_flatMap,
    any_eq_false] at h
  obtain ⟨⟨⟨-, hnames⟩, hreferences, hcycles⟩, -⟩ := h
  obtain ⟨hnd, -⟩ := nodup_of_validatePhaseNames hnames
  refine ⟨hnd, ?_, ?_⟩
  · intro a b hb
    obtain ⟨phase, hphase, rfl, hlist⟩ := PolicyAst.dependsOn_of_mem hb
    have hval : ∀ control ∈ phase.controls,
        hasErrors (validateReferences ast phase control) = false := by
      simpa using hreferences phase hphase
    exact (declared_of_validateReferences hval hlist).2
  · intro a hcyclic
    obtain ⟨phase, hphase, hhas⟩ := PolicyAst.hasCycle_iff.mpr ⟨a, hcyclic⟩
    unfold validateCycles at hcycles
    split at hcycles
    case h_1 => simp at hcycles
    case h_2 hnone => exact find?_eq_none.mp hnone phase hphase hhas

/-- A phase that lists itself is reported, whatever else the policy holds. -/
theorem reports_selfDependency (hphase : phase ∈ ast.phases)
    (hself : phase.name.value ∈ phaseDependencies phase.controls) :
    ∃ d ∈ validatePolicyAst source ast, d.code = .selfDependency := by
  obtain ⟨control, hctl, hvalue⟩ := mem_flatMap.mp hself
  obtain ⟨hmem, hkw⟩ := mem_filter.mp hctl
  have hreport : ∃ d ∈ validateReferences ast phase control, d.code = .selfDependency := by
    rw [validateReferences, if_pos (by simpa using hkw)]
    have hvalue' : ∃ d ∈ validatePhaseReference ast phase.name.value phase.name.value control.span,
        d.code = .selfDependency := by
      rw [validatePhaseReference, if_pos rfl]
      exact ⟨_, mem_singleton_self _, rfl⟩
    obtain ⟨d, hd, hcode⟩ := hvalue'
    exact ⟨d, mem_append_right _ (mem_flatMap.mpr ⟨_, hvalue, hd⟩), hcode⟩
  obtain ⟨d, hd, hcode⟩ := hreport
  refine ⟨d, ?_, hcode⟩
  have hall : d ∈ validatePhaseDependencies ast := by
    refine mem_append_left _ (mem_flatMap.mpr ⟨phase, hphase, ?_⟩)
    exact mem_flatMap.mpr ⟨control, hmem, hd⟩
  simp only [validatePolicyAst, mem_append]
  exact .inl (.inr hall)

/-! ## Well-ordered policies -/

/-- Both stand in the order, the first before the second. -/
def Precedes (order : List String) (a b : String) : Prop :=
  order.idxOf a < order.idxOf b ∧ b ∈ order

instance (order : List String) (a b : String) : Decidable (Precedes order a b) :=
  inferInstanceAs (Decidable (_ ∧ _))

/-- Every phase stands once in the order, behind all phases it depends on. -/
structure CompiledPolicy.WellOrdered (policy : CompiledPolicy) : Prop where
  nodup : policy.phaseOrder.Nodup
  perm : policy.phaseOrder.Perm (policy.phases.map (·.name))
  behind : ∀ phase ∈ policy.phases, ∀ dependency ∈ phase.dependsOn,
    Precedes policy.phaseOrder dependency phase.name

variable {order : List String}

theorem precedes_of_split {l l' : List String} {a : String} (hnd : order.Nodup)
    (hsplit : order = l ++ a :: l') (hb : b ∈ l) : Precedes order b a := by
  subst hsplit
  have ha : a ∉ l := fun hmem =>
    (nodup_append.mp hnd).2.2 a hmem a mem_cons_self rfl
  refine ⟨?_, mem_append_right l mem_cons_self⟩
  rw [idxOf_append_of_mem hb, idxOf_append_of_notMem ha, idxOf_cons_self]
  exact Nat.lt_add_right 0 (idxOf_lt_length_of_mem hb)

theorem precedes_of_isEarlier {a : String} (h : isEarlier order a b = true) :
    Precedes order a b := by
  unfold isEarlier at h
  split at h
  case h_1 i j hi hj =>
    obtain ⟨-, hi⟩ := findIdx?_eq_some_iff_findIdx_eq.mp hi
    obtain ⟨hlt, hj⟩ := findIdx?_eq_some_iff_findIdx_eq.mp hj
    have ha : order.idxOf a = i := hi
    have hb : order.idxOf b = j := hj
    refine ⟨?_, idxOf_lt_length_iff.mp (hb ▸ hlt)⟩
    rw [ha, hb]
    exact of_decide_eq_true h
  case h_2 => cases h

namespace PolicyAst.Resolved
variable {ast : PolicyAst} (h : ast.Resolved)
include h

/-- The visit follows all dependencies: none of them is unknown. -/
theorem declaredDependencies_eq : ast.declaredDependencies = ast.dependencies := by
  funext a
  exact filter_eq_self.mpr fun b hb => decide_eq_true (h.declared a b hb)

theorem visited : DepthFirst.Visited ast.dependencies [] ([], [])
    (ast.phaseNames.foldl (DepthFirst.visit ast.dependencies ast.searchFuel) ([], []))
    ast.phaseNames :=
  DepthFirst.visitAll_spec (fun _ => declared_of_dependencies) h.acyclic searchFuel_eq.ge _

theorem phaseOrder_eq : phaseOrder ast =
    (ast.phaseNames.foldl (DepthFirst.visit ast.dependencies ast.searchFuel) ([], [])).2 := by
  rw [phaseOrder, h.declaredDependencies_eq]

theorem phaseOrder_nodup : (phaseOrder ast).Nodup := by
  rw [h.phaseOrder_eq]
  exact h.visited.ordered.nodup

theorem mem_phaseOrder {a : String} (ha : a ∈ phaseOrder ast) : a ∈ ast.phaseNames := by
  have hfold : ∀ (as : List String) (s : List String × List String),
      (∀ b ∈ as, b ∈ ast.phaseNames) → (∀ b ∈ s.2, b ∈ ast.phaseNames) →
      ∀ b ∈ (as.foldl (DepthFirst.visit ast.dependencies ast.searchFuel) s).2,
        b ∈ ast.phaseNames := by
    intro as
    induction as with
    | nil => exact fun s _ hs => hs
    | cons c _ ih =>
      intro s has hs
      refine ih _ (fun b hb => has b (mem_cons_of_mem c hb)) ?_
      exact DepthFirst.visit_mem (fun a _ b hb => h.declared a b hb) (has c mem_cons_self) hs
  rw [h.phaseOrder_eq] at ha
  exact hfold ast.phaseNames ([], []) (fun _ hb => hb) (fun _ hb => (nomatch hb)) a ha

theorem phaseOrder_perm : (phaseOrder ast).Perm ast.phaseNames := by
  refine (perm_ext_iff_of_nodup h.phaseOrder_nodup h.nodup).mpr fun a => ⟨h.mem_phaseOrder, ?_⟩
  rw [h.phaseOrder_eq]
  exact h.visited.reaches a

theorem phaseOrder_behind {a : String} (hb : b ∈ ast.dependencies a) :
    Precedes (phaseOrder ast) b a := by
  have ha : a ∈ ast.phaseNames := declared_of_dependsOn (dependsOn_of_mem hb)
  obtain ⟨l, l', hsplit⟩ := append_of_mem (h.phaseOrder_perm.mem_iff.mpr ha)
  refine precedes_of_split h.phaseOrder_nodup hsplit ?_
  rw [h.phaseOrder_eq] at hsplit
  exact h.visited.ordered.behind l a l' hsplit b hb

end PolicyAst.Resolved

/-! ## What compilation returns -/

theorem lowerPhase_ok (h : lowerPhase order phase = .ok compiled) :
    compiled.name = phase.name.value ∧ compiled.dependsOn = phaseDependencies phase.controls ∧
      ∀ gate, compiled.runIf = some gate → Precedes order gate.phase compiled.name := by
  simp only [lowerPhase, bind_ok, return_ok] at h
  obtain ⟨_, hrunIf, _, -, _, -, rfl⟩ := h
  refine ⟨rfl, rfl, ?_⟩
  rintro _ rfl
  unfold phaseRunIf at hrunIf
  split at hrunIf
  case h_1 => cases hrunIf
  case h_2 =>
  simp only [bind_ok, require_ok] at hrunIf
  obtain ⟨_, -, _, hearlier, hfound⟩ := hrunIf
  cases hfound
  exact precedes_of_isEarlier hearlier

/-- The tree a compiled policy comes from. -/
theorem compilePolicy_ok {output : CompileOutput} (h : compilePolicy source = .ok output) :
    ∃ ast, parsePolicySource source = .ok ast ∧
      hasErrors (validatePolicyAst source ast) = false ∧
      ∃ warnings, compileAst ast warnings = .ok output.policy := by
  simp only [compilePolicy, bind_ok, mapError_ok] at h
  obtain ⟨ast, hast, h⟩ := h
  refine ⟨ast, hast, ?_⟩
  split at h
  case isTrue => cases h
  case isFalse hval =>
  simp only [bind_ok, mapError_ok, return_ok] at h
  obtain ⟨_, hpolicy, rfl⟩ := h
  exact ⟨eq_false_iff.mpr hval, _, hpolicy⟩

theorem validatePolicy_ok {diagnostics : Diagnostics}
    (h : validatePolicy source = .ok diagnostics) :
    ∃ ast, parsePolicySource source = .ok ast ∧
      hasErrors (validatePolicyAst source ast) = false := by
  simp only [validatePolicy, bind_ok, mapError_ok] at h
  obtain ⟨ast, hast, h⟩ := h
  refine ⟨ast, hast, ?_⟩
  split at h
  case isTrue => cases h
  case isFalse hval => exact eq_false_iff.mpr hval

variable {warnings : Diagnostics} {policy : CompiledPolicy}

section
variable (h : compileAst ast warnings = .ok policy)
include h

/-- The phases of a compiled policy, each from the phase it was lowered from. -/
theorem compileAst_ok :
    ∃ phases, ast.phases.mapM (lowerPhase (phaseOrder ast)) = .ok phases ∧
      policy.phases = phases.map (fun phase =>
        { phase with onError := phase.onError.or policy.config.onError }) ∧
      policy.phaseOrder = phaseOrder ast := by
  simp only [compileAst, bind_ok, return_ok] at h
  obtain ⟨phases, hphases, rfl⟩ := h
  exact ⟨phases, hphases, rfl, rfl⟩

/-- A compiled phase and the phase of the source it comes from. -/
theorem compileAst_phase (hcomp : compiled ∈ policy.phases) :
    ∃ phase ∈ ast.phases, compiled.name = phase.name.value ∧
      compiled.dependsOn = phaseDependencies phase.controls ∧
      ∀ gate, compiled.runIf = some gate → Precedes policy.phaseOrder gate.phase compiled.name := by
  obtain ⟨_, hphases, heq, hord⟩ := compileAst_ok h
  rw [heq] at hcomp
  obtain ⟨lowered, hlow, rfl⟩ := mem_map.mp hcomp
  obtain ⟨phase, hphase, hlower⟩ := (mapM_ok_mem hphases).2 lowered hlow
  obtain ⟨hname, hdepends, hgate⟩ := lowerPhase_ok hlower
  rw [hord]
  exact ⟨phase, hphase, hname, hdepends, hgate⟩

theorem compileAst_names : policy.phases.map (·.name) = ast.phaseNames := by
  obtain ⟨_, hphases, heq, -⟩ := compileAst_ok h
  rw [heq, List.map_map]
  exact mapM_ok_map (fun _ _ hlower => (lowerPhase_ok hlower).1) hphases

end

theorem compileAst_wellOrdered (hres : ast.Resolved) (h : compileAst ast warnings = .ok policy) :
    policy.WellOrdered := by
  obtain ⟨-, -, -, hord⟩ := compileAst_ok h
  refine ⟨?_, ?_, ?_⟩
  · rw [hord]
    exact hres.phaseOrder_nodup
  · rw [hord, compileAst_names h]
    exact hres.phaseOrder_perm
  · intro _ hcomp _ hdep
    obtain ⟨_, hphase, hname, hdepends, -⟩ := compileAst_phase h hcomp
    rw [hord, hname]
    rw [hdepends, ← PolicyAst.dependencies_of_nodup hres.nodup hphase] at hdep
    exact hres.phaseOrder_behind hdep

/-- An accepted policy has an order that lists each of its phases once, behind those it
depends on, and the compiled policy takes it and runs no phase on a condition about a later
one.  A cycle is reported exactly when the table of dependencies has one, and a phase that
lists itself is reported as such; the table is what the phases declare when no name is
declared twice. -/
theorem phases_ordered_and_cycles_reported (source : Text) (ast : PolicyAst)
    (hparse : parsePolicySource source = .ok ast) :
    (∀ diagnostics, validatePolicy source = .ok diagnostics →
      (phaseOrder ast).Perm ast.phaseNames ∧ (phaseOrder ast).Nodup ∧
        ∀ a b, ast.DependsOn a b → Precedes (phaseOrder ast) b a) ∧
    (∀ output, compilePolicy source = .ok output →
      output.policy.phaseOrder = phaseOrder ast ∧ output.policy.WellOrdered ∧
        ∀ phase ∈ output.policy.phases, ∀ gate, phase.runIf = some gate →
          Precedes output.policy.phaseOrder gate.phase phase.name) ∧
    ((∃ d ∈ validatePolicyAst source ast, d.code = .dependencyCycle) ↔
      ∃ a, TransGen (Edge ast.dependencies) a a) ∧
    (∀ phase ∈ ast.phases, phase.name.value ∈ phaseDependencies phase.controls →
      ∃ d ∈ validatePolicyAst source ast, d.code = .selfDependency) ∧
    (ast.phaseNames.Nodup →
      ((∃ d ∈ validatePolicyAst source ast, d.code = .dependencyCycle) ↔ ast.Cyclic)) := by
  have hcycles := (reports_cycle_iff source ast).trans PolicyAst.hasCycle_iff
  refine ⟨?_, ?_, hcycles, fun _ => reports_selfDependency, ?_⟩
  · intro _ hvalid
    obtain ⟨ast', hast', hnoError⟩ := validatePolicy_ok hvalid
    obtain rfl : ast = ast' := ok_unique hparse hast'
    have hresolved := resolved_of_valid hnoError
    refine ⟨hresolved.phaseOrder_perm, hresolved.phaseOrder_nodup, fun a b hab => ?_⟩
    exact hresolved.phaseOrder_behind ((PolicyAst.mem_dependencies_iff hresolved.nodup).mpr hab)
  · intro _ hcompile
    obtain ⟨ast', hast', hnoError, _, hcompiled⟩ := compilePolicy_ok hcompile
    obtain rfl : ast = ast' := ok_unique hparse hast'
    obtain ⟨-, -, -, horder⟩ := compileAst_ok hcompiled
    refine ⟨horder, compileAst_wellOrdered (resolved_of_valid hnoError) hcompiled, ?_⟩
    intro _ hphase
    obtain ⟨-, -, -, -, hgate⟩ := compileAst_phase hcompiled hphase
    exact hgate
  · intro hnodup
    have hsame : Edge ast.dependencies = ast.DependsOn := by
      funext a b
      exact propext (PolicyAst.mem_dependencies_iff hnodup)
    rw [hcycles, hsame, PolicyAst.Cyclic]

/-- Two phases, the second of which waits for the first. -/
def chainedSource : Text :=
  "policy \"p\" \x7b phase b \x7b depends_on: a run_if completed a keep audio \x7d
    phase a \x7b keep audio \x7d \x7d".toList

theorem chainedSource_ordered :
    ∃ ast output, parsePolicySource chainedSource = .ok ast ∧
      compilePolicy chainedSource = .ok output ∧ output.policy.phaseOrder = ["a", "b"] ∧
      output.policy.WellOrdered ∧ (phaseOrder ast).Perm ast.phaseNames ∧
      Precedes (phaseOrder ast) "a" "b" ∧ ¬ ast.Cyclic := by
  obtain ⟨ast, hparse, hdepends, hnodup, hreports⟩ :=
    exists_ok (x := parsePolicySource chainedSource)
      (P := fun ast => ast.DependsOn "b" "a" ∧ ast.phaseNames.Nodup ∧
        ¬ ∃ d ∈ validatePolicyAst chainedSource ast, d.code = .dependencyCycle) (by decide +kernel)
  obtain ⟨output, hcompile, horder⟩ :=
    exists_ok (x := compilePolicy chainedSource)
      (P := fun output => output.policy.phaseOrder = ["a", "b"]) (by decide +kernel)
  obtain ⟨diagnostics, hvalid, -⟩ :=
    exists_ok (x := validatePolicy chainedSource) (P := fun _ => True) (by decide +kernel)
  obtain ⟨haccepted, hcompiled, -, -, hcycle⟩ :=
    phases_ordered_and_cycles_reported chainedSource ast hparse
  obtain ⟨hperm, -, hbehind⟩ := haccepted diagnostics hvalid
  exact ⟨ast, output, hparse, hcompile, horder, (hcompiled output hcompile).2.1, hperm,
    hbehind "b" "a" hdepends, fun hcyclic => hreports ((hcycle hnodup).mpr hcyclic)⟩

/-- A cycle through the first of two phases with the same name. -/
def hiddenCycleSource : Text :=
  "policy \"p\" \x7b phase a \x7b depends_on: b \x7d phase b \x7b depends_on: a \x7d
    phase a \x7b \x7d \x7d".toList

/-- The phases declare a cycle, and only the second use of a name is reported. -/
theorem hiddenCycleSource_not_reported :
    ∃ ast, parsePolicySource hiddenCycleSource = .ok ast ∧ ast.Cyclic ∧
      (∃ d ∈ validatePolicyAst hiddenCycleSource ast, d.code = .duplicatePhaseName) ∧
      ¬ ∃ d ∈ validatePolicyAst hiddenCycleSource ast, d.code = .dependencyCycle := by
  obtain ⟨ast, hparse, hab, hba, hname, hreports⟩ :=
    exists_ok (x := parsePolicySource hiddenCycleSource)
      (P := fun ast => ast.DependsOn "a" "b" ∧ ast.DependsOn "b" "a" ∧
        (∃ d ∈ validatePolicyAst hiddenCycleSource ast, d.code = .duplicatePhaseName) ∧
        ¬ ∃ d ∈ validatePolicyAst hiddenCycleSource ast, d.code = .dependencyCycle)
      (by decide +kernel)
  exact ⟨ast, hparse, ⟨"a", .tail (.single hab) hba⟩, hname, hreports⟩

end Voom
