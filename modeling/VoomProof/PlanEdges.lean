import Mathlib.Data.List.ProdSigma
import VoomProof.PhaseOrder
import VoomProof.PlanBuilder

/-!
# The nodes and edges of a plan

Every step of the expansion appends nodes of one phase, each with the next ordinal (`Grows`),
and the phases are expanded in their order; so a node of a phase comes before the nodes of all
later phases. The edges are the product of the nodes of each dependency a phase lists with its
own nodes. Only a dependency that is listed twice repeats edges (`wellFormed_iff`).
-/

namespace Voom.Planner
open Fallible Relation List
open RemuxPlanner (NodeStatus)

/-! ## What the expansion appends -/

/-- The nodes of one phase, with the ordinals that follow; where nothing fails, there are some
exactly if `planned`. -/
structure Grows (phaseName : String) (planned : Prop) (builder builder' : Builder) : Prop where
  appends : ∃ new, builder'.nodes = builder.nodes ++ new ∧
    (∀ node ∈ new, node.phaseName = phaseName) ∧
    new.map (·.ordinal) =
      (List.range' builder.nodes.length new.length).map checkedOrdinal ∧
    (builder'.fatal = [] → builder.fatal = [] ∧ ((∃ node, node ∈ new) ↔ planned))

namespace Grows
variable {phaseName : String} {planned planned' : Prop} {builder builder' builder'' : Builder}

theorem of_nodes_eq (h : builder'.nodes = builder.nodes)
    (hfatal : builder'.fatal = [] → builder.fatal = [] ∧ ¬ planned) :
    Grows phaseName planned builder builder' :=
  ⟨[], by simp [h], fun _ hnode => (nomatch hnode), rfl, by simpa using hfatal⟩

theorem refl (builder : Builder) : Grows phaseName False builder builder :=
  of_nodes_eq rfl fun hfatal => ⟨hfatal, id⟩

theorem trans (h : Grows phaseName planned builder builder')
    (h' : Grows phaseName planned' builder' builder'') :
    Grows phaseName (planned ∨ planned') builder builder'' := by
  obtain ⟨new, hnew, hphase, hords, hplanned⟩ := h
  obtain ⟨new', hnew', hphase', hords', hplanned'⟩ := h'
  refine ⟨new ++ new', by rw [hnew', hnew, append_assoc], ?_, ?_, fun hfatal => ?_⟩
  · exact forall_mem_append.mpr ⟨hphase, hphase'⟩
  · rw [map_append, hords, hords', hnew, length_append, length_append, ← range'_append, map_append]
    simp
  · obtain ⟨hmid, hnext⟩ := hplanned' hfatal
    obtain ⟨hbefore, hfirst⟩ := hplanned hmid
    exact ⟨hbefore, by simp only [mem_append, exists_or, hfirst, hnext]⟩

/-- A loop grows when each of its rounds does. -/
theorem foldl {α : Type} {step : Builder → α → Builder} {plans : α → Prop}
    (h : ∀ builder a, Grows phaseName (plans a) builder (step builder a)) (builder : Builder)
    (l : List α) : Grows phaseName (∃ a ∈ l, plans a) builder (l.foldl step builder) := by
  induction l generalizing builder with
  | nil =>
    simp only [not_mem_nil, false_and, exists_false]
    exact refl builder
  | cons a l ih =>
    rw [exists_mem_cons_iff]
    exact (h builder a).trans (ih (step builder a))

theorem each {α : Type} {step : Builder → α → Builder}
    (h : ∀ builder a, Grows phaseName True builder (step builder a)) (builder : Builder)
    (l : List α) : Grows phaseName (l ≠ []) builder (l.foldl step builder) := by
  simpa [eq_nil_iff_forall_not_mem] using foldl h builder l

end Grows

section Expansion
variable (lib : Library) (request : PlanningRequest) {phaseName : String}

theorem grows_push (builder : Builder) (snapshot : MediaSnapshot) (plan : OperationPlan) :
    Grows phaseName True builder (builder.push lib phaseName snapshot plan) := by
  refine ⟨[_], rfl, fun _ hnode => ?_, rfl, fun hfatal => ⟨hfatal, by simp⟩⟩
  rw [mem_singleton.mp hnode]
  rfl

theorem grows_expandItem (snapshot : MediaSnapshot) (builder : Builder) (item : PhaseItem) :
    Grows phaseName True builder (builder.expandItem lib request phaseName snapshot item) := by
  rw [Builder.expandItem]
  split
  · exact grows_push lib builder snapshot _
  · exact Grows.of_nodes_eq rfl fun hfatal => absurd hfatal (by simp)

theorem grows_expandBlocked (operations : List CompiledOperation) (builder : Builder)
    (snapshot : MediaSnapshot) :
    Grows phaseName (operations ≠ []) builder
      (builder.expandBlocked lib phaseName operations snapshot) :=
  Grows.each (fun builder _ => grows_push lib builder snapshot _) builder operations

/-- The phase has something to plan for the file. -/
def PlansFor (phase : CompiledPhase) (snapshot : MediaSnapshot) : Prop :=
  if phase.runIf.isSome then phase.operations ≠ []
  else
    match phase.skipIf.elim .notMatched (evaluateCondition · snapshot) with
    | .notMatched => phaseItems (snapshotOperations snapshot phase.operations) ≠ []
    | .matched => False
    | .unknown => phase.operations ≠ []

/-- The phase of this name has something to plan for some file. -/
def HasNodes (name : String) : Prop :=
  ∃ phase ∈ request.policy.phases.find? (·.name = name),
    ∃ snapshot ∈ request.input.mediaSnapshots, PlansFor phase snapshot

theorem grows_expandSnapshot (phase : CompiledPhase) (builder : Builder)
    (snapshot : MediaSnapshot) : Grows phase.name (PlansFor phase snapshot) builder
      (builder.expandSnapshot lib request phase snapshot) := by
  unfold Builder.expandSnapshot PlansFor
  split
  · exact grows_expandBlocked lib phase.operations builder snapshot
  cases phase.skipIf.elim .notMatched (evaluateCondition · snapshot) with
  | notMatched =>
    exact Grows.each (fun builder (entry : Nat × PhaseItem) =>
      grows_expandItem lib request snapshot builder entry.2) builder _
  | matched => exact Grows.refl builder
  | unknown => exact grows_expandBlocked lib phase.operations builder snapshot

theorem grows_expandDeclaredPhase (builder : Builder) (phaseName : String) :
    Grows phaseName (HasNodes request phaseName) builder
      (builder.expandDeclaredPhase lib request phaseName) := by
  unfold Builder.expandDeclaredPhase HasNodes
  split
  case h_1 hnone => exact Grows.of_nodes_eq rfl fun hfatal => ⟨hfatal, by simp [hnone]⟩
  case h_2 phase hfind =>
    simp only [hfind, Option.mem_some_iff, exists_eq_left']
    obtain rfl : phase.name = phaseName := by simpa using find?_some hfind
    exact Grows.foldl (grows_expandSnapshot lib request phase) builder _

/-- Where nothing fails, the phases have nodes that have something to plan. -/
theorem mem_nodes_foldl {names : List String} {builder : Builder}
    (hfatal : (names.foldl (Builder.expandDeclaredPhase lib request) builder).fatal = []) :
    builder.fatal = [] ∧ ∀ name,
      (∃ node ∈ (names.foldl (Builder.expandDeclaredPhase lib request) builder).nodes,
        node.phaseName = name) ↔
      (∃ node ∈ builder.nodes, node.phaseName = name) ∨ name ∈ names ∧ HasNodes request name := by
  induction names generalizing builder with
  | nil => exact ⟨hfatal, by simp⟩
  | cons first names ih =>
    obtain ⟨hnext, hmem⟩ := ih hfatal
    obtain ⟨new, hnew, hphase, -, hplanned⟩ :=
      (grows_expandDeclaredPhase lib request builder first).appends
    obtain ⟨hbefore, hsome⟩ := hplanned hnext
    refine ⟨hbefore, fun name => ?_⟩
    have hfirst : (∃ node ∈ new, node.phaseName = name) ↔ name = first ∧ HasNodes request name := by
      constructor
      · rintro ⟨node, hnode, rfl⟩
        rw [hphase node hnode]
        exact ⟨rfl, hsome.mp ⟨node, hnode⟩⟩
      · rintro ⟨rfl, hnodes⟩
        obtain ⟨node, hnode⟩ := hsome.mpr hnodes
        exact ⟨node, hnode, hphase node hnode⟩
    rw [foldl_cons, hmem, hnew, mem_cons, or_and_right, ← hfirst]
    simp only [mem_append, or_and_right, exists_or, or_assoc]

end Expansion

/-! ## The nodes of a whole plan -/

/-- The nodes after the phases in `done`, the first ones of the order. -/
structure Expanded (order done : List String) (nodes : List PlanNode) : Prop where
  ordinals : nodes.map (·.ordinal) = (List.range nodes.length).map checkedOrdinal
  phases : ∀ node ∈ nodes, node.phaseName ∈ done
  ordered : nodes.Pairwise fun a b => order.idxOf a.phaseName ≤ order.idxOf b.phaseName

variable {earlier name d d' : String} {a b node : PlanNode}

section Order
variable {order done rest : List String} {phaseName : String} {builder builder' : Builder}

theorem idxOf_le_of_done (hord : order = done ++ phaseName :: rest) (hnd : order.Nodup)
    (h : earlier ∈ done) : order.idxOf earlier ≤ order.idxOf phaseName :=
  (precedes_of_split hnd hord h).1.le

theorem Expanded.phase (h : Expanded order done builder.nodes)
    (hord : order = done ++ phaseName :: rest) (hnd : order.Nodup)
    {planned : Prop} (hgrows : Grows phaseName planned builder builder') :
    Expanded order (done ++ [phaseName]) builder'.nodes := by
  obtain ⟨new, hnew, hphase, hords, -⟩ := hgrows
  refine ⟨?_, ?_, ?_⟩
  · rw [hnew, map_append, h.ordinals, hords, length_append, range_eq_range',
      range_eq_range', ← range'_append]
    simp
  · intro node hnode
    rw [hnew] at hnode
    rcases mem_append.mp hnode with hold | hnode
    · exact mem_append_left _ (h.phases node hold)
    · exact mem_append_right done (mem_singleton.mpr (hphase node hnode))
  · rw [hnew, pairwise_append]
    refine ⟨h.ordered, ?_, ?_⟩
    · refine pairwise_iff_forall_sublist.mpr fun {a b} hsub => ?_
      have ha : a ∈ new := hsub.subset mem_cons_self
      have hb : b ∈ new := hsub.subset (mem_cons_of_mem a mem_cons_self)
      rw [hphase a ha, hphase b hb]
    · intro a ha b hb
      rw [hphase b hb]
      exact idxOf_le_of_done hord hnd (h.phases a ha)

theorem Expanded.foldl {lib : Library} {request : PlanningRequest}
    (h : Expanded order done builder.nodes) (hord : order = done ++ rest) (hnd : order.Nodup) :
    Expanded order order (rest.foldl (Builder.expandDeclaredPhase lib request) builder).nodes := by
  induction rest generalizing done builder with
  | nil =>
    rw [append_nil] at hord
    exact hord ▸ h
  | cons phaseName _ ih =>
    have hnext := h.phase hord hnd (grows_expandDeclaredPhase lib request builder phaseName)
    exact ih hnext (by simpa using hord)

theorem expanded_expand {lib : Library} {request : PlanningRequest}
    (hnd : request.policy.phaseOrder.Nodup) :
    Expanded request.policy.phaseOrder request.policy.phaseOrder (expand lib request).nodes := by
  have hnil : ∀ done, Expanded request.policy.phaseOrder done [] := fun _ =>
    ⟨rfl, fun _ hnode => (nomatch hnode), .nil⟩
  unfold expand
  split
  · exact hnil _
  · exact Expanded.foldl (hnil []) rfl hnd

end Order

section Ordinals
variable {order done : List String} {nodes : List PlanNode}

theorem Expanded.ordinals_eq (h : Expanded order done nodes) (hsize : nodes.length ≤ 1 <<< 32) :
    nodes.map (·.ordinal) = List.range nodes.length := by
  rw [h.ordinals]
  refine (map_congr_left fun i hi => ?_).trans (map_id _)
  have hlt : i < nodes.length := mem_range.mp hi
  exact Nat.min_eq_left (by omega)

theorem nodup_of_ordinals (h : nodes.map (·.ordinal) = List.range nodes.length) : nodes.Nodup :=
  List.Nodup.of_map (·.ordinal) (h ▸ nodup_range)

/-- Ordinals follow the order of the list. -/
theorem ordinal_lt_of_sublist (h : nodes.map (·.ordinal) = List.range nodes.length) :
    nodes.Pairwise fun a b => a.ordinal < b.ordinal := by
  rw [← pairwise_map (f := fun node : PlanNode => node.ordinal), h]
  exact pairwise_lt_range

/-- A node of an earlier phase has the smaller ordinal. -/
theorem Expanded.ordinal_lt (h : Expanded order done nodes)
    (hords : nodes.map (·.ordinal) = List.range nodes.length) (ha : a ∈ nodes)
    (hb : b ∈ nodes) (hlt : order.idxOf a.phaseName < order.idxOf b.phaseName) :
    a.ordinal < b.ordinal := by
  have hboth := h.ordered.and (ordinal_lt_of_sublist hords)
  obtain ⟨i, hi, rfl⟩ := getElem_of_mem ha
  obtain ⟨j, hj, rfl⟩ := getElem_of_mem hb
  rcases lt_trichotomy i j with hij | rfl | hij
  · exact (pairwise_iff_getElem.mp hboth i j hi hj hij).2
  · exact absurd hlt (lt_irrefl _)
  · exact absurd (pairwise_iff_getElem.mp hboth j i hj hi hij).1 (not_le.mpr hlt)

end Ordinals

/-! ## Pairs -/

/-- The first node is one of a phase that the phase of the second lists. -/
def Waits (policy : CompiledPolicy) (nodes : List PlanNode) (a b : PlanNode) : Prop :=
  a ∈ nodes ∧ b ∈ nodes ∧
    ∃ phase ∈ policy.phases, phase.name = b.phaseName ∧ a.phaseName ∈ phase.dependsOn

/-- Of the dependencies of a phase that has nodes, those that have nodes are listed once. -/
def DependsOnce (policy : CompiledPolicy) (hasNodes : String → Prop) : Prop :=
  ∀ phase ∈ policy.phases, hasNodes phase.name →
    phase.dependsOn.Pairwise fun d d' => hasNodes d → d ≠ d'

section Pairs
variable {policy : CompiledPolicy} {nodes : List PlanNode} {phase : CompiledPhase}

theorem mem_nodesOfPhase :
    node ∈ nodesOfPhase nodes name ↔ node ∈ nodes ∧ node.phaseName = name := by
  simp [nodesOfPhase]

section
variable (hordered : policy.WellOrdered)
include hordered

/-- Each name of the order is that of one phase. -/
theorem find_phase (hphase : phase ∈ policy.phases) :
    policy.phases.reverse.find? (·.name = phase.name) = some phase := by
  refine find?_key ?_ (mem_reverse.mpr hphase)
  rw [map_reverse, nodup_reverse]
  exact hordered.perm.nodup_iff.mp hordered.nodup

theorem phasePairs_eq (hphase : phase ∈ policy.phases) :
    phasePairs policy.phases nodes phase.name = phase.dependsOn.flatMap fun dependency =>
      nodesOfPhase nodes dependency ×ˢ nodesOfPhase nodes phase.name := by
  rw [phasePairs, find_phase hordered hphase]
  rfl

/-- The pairs of a name that is no phase's are none. -/
theorem exists_phase (hname : name ∈ policy.phaseOrder) :
    ∃ phase ∈ policy.phases, phase.name = name :=
  mem_map.mp (hordered.perm.mem_iff.mp hname)

theorem mem_phasePairs (hphase : phase ∈ policy.phases) :
    (a, b) ∈ phasePairs policy.phases nodes phase.name ↔
      a ∈ nodes ∧ a.phaseName ∈ phase.dependsOn ∧ b ∈ nodes ∧ b.phaseName = phase.name := by
  rw [phasePairs_eq hordered hphase, mem_flatMap]
  simp only [mem_product, mem_nodesOfPhase]
  constructor
  · rintro ⟨_, hlist, ⟨ha, rfl⟩, hb⟩
    exact ⟨ha, hlist, hb⟩
  · rintro ⟨ha, hlist, hb⟩
    exact ⟨a.phaseName, hlist, ⟨ha, rfl⟩, hb⟩

theorem mem_dependentPairs : (a, b) ∈ dependentPairs policy nodes ↔ Waits policy nodes a b := by
  rw [dependentPairs, mem_flatMap]
  constructor
  · rintro ⟨_, hname, hpair⟩
    obtain ⟨phase, hphase, rfl⟩ := exists_phase hordered hname
    obtain ⟨ha, hlist, hb, hbname⟩ := (mem_phasePairs hordered hphase).mp hpair
    exact ⟨ha, hb, phase, hphase, hbname.symm, hlist⟩
  · rintro ⟨ha, hb, phase, hphase, hname, hlist⟩
    have hin : phase.name ∈ policy.phaseOrder :=
      hordered.perm.mem_iff.mpr (mem_map_of_mem hphase)
    exact ⟨phase.name, hin, (mem_phasePairs hordered hphase).mpr ⟨ha, hlist, hb, hname.symm⟩⟩

end

/-- Two dependencies share a pair only when they are the same and have nodes. -/
theorem disjoint_product_iff :
    List.Disjoint (nodesOfPhase nodes d ×ˢ nodesOfPhase nodes name)
      (nodesOfPhase nodes d' ×ˢ nodesOfPhase nodes name) ↔
    (d = d' → nodesOfPhase nodes d = [] ∨ nodesOfPhase nodes name = []) := by
  constructor
  · rintro hdisjoint rfl
    by_contra hne
    obtain ⟨hd, hname⟩ := not_or.mp hne
    obtain ⟨a, ha⟩ := exists_mem_of_ne_nil _ hd
    obtain ⟨b, hb⟩ := exists_mem_of_ne_nil _ hname
    have hpair := mem_product.mpr ⟨ha, hb⟩
    exact hdisjoint hpair hpair
  · rintro hempty ⟨a, b⟩ hpair hpair'
    obtain ⟨ha, hb⟩ := mem_product.mp hpair
    obtain ⟨ha', -⟩ := mem_product.mp hpair'
    have hsame : d = d' := (mem_nodesOfPhase.mp ha).2.symm.trans (mem_nodesOfPhase.mp ha').2
    rcases hempty hsame with hnil | hnil
    · exact ne_nil_of_mem ha hnil
    · exact ne_nil_of_mem hb hnil

theorem nodup_phasePairs (hordered : policy.WellOrdered) (hnodes : nodes.Nodup)
    (hphase : phase ∈ policy.phases) : (phasePairs policy.phases nodes phase.name).Nodup ↔
      (nodesOfPhase nodes phase.name ≠ [] →
        phase.dependsOn.Pairwise fun d d' => nodesOfPhase nodes d ≠ [] → d ≠ d') := by
  have hproduct : ∀ d, (nodesOfPhase nodes d ×ˢ nodesOfPhase nodes phase.name).Nodup := fun d =>
    (hnodes.filter _).product (hnodes.filter _)
  rw [phasePairs_eq hordered hphase, nodup_flatMap, and_iff_right fun d _ => hproduct d]
  have hapart : ∀ d d', Function.onFun List.Disjoint
      (fun d => nodesOfPhase nodes d ×ˢ nodesOfPhase nodes phase.name) d d' ↔
      (d = d' → nodesOfPhase nodes d = [] ∨ nodesOfPhase nodes phase.name = []) :=
    fun d d' => disjoint_product_iff
  rw [List.Pairwise.iff fun {d d'} => hapart d d']
  by_cases hnil : nodesOfPhase nodes phase.name = []
  · exact iff_of_true (pairwise_of_forall fun _ _ _ => .inr hnil) fun hne => absurd hnil hne
  rw [forall_prop_of_true hnil]
  refine List.Pairwise.iff fun {d d'} => ?_
  rw [or_iff_left hnil, Ne, Ne, imp_not_comm, not_not]

theorem nodup_dependentPairs (hordered : policy.WellOrdered) (hnodes : nodes.Nodup) :
    (dependentPairs policy nodes).Nodup ↔ DependsOnce policy (nodesOfPhase nodes · ≠ []) := by
  have hapart : policy.phaseOrder.Pairwise (Function.onFun List.Disjoint
      (phasePairs policy.phases nodes)) := by
    refine hordered.nodup.imp_of_mem fun {name name'} hname hname' hne => ?_
    rintro ⟨a, b⟩ hpair hpair'
    obtain ⟨_, hphase, rfl⟩ := exists_phase hordered hname
    obtain ⟨_, hphase', rfl⟩ := exists_phase hordered hname'
    have hb := ((mem_phasePairs hordered hphase).mp hpair).2.2.2
    have hb' := ((mem_phasePairs hordered hphase').mp hpair').2.2.2
    exact hne (hb.symm.trans hb')
  rw [dependentPairs, nodup_flatMap, and_iff_left hapart]
  constructor
  · intro h phase hphase
    have hin : phase.name ∈ policy.phaseOrder :=
      hordered.perm.mem_iff.mpr (mem_map_of_mem hphase)
    exact (nodup_phasePairs hordered hnodes hphase).mp (h phase.name hin)
  · intro h _ hname
    obtain ⟨phase, hphase, rfl⟩ := exists_phase hordered hname
    exact (nodup_phasePairs hordered hnodes hphase).mpr (h phase hphase)

end Pairs

/-! ## The summary -/

/-- What the counts of a summary add up to. -/
structure CountsTo (summary : PlanSummary) (n : Nat) : Prop where
  statuses : summary.executableNodeCount + summary.noOpNodeCount + summary.blockedNodeCount = n
  kinds : (summary.operationCountsByKind.map (·.2)).sum = n

theorem bump_eq {count : Nat} (h : count + 1 < 1 <<< 32) : bump count = count + 1 :=
  Nat.mod_eq_of_lt h

theorem bumpKind_sum (kind : PlanOperationKind) {counts : List (PlanOperationKind × Nat)}
    (h : (counts.map (·.2)).sum + 1 < 1 <<< 32) :
    ((bumpKind kind counts).map (·.2)).sum = (counts.map (·.2)).sum + 1 := by
  induction counts with
  | nil => rfl
  | cons =>
    rw [map_cons, sum_cons] at h
    rw [bumpKind]
    split
    · rw [map_cons, sum_cons, map_cons, sum_cons, bump_eq (by omega)]
      omega
    · rw [map_cons, sum_cons, map_cons, sum_cons]
      omega

theorem CountsTo.add {summary : PlanSummary} {n : Nat} (h : CountsTo summary n)
    (hsize : n + 1 < 1 <<< 32) (node : PlanNode) : CountsTo (summary.add node) (n + 1) := by
  obtain ⟨_, hkinds⟩ := h
  have hkind := bumpKind_sum node.operationKind (hkinds.symm ▸ hsize)
  have hexecutable : bump summary.executableNodeCount = summary.executableNodeCount + 1 :=
    bump_eq (by omega)
  have hnoOp : bump summary.noOpNodeCount = summary.noOpNodeCount + 1 := bump_eq (by omega)
  have hblock : bump summary.blockedNodeCount = summary.blockedNodeCount + 1 :=
    bump_eq (by omega)
  unfold PlanSummary.add
  refine ⟨?_, ?_⟩
  · cases node.status <;> simp only [hblock] <;> omega
  · cases node.status <;> exact hkind.trans (congrArg (· + 1) hkinds)

theorem CountsTo.foldl {summary : PlanSummary} {n : Nat} (h : CountsTo summary n)
    (nodes : List PlanNode) (hsize : n + nodes.length < 1 <<< 32) :
    CountsTo (nodes.foldl PlanSummary.add summary) (n + nodes.length) := by
  induction nodes generalizing summary n with
  | nil => exact h
  | cons node _ ih =>
    rw [length_cons] at hsize ⊢
    have hnext := ih (h.add (by omega) node) (by omega)
    rwa [Nat.add_right_comm] at hnext

variable {nodes : List PlanNode}

theorem summarizeNodes_countsTo (hsize : nodes.length < 1 <<< 32) :
    CountsTo (summarizeNodes nodes) nodes.length := by
  have hstart : CountsTo { totalNodeCount := checkedOrdinal nodes.length } 0 := ⟨rfl, rfl⟩
  have hcounts := hstart.foldl nodes (by omega)
  rw [Nat.zero_add] at hcounts
  exact ⟨hcounts.statuses, hcounts.kinds⟩

/-! ## The whole plan -/

/-- The nodes of a plan are numbered in order, its edges lead from every node of a phase to
every node of each phase that depends on it, each once, and forward, and its counts add up. -/
structure WellFormed (lib : Library) (policy : CompiledPolicy) (plan : ExecutionPlan) : Prop where
  ordinals : plan.nodes.map (·.ordinal) = List.range plan.nodes.length
  edges : ∃ pairs : List (PlanNode × PlanNode), plan.edges = pairs.map (edgeBetween lib) ∧
    pairs.Nodup ∧ ∀ a b, (a, b) ∈ pairs ↔ Waits policy plan.nodes a b
  distinct : (plan.nodes.map (·.nodeId)).Nodup → plan.edges.Nodup
  forward : ∀ a b, Waits policy plan.nodes a b → a.ordinal < b.ordinal
  acyclic : ∀ a, ¬ TransGen (Waits policy plan.nodes) a a
  statuses : plan.summary.executableNodeCount + plan.summary.noOpNodeCount +
    plan.summary.blockedNodeCount = plan.nodes.length
  kinds : (plan.summary.operationCountsByKind.map (·.2)).sum = plan.nodes.length

theorem generatePlan_ok {lib : Library} {request : PlanningRequest} {plan : ExecutionPlan}
    (h : generatePlan lib request = .ok plan) :
    plan.nodes = (expand lib request).nodes ∧ plan.summary = summarizeNodes plan.nodes ∧
      plan.edges = buildPhaseEdges lib request.policy plan.nodes ∧
      (expand lib request).fatal = [] := by
  simp only [generatePlan, finish, bind_ok, require_ok, return_ok] at h
  obtain ⟨_, -, _, -, _, hfatal, rfl⟩ := h
  exact ⟨rfl, rfl, rfl, hfatal⟩

theorem nodesOfPhase_expand {lib : Library} {request : PlanningRequest}
    (hordered : request.policy.WellOrdered) (hfatal : (expand lib request).fatal = [])
    (name : String) :
    nodesOfPhase (expand lib request).nodes name ≠ [] ↔ HasNodes request name := by
  have hin : HasNodes request name → name ∈ request.policy.phaseOrder := by
    rintro ⟨phase, hphase, -⟩
    obtain rfl : phase.name = name := by simpa using find?_some hphase
    exact hordered.perm.mem_iff.mpr (mem_map_of_mem (mem_of_find?_eq_some hphase))
  have hnonempty (nodes : List PlanNode) :
      nodesOfPhase nodes name ≠ [] ↔ ∃ node ∈ nodes, node.phaseName = name := by
    simp [nodesOfPhase]
  rw [hnonempty]
  unfold expand at hfatal ⊢
  split at hfatal
  case isTrue hempty =>
    rw [if_pos hempty]
    rw [hempty] at hin
    simpa using fun h => (nomatch hin h)
  case isFalse hne =>
    rw [if_neg hne, (mem_nodes_foldl lib request hfatal).2 name]
    simpa using hin

/-- Along the relation the ordinal grows. -/
theorem ordinal_lt_of_transGen {policy : CompiledPolicy}
    (hforward : ∀ a b, Waits policy nodes a b → a.ordinal < b.ordinal)
    (h : TransGen (Waits policy nodes) a b) : a.ordinal < b.ordinal := by
  induction h with
  | single h => exact hforward _ _ h
  | tail _ h ih => exact ih.trans (hforward _ _ h)

variable {pairs : List (PlanNode × PlanNode)}

theorem edges_nodup {lib : Library} (hids : (nodes.map (·.nodeId)).Nodup) (hpairs : pairs.Nodup)
    (hmem : ∀ a b, (a, b) ∈ pairs → a ∈ nodes ∧ b ∈ nodes) :
    (pairs.map (edgeBetween lib)).Nodup := by
  refine hpairs.map_on ?_
  rintro ⟨a, b⟩ hpair ⟨a', b'⟩ hpair' hedge
  obtain ⟨ha, hb⟩ := hmem a b hpair
  obtain ⟨ha', hb'⟩ := hmem a' b' hpair'
  have hfrom : a.nodeId = a'.nodeId := congrArg Edge.fromNodeId hedge
  have hto : b.nodeId = b'.nodeId := congrArg Edge.toNodeId hedge
  rw [inj_on_of_nodup_map hids ha ha' hfrom, inj_on_of_nodup_map hids hb hb' hto]

/-- A list that gives the same edges and has no pair twice leaves none to be repeated. -/
theorem nodup_of_same_edges {lib : Library} {pairs' : List (PlanNode × PlanNode)}
    (hedges : pairs.map (edgeBetween lib) = pairs'.map (edgeBetween lib)) (hnd : pairs'.Nodup)
    (hsub : pairs' ⊆ pairs) : pairs.Nodup := by
  have hlen : pairs.length = pairs'.length := by simpa using congrArg length hedges
  have hperm : pairs'.Perm pairs :=
    (subperm_of_subset hnd hsub).perm_of_length_le hlen.le
  exact hperm.nodup_iff.mp hnd

/-- A plan is well formed exactly when no phase with something to plan lists a dependency twice,
of those that have something to plan too. -/
theorem wellFormed_iff (lib : Library) (request : PlanningRequest) (plan : ExecutionPlan)
    (hplan : generatePlan lib request = .ok plan) (hordered : request.policy.WellOrdered)
    (hsize : plan.nodes.length < 1 <<< 32) :
    WellFormed lib request.policy plan ↔ DependsOnce request.policy (HasNodes request) := by
  obtain ⟨hnodes, hsummary, hedges, hfatal⟩ := generatePlan_ok hplan
  have hhas : (nodesOfPhase plan.nodes · ≠ []) = HasNodes request :=
    funext fun name => propext (hnodes ▸ nodesOfPhase_expand hordered hfatal name)
  have hexpanded : Expanded request.policy.phaseOrder request.policy.phaseOrder plan.nodes :=
    hnodes ▸ expanded_expand hordered.nodup
  have hordinals := hexpanded.ordinals_eq hsize.le
  have hdistinct := nodup_of_ordinals hordinals
  have hforward : ∀ a b, Waits request.policy plan.nodes a b → a.ordinal < b.ordinal := by
    rintro a b ⟨ha, hb, phase, hphase, hname, hlisted⟩
    have hbefore := hordered.behind phase hphase a.phaseName hlisted
    exact hexpanded.ordinal_lt hordinals ha hb (hname ▸ hbefore.1)
  have hcounts : CountsTo plan.summary plan.nodes.length :=
    hsummary ▸ summarizeNodes_countsTo hsize
  rw [← hhas, ← nodup_dependentPairs hordered hdistinct]
  constructor
  · rintro ⟨-, ⟨_, hpairs, hnodup, hmem⟩, -, -, -, -, -⟩
    refine nodup_of_same_edges (hedges.symm.trans hpairs) hnodup ?_
    rintro ⟨a, b⟩ hpair
    exact (mem_dependentPairs hordered).mpr ((hmem a b).mp hpair)
  · intro hnodup
    have hmem : ∀ a b, (a, b) ∈ dependentPairs request.policy plan.nodes ↔
        Waits request.policy plan.nodes a b := fun a b => mem_dependentPairs hordered
    refine ⟨hordinals, ⟨_, hedges, hnodup, hmem⟩, ?_, hforward, ?_, hcounts.statuses, hcounts.kinds⟩
    · intro hids
      rw [hedges]
      refine edges_nodup hids hnodup fun a b hpair => ?_
      obtain ⟨ha, hb, -⟩ := (hmem a b).mp hpair
      exact ⟨ha, hb⟩
    · exact fun a hcycle => lt_irrefl _ (ordinal_lt_of_transGen hforward hcycle)

/-! A plan for one file of which nothing is known, with texts for digests. -/

def plainLibrary : Library where
  blake3Hex := id
  charLowercase := fun c => [c.toLower]

def bareSnapshot : MediaSnapshot where
  existingMediaSnapshotId := none
  container := none
  streamSummary := .object []
  target := .stored .fileVersion 1
  videoCodec := none
  width := none
  height := none
  hdr := none
  bitrate := none
  durationMillis := none

def bareRequest (policy : CompiledPolicy) : PlanningRequest where
  policy
  resolvedProfile := fun _ _ _ => none
  input := ⟨[bareSnapshot], false⟩

/-- What compilation returns is in order. -/
theorem compilePolicy_wellOrdered {source : RustText.Text} {output : CompileOutput}
    (h : compilePolicy source = .ok output) : output.policy.WellOrdered := by
  obtain ⟨_, -, hval, _, hcomp⟩ := compilePolicy_ok h
  exact compileAst_wellOrdered (resolved_of_valid hval) hcomp

def verifyTwiceSource : RustText.Text :=
  "policy \"p\" \x7b phase a \x7b verify artifact \x7d
    phase b \x7b depends_on: a verify artifact \x7d \x7d".toList

theorem verifyTwiceSource_wellFormed :
    ∃ output plan, compilePolicy verifyTwiceSource = .ok output ∧
      generatePlan plainLibrary (bareRequest output.policy) = .ok plan ∧
      plan.edges.length = 1 ∧ WellFormed plainLibrary output.policy plan := by
  obtain ⟨output, hcompile, hplanned⟩ :=
    exists_ok (x := compilePolicy verifyTwiceSource)
      (P := fun output => succeedsWith (generatePlan plainLibrary (bareRequest output.policy))
        (fun plan => decide (plan.nodes.length = 2 ∧ plan.edges.length = 1 ∧
          ∀ phase ∈ output.policy.phases, phase.dependsOn.Nodup)) = true)
      (by decide +kernel)
  obtain ⟨plan, hplan, hnodes, hedges, honce⟩ := exists_ok hplanned
  have hsize : plan.nodes.length < 1 <<< 32 := by rw [hnodes]; decide
  have hformed : WellFormed plainLibrary output.policy plan :=
    (wellFormed_iff plainLibrary (bareRequest output.policy) plan hplan
      (compilePolicy_wellOrdered hcompile) hsize).mpr fun phase hphase _ =>
        (honce phase hphase).imp_of_mem fun _ _ hne _ => hne
  exact ⟨output, plan, hcompile, hplan, hedges, hformed⟩

def repeatedDependencySource : RustText.Text :=
  "policy \"p\" \x7b phase a \x7b verify artifact \x7d
    phase b \x7b depends_on: [a, a] verify artifact \x7d \x7d".toList

/-- A dependency listed twice is accepted, and its edge stands twice in the plan. -/
theorem repeatedDependencySource_repeats_edge :
    ∃ output plan, compilePolicy repeatedDependencySource = .ok output ∧
      output.policy.WellOrdered ∧
      generatePlan plainLibrary (bareRequest output.policy) = .ok plan ∧
      plan.nodes.length = 2 ∧ (plan.nodes.map (·.nodeId)).Nodup ∧ plan.edges.length = 2 ∧
      ¬ plan.edges.Nodup := by
  obtain ⟨output, hcompile, hplanned⟩ :=
    exists_ok (x := compilePolicy repeatedDependencySource)
      (P := fun output => succeedsWith (generatePlan plainLibrary (bareRequest output.policy))
        (fun plan => decide (plan.nodes.length = 2 ∧ (plan.nodes.map (·.nodeId)).Nodup ∧
          plan.edges.length = 2 ∧ ¬ plan.edges.Nodup)) = true)
      (by decide +kernel)
  obtain ⟨plan, hplan, hfacts⟩ := exists_ok hplanned
  exact ⟨output, plan, hcompile, compilePolicy_wellOrdered hcompile, hplan, hfacts⟩

end Voom.Planner
