import VoomProof.ConditionText
import VoomProof.LoweredOperations

/-!
# The texts that lowering reads

Lowering takes the statements of a policy in order, reads the texts of their conditions and tag
values, and stops at the first statement it rejects. `Reads` says for a policy as it was parsed
which texts these are, and `Follows` ties it to the result: lowering never returns exactly if one
of the texts is stuck, it succeeds exactly if none is and nothing is rejected, and then the
numbers of what is compiled are the number literals of the texts.
-/

namespace Voom
open RustText Fallible List Option

/-! ## Numbers of a compiled policy -/

mutual

def CompiledValue.numbers : CompiledValue → List String
  | .number value => [value]
  | .list values => valuesNumbers values
  | _ => []

def valuesNumbers : List CompiledValue → List String
  | [] => []
  | value :: rest => value.numbers ++ valuesNumbers rest

end

mutual

def CompiledCondition.numbers : CompiledCondition → List String
  | .fieldComparison _ _ value => value.numbers
  | .not inner => inner.numbers
  | .and conditions | .or conditions => conditionsNumbers conditions
  | _ => []

def conditionsNumbers : List CompiledCondition → List String
  | [] => []
  | condition :: rest => condition.numbers ++ conditionsNumbers rest

end

def guardNumbers (condition : Option CompiledCondition) : List String :=
  condition.toList.flatMap (·.numbers)

mutual

def CompiledOperation.numbers : CompiledOperation → List String
  | .setTag _ value => value.numbers
  | .conditional condition operations => condition.numbers ++ operationsNumbers operations
  | .rules _ rules => rulesNumbers rules
  | _ => []

def operationsNumbers : List CompiledOperation → List String
  | [] => []
  | operation :: rest => operation.numbers ++ operationsNumbers rest

def rulesNumbers :
    List (String × Option CompiledCondition × List CompiledOperation) → List String
  | [] => []
  | (_, condition, operations) :: rest =>
      guardNumbers condition ++ operationsNumbers operations ++ rulesNumbers rest

end

def CompiledPhase.numbers (phase : CompiledPhase) : List String :=
  guardNumbers phase.skipIf ++ operationsNumbers phase.operations

/-- Every number of a policy, at any depth. -/
def CompiledPolicy.numbers (policy : CompiledPolicy) : List String :=
  policy.phases.flatMap (·.numbers)

/-! ## Number literals -/

/-- The text as a number, if it is one. -/
def digitText (text : Text) : List String :=
  if trim text ≠ [] ∧ (trim text).all Char.isDigit then [String.ofList (trim text)] else []

/-- The number behind the comparison of a condition that is not taken apart. -/
def leafNumbers (text : Text) : List String :=
  let tokens := words text
  if tokens.head? = some "exists" then []
  else if tokens.head? = some "count" then []
  else
    match tokens.findIdx? fun token => (comparisonOp token).isSome with
    | some index => digitText
        ((comparisonRhs text (tokens.getD index "").toList).getD
          (tokens.getD (index + 1) "").toList)
    | none => []

def conditionNumbersAt : Nat → Text → List String
  | 0, _ => []
  | levels + 1, text =>
      match conditionShape text with
      | .or parts | .and parts => parts.flatMap (conditionNumbersAt levels)
      | .not inner => conditionNumbersAt levels inner
      | .leaf leaf => leafNumbers leaf

theorem digitText_digits {text : Text} {n : String} (h : n ∈ digitText text) :
    n.toList ≠ [] ∧ n.toList.all Char.isDigit = true := by
  unfold digitText at h
  split at h
  case isTrue hdigits =>
    rw [mem_singleton.mp h, String.toList_ofList]
    exact hdigits
  case isFalse => cases h

theorem compiledValue_numbers (text : Text) : (compiledValue text).numbers = digitText text := by
  have hnone (c : Char) (hmem : c ∈ trim text) (hdigit : c.isDigit = false) :
      digitText text = [] := by
    refine if_neg fun h => ?_
    cases hdigit.symm.trans (all_eq_true.mp h.2 c hmem)
  unfold compiledValue
  dsimp only
  split
  case isTrue hquoted => exact (hnone _ (mem_of_mem_head? hquoted.1) (by decide)).symm
  split
  case isTrue htrue => exact (hnone 't' (by rw [htrue]; decide) (by decide)).symm
  split
  case isTrue hfalse => exact (hnone 'f' (by rw [hfalse]; decide) (by decide)).symm
  split
  case isTrue hdot => exact (hnone _ hdot (by decide)).symm
  unfold digitText
  split <;> rfl

theorem conditionLeaf_numbers (text : Text) : (conditionLeaf text).numbers = leafNumbers text := by
  unfold conditionLeaf leafNumbers
  dsimp only
  split
  · rfl
  split
  · rfl
  cases (words text).findIdx? fun token => (comparisonOp token).isSome with
  | some index => exact compiledValue_numbers _
  | none =>
    dsimp only
    split
    · split <;> rfl
    · rfl

theorem conditionFromTextAt_numbers {levels : Nat} {text : Text} {condition : CompiledCondition}
    (h : conditionFromTextAt levels text = some condition) :
    condition.numbers = conditionNumbersAt levels text := by
  induction levels generalizing text condition with
  | zero => cases h
  | succ levels ih =>
    have hparts (parts : List Text) (conditions : List CompiledCondition)
        (hmap : parts.mapM (conditionFromTextAt levels) = some conditions) :
        conditionsNumbers conditions = parts.flatMap (conditionNumbersAt levels) := by
      induction parts generalizing conditions with
      | nil =>
        cases hmap
        rfl
      | cons part rest ihparts =>
        simp only [mapM_cons, bind_eq_bind, bind_eq_some_iff, Option.pure_def, some.injEq]
          at hmap
        obtain ⟨first, hfirst, others, hothers, rfl⟩ := hmap
        rw [conditionsNumbers, flatMap_cons, ih hfirst, ihparts others hothers]
    rw [conditionFromTextAt_succ] at h
    rw [conditionNumbersAt]
    cases hshape : conditionShape text with
    | or parts | and parts =>
      rw [hshape] at h
      obtain ⟨conditions, hmap, rfl⟩ := map_eq_some_iff.mp h
      exact hparts parts conditions hmap
    | not inner =>
      rw [hshape] at h
      obtain ⟨_, hinner, rfl⟩ := map_eq_some_iff.mp h
      rw [CompiledCondition.numbers, ih hinner]
    | leaf leaf =>
      rw [hshape] at h
      cases h
      exact conditionLeaf_numbers leaf

/-! ## Reading in order -/

/-- A text of which lowering makes a condition, or the value of a tag. -/
inductive LoweredText where
  | condition (text : Text)
  | tagValue (text : Text)

/-- The number literals of the text, as lowering takes it apart. -/
def LoweredText.numbers : LoweredText → List String
  | .condition text => conditionNumbersAt (text.length + 1) text
  | .tagValue text => digitText text

/-- The texts that are read, up to the first statement that is rejected if there is one. -/
structure Reads where
  texts : List LoweredText
  complete : Bool

namespace Reads

/-- Nothing is read, and the statement may be rejected. -/
def check (passed : Bool) : Reads := ⟨[], passed⟩

def one (text : LoweredText) : Reads := ⟨[text], true⟩

def andThen (first second : Reads) : Reads :=
  if first.complete then ⟨first.texts ++ second.texts, second.complete⟩ else first

def Stuck (reads : Reads) : Prop := ∃ text, .condition text ∈ reads.texts ∧ Voom.Stuck text

end Reads

/-- A statement by its first word; `operations` and `rules` are what is read of its body. -/
def textReads (span : SourceSpan) (text : Text) (operations rules : Reads) : Reads :=
  match (words text).head?.bind OperationKeyword.ofText with
  | some .«when» => (Reads.one (.condition (whenCondition text))).andThen operations
  | some .rules => rules
  | some .setTag => .one (.tagValue ((textAfterQuotedValue text).getD []))
  | _ => .check (lowerTextOperation span text (.ok []) (.ok [])).isOk

mutual

def StatementAst.reads : StatementAst → Reads
  | .transcodeInline _ _ _ _ => .check true
  | .synthesizeInline _ header settings span => .check (lowerSynthesize span header settings).isOk
  | .raw _ text span => textReads span text (.check true) (.check true)
  | .block keyword name statements span =>
      textReads span (statementText (.block keyword name statements span))
        (statementsReads statements) (rulesReads statements)

def statementsReads : List StatementAst → Reads
  | [] => .check true
  | statement :: rest => statement.reads.andThen (statementsReads rest)

def ruleReads : StatementAst → Reads
  | .block _ (some header) statements _ =>
      match ruleHeader header.value with
      | some (_, condition) =>
        (Reads.one (.condition condition)).andThen (statementsReads statements)
      | none => .check false
  | _ => .check false

def rulesReads : List StatementAst → Reads
  | [] => .check true
  | rule :: rest => (ruleReads rule).andThen (rulesReads rest)

end

/-- Of several `skip` only the first is read. -/
def PhaseAst.reads (order : List String) (phase : PhaseAst) : Reads :=
  (Reads.check (phaseRunIf phase order).isOk).andThen
    (((controlNamed phase.controls "skip").elim (Reads.check true) fun control =>
        Reads.one (.condition (loweredSkipCondition (statementText control)))).andThen
      (statementsReads phase.operations))

def PolicyAst.reads (ast : PolicyAst) : Reads :=
  ast.phases.foldr (fun phase rest => (phase.reads (phaseOrder ast)).andThen rest) (.check true)

/-! ## Lowering follows the texts -/

/-- What becomes of a lowering that reads these texts. -/
def Follows {α : Type} (numbers : α → List String) (reads : Reads) : Except LowerFailure α → Prop
  | .ok a => reads.complete = true ∧ ¬ reads.Stuck ∧ numbers a = reads.texts.flatMap (·.numbers)
  | .error .diverges => reads.Stuck
  | .error (.rejected _) => reads.complete = false ∧ ¬ reads.Stuck

section Follows
variable {α β γ : Type} {x : Except LowerFailure α} {y : Except LowerFailure β} {r r' : Reads}
  {nα : α → List String} {nβ : β → List String} {nγ : γ → List String}

theorem Follows.diverges_iff (h : Follows nα r x) : x = .error .diverges ↔ r.Stuck := by
  rcases x with (_ | _) | _
  · exact iff_of_false (by simp) h.2
  · exact iff_of_true rfl h
  · exact iff_of_false (by simp) h.2.1

theorem Reads.not_stuck_check (passed : Bool) : ¬ (check passed).Stuck := by
  rintro ⟨_, h, -⟩
  cases h

theorem Reads.stuck_andThen (h : r.complete = true) :
    (r.andThen r').Stuck ↔ r.Stuck ∨ r'.Stuck := by
  simp only [andThen, h, if_true, Stuck, mem_append, or_and_right, exists_or]

theorem Reads.Stuck.andThen (h : r.Stuck) (r' : Reads) : (r.andThen r').Stuck := by
  cases hcomplete : r.complete with
  | true => exact (stuck_andThen hcomplete).mpr (.inl h)
  | false => rwa [Reads.andThen, hcomplete]

theorem Follows.done {a : α} (h : nα a = []) : Follows nα (.check true) (.ok a) :=
  ⟨rfl, Reads.not_stuck_check _, h⟩

theorem Follows.check (hfails : FailsWith (· ≠ .diverges) x) (hnone : ∀ a, x = .ok a → nα a = []) :
    Follows nα (.check x.isOk) x := by
  rcases x with (_ | _) | a
  · exact ⟨rfl, Reads.not_stuck_check _⟩
  · exact absurd rfl (hfails _ rfl)
  · exact ⟨rfl, Reads.not_stuck_check _, hnone a rfl⟩

/-- A check comes first. -/
theorem Follows.after {f : α → Except LowerFailure β} (hfails : FailsWith (· ≠ .diverges) x)
    (hf : ∀ a, x = .ok a → Follows nβ r (f a)) :
    Follows nβ ((Reads.check x.isOk).andThen r) (x >>= f) := by
  rcases x with (_ | _) | a
  · exact ⟨rfl, Reads.not_stuck_check _⟩
  · exact absurd rfl (hfails _ rfl)
  · exact hf a rfl

/-- What is lowered second is read where the first has been lowered. -/
theorem Follows.map₂ {g : α → β → γ} (hx : Follows nα r x) (hy : Follows nβ r' y)
    (hg : ∀ a b, nγ (g a b) = nα a ++ nβ b) :
    Follows nγ (r.andThen r') (do return g (← x) (← y)) := by
  rcases x with (_ | _) | a
  · rwa [Reads.andThen, hx.1]
  · exact hx.andThen r'
  · obtain ⟨hcomplete, hfree, hnumbers⟩ := hx
    have hstuck : (r.andThen r').Stuck ↔ r'.Stuck := by
      rw [Reads.stuck_andThen hcomplete, or_iff_right hfree]
    have hthen : r.andThen r' = ⟨r.texts ++ r'.texts, r'.complete⟩ := if_pos hcomplete
    rcases y with (_ | _) | b
    · exact ⟨(congrArg Reads.complete hthen).trans hy.1, fun h => hy.2 (hstuck.mp h)⟩
    · exact hstuck.mpr hy
    · refine ⟨(congrArg Reads.complete hthen).trans hy.1, fun h => hy.2.1 (hstuck.mp h), ?_⟩
      rw [hg, hnumbers, hy.2.2, hthen, flatMap_append]

theorem Follows.map {g : α → γ} (hx : Follows nα r x) (hg : ∀ a, nγ (g a) = nα a) :
    Follows nγ r (do return g (← x)) := by
  rcases x with (_ | _) | a
  · exact hx
  · exact hx
  · exact ⟨hx.1, hx.2.1, (hg a).trans hx.2.2⟩

end Follows

/-! ### Statements -/

theorem lowerCondition_follows (text : Text) :
    Follows CompiledCondition.numbers (.one (.condition text)) (lowerCondition text) := by
  have hstuck : (Reads.one (.condition text)).Stuck ↔ Stuck text := by
    simp [Reads.Stuck, Reads.one]
  rw [lowerCondition]
  cases hcondition : conditionFromText text with
  | none =>
    refine hstuck.mpr (not_not.mp fun hfree => ?_)
    have hsome := conditionFromText_isSome_iff.mpr hfree
    rw [hcondition] at hsome
    cases hsome
  | some condition =>
    refine ⟨rfl, fun h => conditionFromText_isSome_iff.mp ?_ (hstuck.mp h), ?_⟩
    · rw [hcondition]
      rfl
    · simp [Reads.one, LoweredText.numbers, conditionFromTextAt_numbers hcondition]

section Operations
variable {span : SourceSpan} {text : Text}
  {operations : Except LowerFailure (List CompiledOperation)}
  {rules : Except LowerFailure (List (String × Option CompiledCondition × List CompiledOperation))}

theorem unknownOperation_ne (span : SourceSpan) : unknownOperation span ≠ .diverges := by
  simp [unknownOperation, compileError]

/-- A filter, or fixed words, are found or rejected. -/
theorem lowerTextOperation_fails {keyword : Option OperationKeyword}
    (hword : (words text).head?.bind OperationKeyword.ofText = keyword)
    (hwhen : keyword ≠ some .«when») (hrules : keyword ≠ some .rules) :
    lowerTextOperation span text operations rules = lowerTextOperation span text (.ok []) (.ok []) ∧
      FailsWith (· ≠ .diverges) (lowerTextOperation span text operations rules) := by
  have hfilter (f : Option TrackFilter → CompiledOperation) :
      FailsWith (· ≠ .diverges) (do return f (← lowerOptionalFilter span text)) :=
    .bind (.find (by simp [validatedFilterError, compileError])) fun _ => .ok _
  have hfixed {β : Type} (p : Prop) [Decidable p] {f : Unit → Except LowerFailure β}
      (hf : FailsWith (· ≠ .diverges) (f ())) :
      FailsWith (· ≠ .diverges) (require p (unknownOperation span) >>= f) :=
    .bind (.require (unknownOperation_ne span)) fun _ => hf
  simp only [lowerTextOperation, hword]
  cases keyword with
  | none => exact ⟨rfl, fun _ h => Except.error.inj h ▸ unknownOperation_ne span⟩
  | some keyword =>
    cases keyword
    case «when» => exact absurd rfl hwhen
    case rules => exact absurd rfl hrules
    case keep | remove => exact ⟨rfl, hfilter _⟩
    case order => exact ⟨rfl, hfixed _ (hfilter _)⟩
    case defaults => exact ⟨rfl, hfilter _⟩
    case actions | verify | ensure | place => exact ⟨rfl, hfixed _ (.ok _)⟩
    case extract => exact ⟨rfl, hfixed _ (hfilter _)⟩
    case transcode =>
      refine ⟨rfl, ?_⟩
      dsimp only [lowerTranscode]
      split
      · exact hfilter _
      · exact .ok _
    case synthesize | «extend» =>
      exact ⟨rfl, fun _ h => Except.error.inj h ▸ unknownOperation_ne span⟩
    all_goals exact ⟨rfl, .ok _⟩

theorem lowerTextOperation_follows {r r' : Reads}
    (hoperations : Follows operationsNumbers r operations)
    (hrules : Follows rulesNumbers r' rules) :
    Follows CompiledOperation.numbers (textReads span text r r')
      (lowerTextOperation span text operations rules) := by
  unfold textReads
  split
  case h_1 hword =>
    simp only [lowerTextOperation, hword]
    exact (lowerCondition_follows _).map₂ hoperations fun _ _ => rfl
  case h_2 hword =>
    simp only [lowerTextOperation, hword]
    exact hrules.map fun _ => rfl
  case h_3 hword =>
    simp only [lowerTextOperation, hword]
    refine ⟨rfl, by simp [Reads.Stuck, Reads.one], ?_⟩
    simp [CompiledOperation.numbers, compiledValue_numbers, Reads.one, LoweredText.numbers]
  case h_4 hwhen hrule hset =>
    obtain ⟨heq, hfails⟩ := @lowerTextOperation_fails span text operations rules _ rfl hwhen hrule
    rw [← heq]
    refine .check hfails fun op hop => ?_
    have hkeyword := lowerTextOperation_keyword hop
    cases op with
    | setTag => exact absurd hkeyword hset
    | conditional => exact absurd hkeyword hwhen
    | rules => exact absurd hkeyword hrule
    | _ => rfl

end Operations

mutual

theorem lowerOperation_follows : (statement : StatementAst) →
    Follows CompiledOperation.numbers statement.reads (lowerOperation statement)
  | .transcodeInline _ _ _ _ => .done rfl
  | .synthesizeInline _ _ _ _ => by
    rw [StatementAst.reads, lowerOperation]
    refine .check (.bind (.find ?_) fun _ => .bind (.find ?_) fun _ => .ok _) fun op hop => ?_
    · simp [validatedFilterError, compileError]
    · simp [validatedFilterError, compileError]
    · simp only [lowerSynthesize, bind_ok, return_ok] at hop
      obtain ⟨_, -, _, -, rfl⟩ := hop
      rfl
  | .raw _ _ _ => by
    rw [StatementAst.reads, lowerOperation]
    exact lowerTextOperation_follows (.done rfl) (.done rfl)
  | .block _ _ statements _ => by
    rw [StatementAst.reads, lowerOperation]
    exact lowerTextOperation_follows (lowerOperations_follows statements)
      (lowerRules_follows statements)

theorem lowerOperations_follows : (statements : List StatementAst) →
    Follows operationsNumbers (statementsReads statements) (lowerOperations statements)
  | [] => .done rfl
  | statement :: rest => by
    rw [statementsReads, lowerOperations]
    exact (lowerOperation_follows statement).map₂ (lowerOperations_follows rest) fun _ _ => rfl

theorem lowerRule_follows : (rule : StatementAst) →
    Follows (fun lowered => guardNumbers lowered.2.1 ++ operationsNumbers lowered.2.2)
      (ruleReads rule) (lowerRule rule)
  | .block _ (some header) statements _ => by
    rw [ruleReads, lowerRule]
    cases ruleHeader header.value with
    | none => exact ⟨rfl, Reads.not_stuck_check _⟩
    | some parts =>
      exact (lowerCondition_follows parts.2).map₂ (lowerOperations_follows statements)
        fun _ _ => by simp [guardNumbers]
  | .block _ none _ _ | .raw _ _ _ | .transcodeInline _ _ _ _ | .synthesizeInline _ _ _ _ =>
    ⟨rfl, Reads.not_stuck_check _⟩

theorem lowerRules_follows : (rules : List StatementAst) →
    Follows rulesNumbers (rulesReads rules) (lowerRules rules)
  | [] => .done rfl
  | rule :: rest => by
    rw [rulesReads, lowerRules]
    exact (lowerRule_follows rule).map₂ (lowerRules_follows rest) fun _ _ => rfl

end

/-! ### Policies -/

theorem phaseRunIf_fails (phase : PhaseAst) (order : List String) :
    FailsWith (· ≠ .diverges) (phaseRunIf phase order) := by
  unfold phaseRunIf
  cases controlNamed phase.controls "run_if" with
  | none => exact .ok none
  | some control =>
    refine .bind ?_ fun gate => .bind (.require (by simp [compileError])) fun _ => .ok _
    intro failure h
    cases hparse : CompiledRunIf.parse (runIfName control) with
    | ok => cases hparse ▸ h
    | error message =>
      rw [hparse] at h
      cases h
      simp [compileError]

theorem phaseSkipIf_follows (controls : List StatementAst) :
    Follows guardNumbers ((controlNamed controls "skip").elim (Reads.check true) fun control =>
      Reads.one (.condition (loweredSkipCondition (statementText control))))
      (phaseSkipIf controls) := by
  unfold phaseSkipIf
  cases controlNamed controls "skip" with
  | none => exact .done rfl
  | some control =>
    dsimp only [Option.elim]
    generalize loweredSkipCondition (statementText control) = text
    exact (lowerCondition_follows text).map fun _ => by simp [guardNumbers]

theorem lowerPhase_follows (order : List String) (phase : PhaseAst) :
    Follows CompiledPhase.numbers (phase.reads order) (lowerPhase order phase) :=
  .after (phaseRunIf_fails phase order) fun _ _ =>
    (phaseSkipIf_follows phase.controls).map₂ (lowerOperations_follows phase.operations)
      fun _ _ => rfl

theorem lowerPhases_follow (order : List String) (phases : List PhaseAst) :
    Follows (·.flatMap CompiledPhase.numbers)
      (phases.foldr (fun phase rest => (phase.reads order).andThen rest) (.check true))
      (phases.mapM (lowerPhase order)) := by
  induction phases with
  | nil => exact .done rfl
  | cons phase rest ih =>
    rw [foldr_cons, mapM_cons]
    exact (lowerPhase_follows order phase).map₂ ih fun _ _ => flatMap_cons

theorem compileAst_follows (ast : PolicyAst) (warnings : Diagnostics) :
    Follows CompiledPolicy.numbers ast.reads (compileAst ast warnings) :=
  (lowerPhases_follow (phaseOrder ast) ast.phases).map fun phases => by
    simp only [CompiledPolicy.numbers, CompiledPolicy.applyExecutionDefaults, flatMap_map]
    rfl

/-- Compilation never returns exactly if the policy is valid and one of the texts is stuck. -/
theorem compilePolicy_diverges_iff {source : Text} :
    compilePolicy source = .error (.lowering .diverges) ↔
      ∃ ast, parsePolicySource source = .ok ast ∧
        hasErrors (validatePolicyAst source ast) = false ∧ ast.reads.Stuck := by
  unfold compilePolicy
  cases hparse : parsePolicySource source with
  | error => exact iff_of_false (by simp [Except.mapError, bind, Except.bind]) (by simp)
  | ok ast =>
    simp only [Except.ok.injEq, exists_eq_left']
    rw [show (Except.ok ast).mapError CompileFailure.parse = .ok ast from rfl, bind_of_ok rfl]
    cases hvalid : hasErrors (validatePolicyAst source ast) with
    | true => simp
    | false =>
      have hfollows := (compileAst_follows ast
        ((validatePolicyAst source ast).filter (·.severity = .warning))).diverges_iff
      simp only [Bool.false_eq_true, if_false, true_and, ← hfollows]
      rcases compileAst ast _ with (_ | _) | _ <;>
        simp [Except.mapError, bind, Except.bind, pure, Except.pure]

end Voom
