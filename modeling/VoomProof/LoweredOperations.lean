import VoomProof.ParsedStatements
import VoomProof.PhaseOrder

/-!
# Where compiled operations come from

Validation goes by the keyword of a statement, lowering by the first word of its header. In a
parsed statement the header begins with the keyword, so a first word that is a keyword of an
operation is the keyword of the statement. So every operation of a compiled policy, at any
depth, was lowered from a statement that validation checked under that operation's keyword
(`Origin`).
-/

namespace Voom
open Fallible RustText List Option Bool

/-! ## First words -/

theorem not_isWordSeparator_of_ident {c : Char} (h : isIdentContinue c = true) :
    isWordSeparator c = false := by
  have hbounds := isIdentContinue_bounds h
  simp only [isWordSeparator, isAsciiWhitespace, or_eq_false_iff, decide_eq_false_iff_not]
  refine ⟨⟨⟨⟨⟨⟨⟨⟨?_, ?_⟩, ?_⟩, ?_⟩, ?_⟩, ?_⟩, ?_⟩, ?_⟩, ?_⟩ <;> rintro rfl
  all_goals revert h hbounds; decide

theorem words_append_separator (sep : Char) (h : isWordSeparator sep = true) (a b : Text) :
    words (a ++ sep :: b) = words a ++ words b := by
  simp only [words, splitOnP_append_cons a b h, filter_append, map_append]

theorem words_of_no_separator {a : Text} (hne : a ≠ [])
    (h : ∀ c ∈ a, isWordSeparator c = false) : words a = [String.ofList a] := by
  simp [words, splitOnP_eq_singleton h, hne]

/-- The first word goes up to the first separator. -/
theorem words_append {a : Text} (hne : a ≠ []) (h : ∀ c ∈ a, isWordSeparator c = false)
    (rest : Text) :
    ∃ tail, words (a ++ rest) =
      String.ofList (a ++ rest.takeWhile (!isWordSeparator ·)) :: tail := by
  have hrun : ∀ c ∈ a ++ rest.takeWhile (!isWordSeparator ·), isWordSeparator c = false := by
    intro c hc
    rcases mem_append.mp hc with ha | hrest
    · exact h c ha
    · simpa using all_eq_true.mp all_takeWhile c hrest
  have hne' : a ++ rest.takeWhile (!isWordSeparator ·) ≠ [] := by simp [hne]
  rcases hdrop : rest.dropWhile (!isWordSeparator ·) with _ | ⟨sep, tail⟩
  · refine ⟨[], ?_⟩
    have hall : rest.takeWhile (!isWordSeparator ·) = rest := by
      have hsplit := takeWhile_append_dropWhile (p := (!isWordSeparator ·)) (l := rest)
      rwa [hdrop, append_nil] at hsplit
    rw [hall] at hne' hrun ⊢
    exact words_of_no_separator hne' hrun
  · have hsep : isWordSeparator sep = true := by
      have hhead := head?_dropWhile_not (!isWordSeparator ·) rest
      rw [hdrop] at hhead
      simpa using hhead
    refine ⟨words tail, ?_⟩
    rw [← singleton_append, ← words_of_no_separator hne' hrun, ← words_append_separator _ hsep,
      append_assoc, ← hdrop, takeWhile_append_dropWhile]

namespace OperationKeyword

theorem ofText_text {word : String} {k : OperationKeyword} (h : ofText word = some k) :
    k.text = word := by
  simpa using find?_some h

theorem ofText_of_text (k : OperationKeyword) : ofText k.text = some k := by
  cases k <;> decide

theorem ident (k : OperationKeyword) : ∀ c ∈ k.text.toList, isIdentContinue c = true :=
  all_eq_true.mp (by cases k <;> decide)

end OperationKeyword

variable {k : OperationKeyword}

/-- A first word that is a keyword is the keyword of the statement. -/
theorem Headed.keyword_eq {keyword : String} {text : Text} (h : Headed keyword text)
    (hk : (words text).head?.bind OperationKeyword.ofText = some k) : keyword = k.text := by
  obtain ⟨⟨hne, hident⟩, rest, rfl, hhead⟩ := h
  obtain ⟨_, hwords⟩ := words_append hne
    (fun c hc => not_isWordSeparator_of_ident (hident c hc)) rest
  rw [hwords] at hk
  have htext := OperationKeyword.ofText_text hk
  have hrun : rest.takeWhile (!isWordSeparator ·) = [] := by
    -- what follows the keyword is no part of an identifier, so it is no part of the word
    rcases rest with _ | ⟨c, rest⟩
    · rfl
    by_contra hrun
    have hin : c ∈ (c :: rest).takeWhile (!isWordSeparator ·) := by
      rw [takeWhile_cons] at hrun ⊢
      split at hrun
      case isTrue hc => rw [if_pos hc]; exact mem_cons_self
      case isFalse => exact absurd rfl hrun
    have hc := k.ident c (by
      rw [htext, String.toList_ofList]
      exact mem_append_right _ hin)
    rw [hhead c rfl] at hc
    cases hc
  rw [htext, hrun, append_nil, String.ofList_toList]

/-- The header of a block begins with its keyword and a blank. -/
theorem words_block (keyword : Spanned String) (h : IsIdentifier keyword.value.toList)
    (name : Option (Spanned Text)) (statements : List StatementAst) (span : SourceSpan) :
    (words (statementText (.block keyword name statements span))).head? = some keyword.value := by
  have hword := words_of_no_separator h.1 fun c hc => not_isWordSeparator_of_ident (h.2 c hc)
  rw [String.ofList_toList] at hword
  cases name with
  | none => rw [statementText, hword]; rfl
  | some =>
    rw [statementText, words_append_separator ' ' (by decide), hword]
    rfl

/-! ## Parts of a header -/

theorem ruleHeader_isInfix {header name condition : Text}
    (h : ruleHeader header = some (name, condition)) : condition <:+: header := by
  unfold ruleHeader at h
  split at h
  case h_1 quoted htrim =>
    obtain ⟨⟨_, rest⟩, hclose, hrest⟩ := bind_eq_some_iff.mp h
    obtain ⟨text, hstrip, htext⟩ := bind_eq_some_iff.mp hrest
    split at htext
    · cases htext
    · cases htext
      have hsuffix : text <:+ trim rest := by
        rw [stripPrefix_eq_some.mp hstrip]
        exact suffix_append _ _
      have hquoted : quoted <:+: header :=
        (suffix_cons '"' quoted).isInfix.trans (htrim ▸ trim_isInfix header)
      exact (trim_isInfix text).trans (hsuffix.isInfix.trans ((trim_isInfix rest).trans
        ((closeQuote_suffix hclose).isInfix.trans hquoted)))
  · cases h

variable {condition : CompiledCondition} {statements : List StatementAst}
  {operations : List CompiledOperation}
  {rules : List (String × Option CompiledCondition × List CompiledOperation)}
  {rule lowered : String × Option CompiledCondition × List CompiledOperation}
  {phase compiled : CompiledPhase} {output : CompileOutput}

namespace Produced
variable {source : Text} {n : Nat} {s : StatementAst}

section
variable (h : Produced source n s)
include h

/-- What is taken from behind the keyword of a header is a part of the source. -/
theorem part_within {k : Text} (hk : s.keyword.value.toList = k) {f : Text → Text}
    (hpart : ∀ t, f t <:+: t) (hbare : f k = []) (hblock : ∀ name, f (k ++ ' ' :: name) <:+: name) :
    f (statementText s) <:+: source := by
  subst hk
  cases h with
  | raw _ within | transcode _ _ within | synthesize _ _ within => exact (hpart _).trans within
  | @block _ keyword name _ _ _ _ within =>
    cases name with
    | none =>
      have hnone : f keyword.value.toList = [] := hbare
      rw [statementText, hnone]
      exact nil_infix
    | some header => exact (hblock header.value).trans (within header rfl).2

theorem whenCondition_within (hk : s.keyword.value = "when") :
    whenCondition (statementText s) <:+: source := by
  refine h.part_within (k := "when".toList) (by rw [hk])
    (fun t => (trim_isInfix _).trans (trimStartMatches_suffix _ _).isInfix) (by decide) fun name =>
      ?_
  exact trim_isInfix name

theorem skipCondition_within (hk : s.keyword.value = "skip") :
    skipCondition (statementText s) <:+: source := by
  refine h.part_within (k := "skip".toList) (by rw [hk])
    (fun t => (trim_isInfix _).trans ((trimStartMatches_suffix _ _).isInfix.trans
      ((trim_isInfix _).trans (trimStartMatches_suffix _ _).isInfix))) (by decide) fun name => ?_
  exact (trim_isInfix _).trans ((trimStartMatches_suffix _ _).isInfix.trans (trim_isInfix name))

theorem loweredSkipCondition_within (hk : s.keyword.value = "skip") :
    loweredSkipCondition (statementText s) <:+: source := by
  refine h.part_within (k := "skip".toList) (by rw [hk])
    (fun t => (trim_isInfix _).trans ((stripPrefix_getD_isInfix _ _).trans
      ((trim_isInfix _).trans (stripPrefix_getD_isInfix _ _)))) (by decide) fun name => ?_
  exact (trim_isInfix _).trans ((stripPrefix_getD_isInfix _ _).trans (trim_isInfix name))

end

theorem ruleCondition_within {keyword : Spanned String} {header : Spanned Text}
    {span : SourceSpan} {name condition : Text}
    (h : Produced source n (.block keyword (some header) statements span))
    (hparts : ruleHeader header.value = some (name, condition)) : condition <:+: source := by
  cases h with
  | block _ _ within => exact (ruleHeader_isInfix hparts).trans (within header rfl).2

end Produced

/-! ## Keywords of operations -/

/-- The keyword of the statements an operation is lowered from. -/
def operationKeyword : CompiledOperation → OperationKeyword
  | .setContainer _ => .container
  | .keepTracks _ _ => .keep
  | .removeTracks _ _ => .remove
  | .reorderTracks _ _ => .order
  | .setDefaults _ _ _ => .defaults
  | .clearTrackActions _ => .actions
  | .clearTags => .clearTags
  | .setTag _ _ => .setTag
  | .deleteTag _ => .deleteTag
  | .transcodeVideo _ _ _ | .transcodeAudio _ _ _ => .transcode
  | .extractAudio _ _ _ => .extract
  | .synthesizeAudio _ _ _ _ => .synthesize
  | .ensureAudioCompatibility => .ensure
  | .placeAudioCompatibility => .place
  | .verifyArtifact => .verify
  | .conditional _ _ => .«when»
  | .rules _ _ => .rules

variable {span : SourceSpan} {op : CompiledOperation}

theorem lowerTextOperation_keyword {text : Text}
    {operations : Except LowerFailure (List CompiledOperation)}
    {rules : Except LowerFailure
      (List (String × Option CompiledCondition × List CompiledOperation))}
    (h : lowerTextOperation span text operations rules = .ok op) :
    (words text).head?.bind OperationKeyword.ofText = some (operationKeyword op) := by
  unfold lowerTextOperation at h
  dsimp only at h
  split at h
  all_goals
    rename_i hk
    rw [hk]
  case h_4 =>
    simp only [lowerOrder, bind_ok, return_ok] at h
    obtain ⟨_, -, _, -, rfl⟩ := h
    rfl
  case h_5 =>
    simp only [lowerDefaults, bind_ok, return_ok] at h
    obtain ⟨_, -, rfl⟩ := h
    rfl
  case h_10 =>
    unfold lowerTranscode at h
    split at h
    · simp only [bind_ok, return_ok] at h
      obtain ⟨_, -, rfl⟩ := h
      rfl
    · simp only [return_ok] at h
      subst h
      rfl
  all_goals
    first
    | (cases h; done)
    | (simp only [return_ok] at h; subst h; rfl)
    | (simp only [lowerFixed, bind_ok, return_ok] at h; obtain ⟨_, -, rfl⟩ := h; rfl)
    | (simp only [bind_ok, return_ok] at h; obtain ⟨_, -, _, -, rfl⟩ := h; rfl)

variable {source : Text} {statement : StatementAst}

/-- A statement is lowered to an operation of its keyword. -/
theorem lowerOperation_keyword {n : Nat} (hprod : Produced source n statement)
    (h : lowerOperation statement = .ok op) :
    statement.keyword.value = (operationKeyword op).text := by
  cases hprod with
  | raw headed => exact headed.keyword_eq (lowerTextOperation_keyword h)
  | block ident =>
    have hk := lowerTextOperation_keyword h
    rw [words_block _ ident] at hk
    exact (OperationKeyword.ofText_text hk).symm
  | transcode keyword_eq => cases h; exact keyword_eq
  | synthesize keyword_eq =>
    rw [lowerOperation] at h
    simp only [lowerSynthesize, bind_ok, return_ok] at h
    obtain ⟨_, -, _, -, rfl⟩ := h
    exact keyword_eq

theorem operationKeyword_eq {n : Nat} (hprod : Produced source n statement)
    (h : lowerOperation statement = .ok op) (hk : statement.keyword.value = k.text) :
    operationKeyword op = k := by
  rw [lowerOperation_keyword hprod h] at hk
  have htext := congrArg OperationKeyword.ofText hk
  rw [OperationKeyword.ofText_of_text, OperationKeyword.ofText_of_text] at htext
  exact some.inj htext

/-! ## Nested operations -/

/-- The operation stands in another one, at some depth. -/
inductive Within (op : CompiledOperation) : CompiledOperation → Prop where
  | self : Within op op
  | conditional {condition : CompiledCondition} {operations : List CompiledOperation}
      {inner : CompiledOperation} (hinner : inner ∈ operations) (h : Within op inner) :
      Within op (.conditional condition operations)
  | rules {mode : RuleMatchMode}
      {rules : List (String × Option CompiledCondition × List CompiledOperation)}
      {rule : String × Option CompiledCondition × List CompiledOperation}
      {inner : CompiledOperation} (hrule : rule ∈ rules) (hinner : inner ∈ rule.2.2)
      (h : Within op inner) : Within op (.rules mode rules)

/-- The statement has passed its checks, at the top of a phase or in a nested body. -/
def Accepted (statement : StatementAst) : Prop :=
  ∃ effects, hasErrors (validateNestedOperation statement effects).1 = false ∨
    hasErrors (validateOperation statement effects).1 = false

/-- An operation that was lowered from a statement of the source which passed its checks. -/
structure Origin (source : Text) (op : CompiledOperation) : Prop where
  lowered : ∃ n statement, Produced source n statement ∧ Accepted statement ∧
    lowerOperation statement = .ok op

theorem lowerOperations_eq (statements : List StatementAst) :
    lowerOperations statements = statements.mapM lowerOperation := by
  induction statements with
  | nil => rfl
  | cons _ _ ih =>
    rw [lowerOperations, mapM_cons, ih]

theorem lowerRules_eq (rules : List StatementAst) : lowerRules rules = rules.mapM lowerRule := by
  induction rules with
  | nil => rfl
  | cons _ _ ih => rw [lowerRules, mapM_cons, ih]

section Checks
variable {effects : TagEffects}

theorem validateNestedOperations_mem
    (h : hasErrors (validateNestedOperations statements effects).1 = false) :
    ∀ s ∈ statements, Accepted s := by
  induction statements generalizing effects with
  | nil => exact nofun
  | cons _ _ ih =>
    simp only [validateNestedOperations, clean_append] at h
    exact forall_mem_cons.mpr ⟨⟨effects, .inl h.1⟩, ih h.2⟩

/-- A rule that passes its checks has a header and an accepted body. -/
theorem validateRule_ok {rule : StatementAst}
    (h : hasErrors (validateRule rule effects).1 = false) :
    ∃ keyword header statements span name condition,
      rule = .block keyword (some header) statements span ∧
      ruleHeader header.value = some (name, condition) ∧
      hasErrors (validateConditionExpression span condition) = false ∧
      ∀ s ∈ statements, Accepted s := by
  unfold validateRule at h
  split at h
  · cases h
  split at h
  case h_1 =>
    split at h
    · cases h
    case h_2 name condition hhead =>
      simp only [clean_append] at h
      exact ⟨_, _, _, _, name, condition, rfl, hhead, h.1, validateNestedOperations_mem h.2⟩
  · cases h

theorem validateRuleList_mem {rules : List StatementAst}
    (h : hasErrors (validateRuleList rules effects).1 = false) :
    ∀ rule ∈ rules, ∃ effects', hasErrors (validateRule rule effects').1 = false := by
  induction rules generalizing effects with
  | nil => exact nofun
  | cons _ _ ih =>
    simp only [validateRuleList, clean_append] at h
    exact forall_mem_cons.mpr ⟨⟨effects, h.1⟩, ih h.2⟩

theorem validateOperations_mem {operations : List StatementAst}
    (h : hasErrors (validateOperations operations effects).1 = false) :
    ∀ s ∈ operations, Accepted s := by
  induction operations generalizing effects with
  | nil => exact nofun
  | cons _ _ ih =>
    simp only [validateOperations, clean_append] at h
    exact forall_mem_cons.mpr ⟨⟨effects, .inr h.1.2⟩, ih h.2⟩

end Checks

theorem validateLeafOr_ok {message : String} {effects : TagEffects}
    (h : hasErrors (validateLeafOr message statement effects).1 = false) :
    ∃ checked, validateLeaf statement effects = some checked ∧ hasErrors checked.1 = false := by
  unfold validateLeafOr at h
  rcases hleaf : validateLeaf statement effects with _ | checked
  · rw [hleaf] at h
    cases h
  · rw [hleaf] at h
    exact ⟨checked, rfl, h⟩

theorem validateNestedOperation_leaf {effects : TagEffects} (h : statement.keyword.value ≠ "when") :
    validateNestedOperation statement effects =
      validateLeafOr "unknown nested operation" statement effects := by
  cases statement with
  | block _ =>
    exact if_neg h
  | raw | transcodeInline | synthesizeInline =>
    rw [validateNestedOperation, if_neg h]
    intro _ _ _ _ heq
    cases heq

/-- An accepted statement with a keyword of its own checks has passed those. -/
theorem Accepted.leaf (h : Accepted statement)
    (hk : OperationKeyword.ofText statement.keyword.value = some k) (hwhen : k ≠ .«when»)
    (hrules : k ≠ .rules) : ∃ effects checked, validateLeaf statement effects = some checked ∧
      hasErrors checked.1 = false := by
  obtain ⟨effects, hnest | htop⟩ := h
  · have hkw : statement.keyword.value ≠ "when" := by
      intro hkw
      rw [hkw] at hk
      exact hwhen (some_unique hk (by decide))
    exact ⟨effects, validateLeafOr_ok (validateNestedOperation_leaf hkw ▸ hnest)⟩
  · refine ⟨effects, ?_⟩
    unfold validateOperation at htop
    rw [hk] at htop
    cases k
    case «when» => exact absurd rfl hwhen
    case rules => exact absurd rfl hrules
    case «extend» => cases htop
    all_goals exact validateLeafOr_ok htop

/-- The statements of a block. -/
def StatementAst.body : StatementAst → List StatementAst
  | .block _ _ statements _ => statements
  | _ => []

theorem Produced.body {n : Nat} (h : Produced source n statement) :
    ∀ s ∈ statement.body, ∃ m < n, Produced source m s := by
  cases h with
  | block _ _ _ inner => exact fun s hs => ⟨_, Nat.lt_succ_self _, inner s hs⟩
  | _ => exact nofun

/-- The body of an accepted `when` block is accepted. -/
theorem Accepted.when_body (hkw : statement.keyword.value = "when") (h : Accepted statement) :
    ∀ s ∈ statement.body, Accepted s := by
  cases statement with
  | block keyword name statements span =>
    obtain ⟨effects, h⟩ := h
    have hnest : hasErrors
        (validateNestedOperation (.block keyword name statements span) effects).1 = false := by
      rcases h with hnest | htop
      · exact hnest
      · unfold validateOperation at htop
        rwa [hkw, show OperationKeyword.ofText "when" = some .«when» by decide] at htop
    rw [validateNestedOperation, if_pos (show keyword.value = _ from hkw)] at hnest
    simp only [clean_append] at hnest
    exact validateNestedOperations_mem hnest.2
  | _ => exact nofun

/-- The rules of an accepted `rules` block are accepted; such a block is never nested. -/
theorem Accepted.rules_body (hkw : statement.keyword.value = "rules") (h : Accepted statement) :
    ∀ rule ∈ statement.body, ∃ effects, hasErrors (validateRule rule effects).1 = false := by
  have hk : OperationKeyword.ofText statement.keyword.value = some .rules := by
    rw [hkw]
    decide
  obtain ⟨_, hnest | htop⟩ := h
  · rw [validateNestedOperation_leaf (by rw [hkw]; decide)] at hnest
    obtain ⟨_, hleaf, -⟩ := validateLeafOr_ok hnest
    simp only [validateLeaf, hk] at hleaf
    cases hleaf
  · cases statement with
    | block _ =>
      unfold validateOperation at htop
      rw [hk] at htop
      simp only [validateRules, clean_append] at htop
      exact validateRuleList_mem htop.2
    | _ =>
      intro _ hmem
      cases hmem

section Lowered
variable {source : Text} {n : Nat} {statement : StatementAst}

section
variable (hprod : Produced source n statement)
include hprod

/-- An operation that is not inline is lowered from the header of its statement, and from the
statements of a block. -/
theorem lowerOperation_text (h : lowerOperation statement = .ok op)
    (htranscode : operationKeyword op ≠ .transcode) (hsyn : operationKeyword op ≠ .synthesize) :
    lowerTextOperation statement.span (statementText statement)
      (statement.body.mapM lowerOperation) (statement.body.mapM lowerRule) = .ok op := by
  cases hprod with
  | raw => exact h
  | block => rwa [lowerOperation, lowerOperations_eq, lowerRules_eq] at h
  | transcode => cases h; exact absurd rfl htranscode
  | synthesize =>
    simp only [lowerOperation, lowerSynthesize, bind_ok, return_ok] at h
    obtain ⟨_, -, _, -, rfl⟩ := h
    exact absurd rfl hsyn

/-- Where the operations of a condition come from. -/
theorem lowerOperation_conditional
    (h : lowerOperation statement = .ok (.conditional condition operations)) :
    statement.keyword.value = "when" ∧
    lowerCondition (whenCondition (statementText statement)) = .ok condition ∧
    statement.body.mapM lowerOperation = .ok operations := by
  have htext := lowerOperation_text hprod h nofun nofun
  rw [lowerTextOperation, lowerTextOperation_keyword htext] at htext
  simp only [operationKeyword, bind_ok] at htext
  obtain ⟨_, hcond, _, hops, heq⟩ := htext
  cases heq
  exact ⟨lowerOperation_keyword hprod h, hcond, hops⟩

/-- Where the rules of an operation come from. -/
theorem lowerOperation_rules {mode : RuleMatchMode}
    (h : lowerOperation statement = .ok (.rules mode rules)) :
    statement.keyword.value = "rules" ∧ statement.body.mapM lowerRule = .ok rules := by
  have htext := lowerOperation_text hprod h nofun nofun
  rw [lowerTextOperation, lowerTextOperation_keyword htext] at htext
  simp only [operationKeyword, bind_ok] at htext
  obtain ⟨_, hrules, heq⟩ := htext
  cases heq
  exact ⟨lowerOperation_keyword hprod h, hrules⟩

end

/-- The parts of a lowered rule. -/
theorem lowerRule_ok {rule : StatementAst} (h : lowerRule rule = .ok lowered) :
    ∃ keyword header statements span name text condition,
      rule = .block keyword (some header) statements span ∧
      ruleHeader header.value = some (name, text) ∧ lowerCondition text = .ok condition ∧
      lowered.2.1 = some condition ∧ statements.mapM lowerOperation = .ok lowered.2.2 := by
  unfold lowerRule at h
  split at h
  case h_1 =>
    simp only [bind_ok, find_ok, return_ok] at h
    obtain ⟨⟨_, _⟩, hhead, _, hcond, _, hops, rfl⟩ := h
    exact ⟨_, _, _, _, _, _, _, rfl, hhead, hcond, rfl, lowerOperations_eq _ ▸ hops⟩
  · cases h

end Lowered

/-- Every operation that stands in a lowered one has an origin. -/
theorem origin_of_within {x : CompiledOperation} (hwithin : Within x op) (h : Origin source op) :
    Origin source x := by
  induction hwithin with
  | self => exact h
  | conditional hin _ ih =>
    obtain ⟨n, _, hprod, hacc, hlow⟩ := h
    obtain ⟨hkw, -, hops⟩ := lowerOperation_conditional hprod hlow
    obtain ⟨s, hs, hlower⟩ := (mapM_ok_mem hops).2 _ hin
    obtain ⟨m, -, hin⟩ := hprod.body s hs
    exact ih ⟨m, s, hin, hacc.when_body hkw s hs, hlower⟩
  | rules hrule hin _ ih =>
    obtain ⟨n, _, hprod, hacc, hlow⟩ := h
    obtain ⟨hkw, hrules⟩ := lowerOperation_rules hprod hlow
    obtain ⟨r, hr, hlower⟩ := (mapM_ok_mem hrules).2 _ hrule
    obtain ⟨_, hval⟩ := hacc.rules_body hkw r hr
    obtain ⟨_, _, body, _, _, _, rfl, -, -, hbody⟩ := validateRule_ok hval
    obtain ⟨_, _, _, _, _, _, _, heq, -, -, -, hops⟩ := lowerRule_ok hlower
    cases heq
    obtain ⟨s, hs, hlowers⟩ := (mapM_ok_mem hops).2 _ hin
    obtain ⟨_, -, hblock⟩ := hprod.body _ hr
    obtain ⟨m, -, hstmt⟩ := hblock.body s hs
    exact ih ⟨m, s, hstmt, hbody s hs, hlowers⟩

/-! ## What the checks leave of an operation -/

/-- The condition is lowered from a part of the source. -/
def ReadFrom (source : Text) (condition : CompiledCondition) : Prop :=
  ∃ text, text <:+: source ∧ lowerCondition text = .ok condition

theorem Origin.when_readFrom (h : Origin source (.conditional condition operations)) :
    ReadFrom source condition := by
  obtain ⟨n, _, hprod, -, hlow⟩ := h
  obtain ⟨hkw, hcond, -⟩ := lowerOperation_conditional hprod hlow
  exact ⟨_, hprod.whenCondition_within hkw, hcond⟩

theorem Origin.rule_readFrom {mode : RuleMatchMode} (h : Origin source (.rules mode rules))
    (hrule : rule ∈ rules) (hcond : rule.2.1 = some condition) : ReadFrom source condition := by
  obtain ⟨n, _, hprod, -, hlow⟩ := h
  obtain ⟨-, hrules⟩ := lowerOperation_rules hprod hlow
  obtain ⟨r, hr, hlower⟩ := (mapM_ok_mem hrules).2 rule hrule
  obtain ⟨_, _, _, _, _, text, condition', rfl, hhead, hlow', hsome, -⟩ := lowerRule_ok hlower
  obtain rfl : condition' = condition := some_unique hsome hcond
  obtain ⟨_, -, hblock⟩ := hprod.body _ hr
  exact ⟨text, hblock.ruleCondition_within hhead, hlow'⟩

/-- The text an operation that is neither inline nor a block of others was lowered from. -/
theorem Origin.text (h : Origin source op) (hk : operationKeyword op = k) (hwhen : k ≠ .«when»)
    (hrules : k ≠ .rules) (htranscode : k ≠ .transcode) (hsyn : k ≠ .synthesize) :
    ∃ statement effects checked operations rules,
      OperationKeyword.ofText statement.keyword.value = some k ∧
      validateLeaf statement effects = some checked ∧ hasErrors checked.1 = false ∧
      lowerTextOperation statement.span (statementText statement) operations rules = .ok op := by
  subst hk
  obtain ⟨n, statement, hprod, hacc, hlow⟩ := h
  have hkw : OperationKeyword.ofText statement.keyword.value = some (operationKeyword op) := by
    rw [lowerOperation_keyword hprod hlow, OperationKeyword.ofText_of_text]
  obtain ⟨effects, checked, hchk, hval⟩ := hacc.leaf hkw hwhen hrules
  exact ⟨statement, effects, checked, _, _, hkw, hchk, hval,
    lowerOperation_text hprod hlow htranscode hsyn⟩

/-- Only the one container a remux can write is compiled. -/
theorem Origin.container {container : String} (h : Origin source (.setContainer container)) :
    container = "mkv" := by
  obtain ⟨_, _, _, _, _, hk, hchk, hval, hlow⟩ :=
    h.text (k := .container) rfl nofun nofun nofun nofun
  have hword := lowerTextOperation_keyword hlow
  simp only [lowerTextOperation, hword, operationKeyword, return_ok,
    CompiledOperation.setContainer.injEq] at hlow
  simp only [validateLeaf, hk, some.injEq] at hchk
  subst hchk
  simp only [validateContainer, clean_append, hasErrors_reportIf, decide_eq_false_iff_not,
    Decidable.not_not] at hval
  rw [← hlow, getD_eq_getElem?_getD, hval.1, getD_some]

/-- Defaults that name their stream with a filter have no strategy of their own. -/
theorem Origin.filtered_defaults {target : TrackTarget} {strategy : DefaultStrategy}
    {filter : TrackFilter} (h : Origin source (.setDefaults target strategy (some filter))) :
    strategy = .preserve := by
  obtain ⟨_, _, _, _, _, -, -, -, hlow⟩ :=
    h.text (k := .defaults) rfl nofun nofun nofun nofun
  have hword := lowerTextOperation_keyword hlow
  simp only [lowerTextOperation, hword, operationKeyword, lowerDefaults, bind_ok,
    return_ok, CompiledOperation.setDefaults.injEq] at hlow
  obtain ⟨_, -, -, hstrat, rfl⟩ := hlow
  exact hstrat.symm

/-! ## Operations of a compiled policy -/

theorem lowerPhase_operations {order : List String} {phase : PhaseAst}
    (h : lowerPhase order phase = .ok compiled) :
    phase.operations.mapM lowerOperation = .ok compiled.operations := by
  simp only [lowerPhase, bind_ok, return_ok] at h
  obtain ⟨_, -, _, -, _, hops, rfl⟩ := h
  exact lowerOperations_eq _ ▸ hops

/-- The phase of the source a compiled phase was lowered from. -/
theorem compileAst_lowered {ast : PolicyAst} {warnings : Diagnostics} {policy : CompiledPolicy}
    (h : compileAst ast warnings = .ok policy) (hcomp : compiled ∈ policy.phases) :
    ∃ phase ∈ ast.phases, ∃ lowered, lowerPhase (phaseOrder ast) phase = .ok lowered ∧
      compiled = { lowered with onError := compiled.onError } := by
  obtain ⟨_, hphases, heq, -⟩ := compileAst_ok h
  rw [heq] at hcomp
  obtain ⟨lowered, hlow, rfl⟩ := mem_map.mp hcomp
  obtain ⟨phase, hphase, hlower⟩ := (mapM_ok_mem hphases).2 lowered hlow
  exact ⟨phase, hphase, lowered, hlower, rfl⟩

theorem validatePolicyAst_phase {ast : PolicyAst}
    (h : hasErrors (validatePolicyAst source ast) = false) {phase : PhaseAst}
    (hphase : phase ∈ ast.phases) : hasErrors (validatePhase source phase) = false := by
  simp only [validatePolicyAst, clean_append, hasErrors_flatMap] at h
  exact eq_false_iff.mpr (any_eq_false.mp h.2 phase hphase)

/-- Every operation of a compiled policy has an origin. -/
theorem origin_of_compiled (h : compilePolicy source = .ok output)
    (hphase : phase ∈ output.policy.phases) {top x : CompiledOperation}
    (htop : top ∈ phase.operations) (hx : Within x top) : Origin source x := by
  obtain ⟨_, hparse, hval, _, hcomp⟩ := compilePolicy_ok h
  obtain ⟨declared, hdeclared, lowered, hlower, heq⟩ := compileAst_lowered hcomp hphase
  have hops : phase.operations = lowered.operations := by rw [heq]
  have hchk := validatePolicyAst_phase hval hdeclared
  simp only [validatePhase, clean_append] at hchk
  obtain ⟨s, hs, hlow⟩ := (mapM_ok_mem (lowerPhase_operations hlower)).2 top (hops ▸ htop)
  exact origin_of_within hx
    ⟨_, s, (parsePolicySource_parsed hparse).operations declared hdeclared s hs,
      validateOperations_mem hchk.1.2 s hs, hlow⟩

/-- The skip condition of a compiled phase is read from the source. -/
theorem skipIf_readFrom (h : compilePolicy source = .ok output)
    (hphase : phase ∈ output.policy.phases) (hcond : phase.skipIf = some condition) :
    ReadFrom source condition := by
  obtain ⟨_, hparse, -, _, hcomp⟩ := compilePolicy_ok h
  obtain ⟨declared, hdeclared, _, hlower, heq⟩ := compileAst_lowered hcomp hphase
  simp only [lowerPhase, bind_ok, return_ok] at hlower
  obtain ⟨_, -, skipIf, hskipIf, _, -, rfl⟩ := hlower
  rw [heq] at hcond
  obtain rfl : skipIf = some condition := hcond
  unfold phaseSkipIf at hskipIf
  split at hskipIf
  case h_1 => cases hskipIf
  case h_2 control hctl =>
  simp only [bind_ok, return_ok, some.injEq] at hskipIf
  obtain ⟨_, hlow, rfl⟩ := hskipIf
  have hskip : control.keyword.value = "skip" := by simpa using find?_some hctl
  have hfrom := (parsePolicySource_parsed hparse).controls declared hdeclared control
    (mem_of_find?_eq_some hctl)
  exact ⟨_, hfrom.loweredSkipCondition_within hskip, hlow⟩

end Voom
