import VoomProof.ConditionText
import VoomProof.LoweredOperations

/-!
# What lowering makes of a valid policy

Validation and lowering read the header of a statement separately, so a policy that passes every
check may still fail to compile. It does in four ways only, the first three visible in the
header of one statement:

* the first word of a statement goes on behind its keyword (`keep(x audio`), and lowering
  does not know the word;
* an `order` statement has the word `where` between other blanks than spaces, which is no
  filter for validation and a broken one for lowering;
* a condition is stuck (`Stuck`);
* a `run_if` is not spelled with one space between trigger and phase, or its phase does not
  come earlier.
-/

namespace Voom
open Fallible RustText List Option

/-! ## Filters -/

/-- A token without brackets, commas and colons is a word. -/
theorem mem_words_of_token {text token : Text} (h : token ∈ splitAsciiWhitespace text)
    (hfree : ∀ c ∈ token, isWordSeparator c = false) : String.ofList token ∈ words text := by
  obtain ⟨hmem, hne⟩ := mem_filter.mp h
  refine mem_map_of_mem (mem_filter.mpr ⟨mem_splitOnP_of_le ?_ hmem hfree, hne⟩)
  intro c hc
  simp [isWordSeparator, hc]

theorem includes_eq_false_iff {pat text : Text} :
    includes pat text = false ↔ splitOnce pat text = none := by
  rw [includes, isSome_eq_false_iff, isNone_iff_eq_none]

/-- The word `where` with no filter behind it. -/
def DanglingWhere (text : Text) : Prop :=
  "where".toList ∈ splitAsciiWhitespace text ∧ includes " where ".toList text = false

theorem not_danglingWhere {text : Text} (h : "where" ∉ words text) : ¬ DanglingWhere text := by
  have hfree : "where".toList.all (!isWordSeparator ·) = true := by decide
  exact fun hdang => h (mem_words_of_token hdang.1 fun c hc => by
    simpa using all_eq_true.mp hfree c hc)

variable {span : SourceSpan}

theorem parseTrackFilter_of_valid {text : Text} (h : hasErrors (validateFilter span text) = false) :
    ∃ filter, parseTrackFilter text = some filter := by
  unfold validateFilter at h
  split at h
  · cases h
  case h_2 filter hfilt => exact ⟨filter, hfilt⟩

theorem parseTrackFilter_trim (text : Text) :
    parseTrackFilter (trim text) = parseTrackFilter text := by
  rw [parseTrackFilter, parseTrackFilter, trim_trim]

/-- Lowering finds the filter that validation has found, or none. -/
theorem lowerOptionalFilter_isOk_iff {text : Text}
    (h : hasErrors (validateWhereFilter span text) = false) :
    (∃ filter, lowerOptionalFilter span text = .ok filter) ↔ ¬ DanglingWhere text := by
  simp only [lowerOptionalFilter]
  unfold validateWhereFilter at h
  unfold parseOptionalFilter
  unfold DanglingWhere includes
  cases hclause : splitOnce " where ".toList text with
  | none =>
    dsimp only
    split
    case isTrue hwhere =>
      refine ⟨?_, fun hfree => absurd ⟨hwhere, rfl⟩ hfree⟩
      rintro ⟨_, h⟩
      cases h
    case isFalse hwhere => exact ⟨fun _ hdang => hwhere hdang.1, fun _ => ⟨none, rfl⟩⟩
  | some =>
    rw [hclause] at h
    obtain ⟨_, hfilt⟩ := parseTrackFilter_of_valid h
    rw [parseTrackFilter_trim] at hfilt
    simp [hfilt]

variable {index n : Nat} {targets : List TrackTarget} {filter : Option TrackFilter}
  {l order : List String}

/-- The filter behind the first words of a header. -/
theorem validateOptionalTrackFilter_ok {text : Text} (hwords : "where" ∉ (words text).take index)
    (h : hasErrors (validateOptionalTrackFilter span text index) = false) :
    ∃ filter, lowerOptionalFilter span text = .ok filter := by
  unfold validateOptionalTrackFilter at h
  dsimp only at h
  split at h
  case isTrue hclause =>
    have hnone : includes " where ".toList text = false := by simpa using hclause
    simp only [hasErrors_reportIf, decide_eq_false_iff_not, Nat.not_lt] at h
    rw [take_of_length_le h] at hwords
    refine (lowerOptionalFilter_isOk_iff ?_).mpr (not_danglingWhere hwords)
    unfold validateWhereFilter
    rw [includes_eq_false_iff.mp hnone]
    rfl
  case isFalse hclause =>
  split at h
  · cases h
  · exact (lowerOptionalFilter_isOk_iff h).mpr fun hdang =>
      hclause (by simpa using hdang.2)

/-! ## Statements that are not lowered -/

/-- A statement that passes its checks and is not lowered. -/
inductive Unlowerable : StatementAst → Prop where
  | word {keyword : Spanned String} {text : Text} {span : SourceSpan}
      (first : (words text).head? ≠ some keyword.value) : Unlowerable (.raw keyword text span)
  | filter {s : StatementAst} (order : s.keyword.value = "order")
      (dangling : DanglingWhere (statementText s)) : Unlowerable s
  | condition {s : StatementAst} (keyword : s.keyword.value = "when")
      (stuck : Stuck (whenCondition (statementText s))) : Unlowerable s
  | body {keyword : Spanned String} {name : Option (Spanned Text)}
      {statements : List StatementAst} {span : SourceSpan} {s : StatementAst}
      (keyword_eq : keyword.value = "when") (mem : s ∈ statements) (inner : Unlowerable s) :
      Unlowerable (.block keyword name statements span)
  | ruleCondition {keyword keyword' : Spanned String} {name : Option (Spanned Text)}
      {header : Spanned Text} {rules statements : List StatementAst} {span span' : SourceSpan}
      {title condition : Text} (keyword_eq : keyword.value = "rules")
      (mem : .block keyword' (some header) statements span' ∈ rules)
      (parts : ruleHeader header.value = some (title, condition)) (stuck : Stuck condition) :
      Unlowerable (.block keyword name rules span)
  | ruleBody {keyword keyword' : Spanned String} {name name' : Option (Spanned Text)}
      {rules statements : List StatementAst} {span span' : SourceSpan} {s : StatementAst}
      (keyword_eq : keyword.value = "rules")
      (rule : .block keyword' name' statements span' ∈ rules) (mem : s ∈ statements)
      (inner : Unlowerable s) : Unlowerable (.block keyword name rules span)

theorem lowerCondition_isOk_iff {text : Text} :
    (∃ condition, lowerCondition text = .ok condition) ↔ ¬ Stuck text := by
  simp only [lowerCondition, find_ok, ← isSome_iff_exists, conditionFromText_isSome_iff]

variable {operations : Except LowerFailure (List CompiledOperation)}
  {rules : Except LowerFailure (List (String × Option CompiledCondition × List CompiledOperation))}

theorem lowerTextOperation_order {text : Text}
    (h : lowerTextOperation span text operations rules = .ok (.reorderTracks targets filter)) :
    lowerOptionalFilter span text = .ok filter := by
  have hword := lowerTextOperation_keyword h
  rw [lowerTextOperation, hword] at h
  simp only [operationKeyword, lowerOrder, bind_ok] at h
  obtain ⟨_, -, _, hfound, heq⟩ := h
  cases heq
  exact hfound

variable {source : Text} {s : StatementAst}

theorem lowerOperation_order (hprod : Produced source n s)
    (h : lowerOperation s = .ok (.reorderTracks targets filter)) :
    lowerOptionalFilter s.span (statementText s) = .ok filter := by
  exact lowerTextOperation_order (lowerOperation_text hprod h nofun nofun)

/-- The rules of a block that is lowered are lowered. -/
theorem lowerRule_of_rules {op : CompiledOperation} (hprod : Produced source n s)
    (h : s.keyword.value = "rules") (hlow : lowerOperation s = .ok op) :
    ∀ rule ∈ s.body, ∃ lowered, lowerRule rule = .ok lowered := by
  have hk := operationKeyword_eq hprod hlow (k := .rules) h
  cases op with
  | rules =>
    intro rule hrule
    obtain ⟨-, hrules⟩ := lowerOperation_rules hprod hlow
    obtain ⟨lowered, -, hlower⟩ := (mapM_ok_mem hrules).1 rule hrule
    exact ⟨lowered, hlower⟩
  | _ => cases hk

/-- A statement that is lowered has none of the faults. -/
theorem Unlowerable.fails (h : Unlowerable s) (hprod : Produced source n s) :
    ∀ op, lowerOperation s ≠ .ok op := by
  induction h generalizing n with intro op hlow
  | word hfirst =>
    cases hprod with
    | raw headed =>
      have hword := lowerTextOperation_keyword hlow
      obtain ⟨_, hhead, hk⟩ := bind_eq_some_iff.mp hword
      rw [hhead, headed.keyword_eq hword, OperationKeyword.ofText_text hk] at hfirst
      exact hfirst rfl
  | filter hord hdang =>
    have hk := operationKeyword_eq hprod hlow (k := .order) hord
    cases op with
    | reorderTracks _ filter =>
      refine (lowerOptionalFilter_isOk_iff ?_).mp ⟨filter, lowerOperation_order hprod hlow⟩ hdang
      rw [validateWhereFilter, includes_eq_false_iff.mp hdang.2]
      rfl
    | _ => cases hk
  | condition hkw hstuck =>
    have hk := operationKeyword_eq hprod hlow (k := .«when») hkw
    cases op with
    | conditional condition =>
      obtain ⟨-, hcond, -⟩ := lowerOperation_conditional hprod hlow
      exact lowerCondition_isOk_iff.mp ⟨condition, hcond⟩ hstuck
    | _ => cases hk
  | body hkw hmem _ ih =>
    have hk := operationKeyword_eq hprod hlow (k := .«when») hkw
    cases op with
    | conditional =>
      obtain ⟨-, -, hops⟩ := lowerOperation_conditional hprod hlow
      obtain ⟨op', -, hop'⟩ := (mapM_ok_mem hops).1 _ hmem
      obtain ⟨_, -, hin⟩ := hprod.body _ hmem
      exact ih hin op' hop'
    | _ => cases hk
  | ruleCondition hkw hmem hparts hstuck =>
    obtain ⟨_, hrule⟩ := lowerRule_of_rules hprod hkw hlow _ hmem
    obtain ⟨_, _, _, _, _, _, condition, heq, hheader, hcond, -⟩ := lowerRule_ok hrule
    cases heq
    cases hparts.symm.trans hheader
    exact lowerCondition_isOk_iff.mp ⟨condition, hcond⟩ hstuck
  | ruleBody hkw hrule hmem _ ih =>
    obtain ⟨_, hlower⟩ := lowerRule_of_rules hprod hkw hlow _ hrule
    obtain ⟨_, _, _, _, _, _, _, heq, -, -, -, hops⟩ := lowerRule_ok hlower
    cases heq
    obtain ⟨op', -, hop'⟩ := (mapM_ok_mem hops).1 _ hmem
    obtain ⟨_, -, hblock⟩ := hprod.body _ hrule
    obtain ⟨_, -, hin⟩ := hblock.body _ hmem
    exact ih hin op' hop'

/-! ## Checks that are enough for lowering -/

section Leaves
variable {span : SourceSpan} {text : Text}

theorem ne_where_of_valid {target : String}
    (h : hasErrors (validateTrackTarget span target) = false) : target ≠ "where" := by
  have hname : ConditionCheck.isTrackTargetName target = true := by
    simpa [validateTrackTarget] using h
  rintro rfl
  revert hname
  decide

theorem not_mem_of_getD {word : String} (hlen : l.length ≤ n) (h : ∀ i < n, l.getD i "" ≠ word) :
    word ∉ l := by
  intro hmem
  obtain ⟨i, hi, rfl⟩ := mem_iff_getElem.mp hmem
  refine h i (hi.trans_le hlen) ?_
  rw [getD_eq_getElem?_getD, getElem?_eq_getElem hi, getD_some]

theorem filter_of_track (hword : (words text).getD 0 "" ≠ "where")
    (h : hasErrors (validateTrackOperation span text) = false) :
    ∃ filter, lowerOptionalFilter span text = .ok filter := by
  simp only [validateTrackOperation, clean_append] at h
  obtain ⟨⟨⟨htgt, -⟩, hlen⟩, hfilt⟩ := h
  refine (lowerOptionalFilter_isOk_iff hfilt).mpr fun hdang => ?_
  rw [if_neg (Bool.eq_false_iff.mp hdang.2)] at hlen
  simp only [hasErrors_reportIf, decide_eq_false_iff_not, Nat.not_lt] at hlen
  refine not_danglingWhere (not_mem_of_getD hlen fun i hi => ?_) hdang
  obtain rfl | rfl : i = 0 ∨ i = 1 := by omega
  · exact hword
  · exact ne_where_of_valid htgt

theorem filter_of_defaults (hword : (words text).getD 0 "" ≠ "where")
    (h : hasErrors (validateDefaults span text) = false) :
    ∃ filter, lowerOptionalFilter span text = .ok filter := by
  simp only [validateDefaults, clean_append] at h
  obtain ⟨htgt, hrest⟩ := h
  split at hrest
  case isTrue hclause =>
    refine (lowerOptionalFilter_isOk_iff hrest).mpr fun hdang => ?_
    rw [hdang.2] at hclause
    cases hclause
  case isFalse hclause =>
  simp only [clean_append, hasErrors_reportIf, decide_eq_false_iff_not, Nat.not_lt] at hrest
  obtain ⟨hstrat, hlen⟩ := hrest
  refine (lowerOptionalFilter_isOk_iff ?_).mpr
    (not_danglingWhere (not_mem_of_getD hlen fun i hi => ?_))
  · rw [validateWhereFilter, includes_eq_false_iff.mp (Bool.eq_false_iff.mpr hclause)]
    rfl
  · obtain rfl | rfl | rfl : i = 0 ∨ i = 1 ∨ i = 2 := by omega
    · exact hword
    · intro hwhere
      rw [hwhere] at htgt
      exact ne_where_of_valid htgt (by decide)
    · intro hwhere
      rw [hwhere] at hstrat
      revert hstrat
      decide

theorem filter_of_order (h : hasErrors (validateOrder span text) = false) :
    (words text)[1]? = some "tracks" ∧ hasErrors (validateWhereFilter span text) = false := by
  unfold validateOrder at h
  split at h
  · cases h
  case isFalse htracks =>
    simp only [clean_append] at h
    exact ⟨Decidable.not_not.mp htracks, h.2⟩

/-- An audio transcode has a filter that is lowered; any other transcode has none. -/
theorem lowerTranscode_of_valid (h : hasErrors (validateTranscodeHeader span text) = false) :
    ∃ op, lowerTranscode span text (words text) = .ok op := by
  unfold validateTranscodeHeader at h
  unfold lowerTranscode
  split at h
  case h_1 rest hwords =>
    rw [hwords]
    exact ⟨_, rfl⟩
  case h_2 hwords =>
    split at h
    case isTrue hcodec =>
      have hno : "where" ∉ (words text).take 4 := by
        rw [hwords]
        simp only [take, mem_cons, not_mem_nil, or_false, not_or]
        refine ⟨by decide, by decide, by decide, ?_⟩
        rintro rfl
        revert hcodec
        decide
      obtain ⟨_, hlow⟩ := validateOptionalTrackFilter_ok hno h
      rw [if_pos (by rw [hwords]; rfl), hlow]
      exact ⟨_, rfl⟩
    · cases h
  · cases h

theorem filter_of_extract (h : hasErrors (validateExtractStatement span text) = false) :
    (words text)[1]? = some "audio" ∧ ∃ filter, lowerOptionalFilter span text = .ok filter := by
  unfold validateExtractStatement at h
  split at h
  case h_1 rest hwords =>
    refine ⟨by rw [hwords]; rfl, validateOptionalTrackFilter_ok ?_ h⟩
    rw [hwords, show ("extract" :: "audio" :: rest).take 2 = ["extract", "audio"] from rfl]
    decide
  · cases h

end Leaves

/-- A statement with checks of its own that has passed them is lowered, from its first word. -/
theorem lowerTextOperation_of_leaf {k : OperationKeyword} {effects : TagEffects} {checked : Checked}
    (hk : OperationKeyword.ofText s.keyword.value = some k)
    (hword : (words (statementText s)).head? = some s.keyword.value)
    (hord : k = .order → ¬ DanglingWhere (statementText s)) (htranscode : k = .transcode →
      hasErrors (validateTranscodeHeader s.span (statementText s)) = false)
    (hsyn : k ≠ .synthesize) (hchk : validateLeaf s effects = some checked)
    (hval : hasErrors checked.1 = false) :
    ∃ op, lowerTextOperation s.span (statementText s) operations rules = .ok op := by
  have hfirst : (words (statementText s)).head?.bind OperationKeyword.ofText = some k := by
    rw [hword]
    exact hk
  have hno : (words (statementText s)).getD 0 "" ≠ "where" := by
    rw [getD_eq_getElem?_getD, ← head?_eq_getElem?, hword, ← OperationKeyword.ofText_text hk]
    cases k <;> decide
  simp only [validateLeaf, hk] at hchk
  rw [lowerTextOperation, hfirst]
  cases k
  case keep | remove =>
    obtain rfl := some.inj hchk
    obtain ⟨_, hlow⟩ := filter_of_track hno hval
    simp only [hlow]
    exact ⟨_, rfl⟩
  case order =>
    obtain rfl := some.inj hchk
    obtain ⟨htracks, hfilt⟩ := filter_of_order hval
    obtain ⟨_, hlow⟩ := (lowerOptionalFilter_isOk_iff hfilt).mpr (hord rfl)
    simp only [lowerOrder, hlow]
    rw [bind_of_require htracks]
    exact ⟨_, rfl⟩
  case defaults =>
    obtain rfl := some.inj hchk
    obtain ⟨_, hlow⟩ := filter_of_defaults hno hval
    simp only [lowerDefaults, hlow]
    exact ⟨_, rfl⟩
  case actions =>
    obtain rfl := some.inj hchk
    simp only [validateActions, clean_append, hasErrors_reportIf, decide_eq_false_iff_not,
      Decidable.not_not] at hval
    dsimp only [lowerFixed]
    rw [bind_of_require hval.1.2]
    exact ⟨_, rfl⟩
  case transcode => exact lowerTranscode_of_valid (htranscode rfl)
  case extract =>
    obtain rfl := some.inj hchk
    obtain ⟨haudio, _, hlow⟩ := filter_of_extract hval
    simp only [hlow]
    rw [bind_of_require haudio]
    exact ⟨_, rfl⟩
  case verify =>
    obtain rfl := some.inj hchk
    unfold validateVerifyStatement at hval
    dsimp only at hval
    split at hval
    · cases hval
    case isFalse hartifact =>
    dsimp only [lowerFixed]
    rw [bind_of_require (Decidable.not_not.mp hartifact)]
    exact ⟨_, rfl⟩
  case ensure | place =>
    obtain rfl := some.inj hchk
    simp only [validateAudioCompatibilityStatement, hasErrors_reportIf, Bool.or_eq_false_iff,
      decide_eq_false_iff_not, Decidable.not_not] at hval
    have hkw := OperationKeyword.ofText_text hk
    dsimp only [lowerFixed]
    rcases mem_pair.mp hval.1 with hwords | hwords
    all_goals
      rw [hwords, ← hkw] at hword
      first
      | (rw [bind_of_require hwords]; exact ⟨_, rfl⟩)
      | exact absurd hword (by decide)
  case synthesize => exact absurd rfl hsyn
  case «when» | rules | «extend» => cases hchk
  all_goals exact ⟨_, rfl⟩

/-! ## Statements that are lowered -/

theorem Accepted.keyword (h : Accepted s) :
    ∃ k, OperationKeyword.ofText s.keyword.value = some k := by
  rcases hof : OperationKeyword.ofText s.keyword.value with _ | k
  · have hleaf : ∀ message effects, hasErrors (validateLeafOr message s effects).1 = true := by
      intro _ _
      rw [validateLeafOr, validateLeaf, hof]
      rfl
    have hwhen : s.keyword.value ≠ "when" := by
      intro hwhen
      rw [hwhen] at hof
      exact absurd hof (by decide)
    obtain ⟨_, hnest | htop⟩ := h
    · rw [validateNestedOperation_leaf hwhen, hleaf] at hnest
      cases hnest
    · rw [validateOperation, hof, hleaf] at htop
      cases htop
  · exact ⟨k, rfl⟩

/-- The filter of an accepted `synthesize` is read again. -/
theorem lowerSynthesize_of_valid {header : Text} {settings : List SettingAst}
    (h : hasErrors (validateSynthesizeHeader span header) = false) :
    ∃ op, lowerSynthesize span header settings = .ok op := by
  unfold validateSynthesizeHeader at h
  split at h
  · split at h
    · cases h
    case h_2 hsplit =>
    split at h
    · cases h
    obtain ⟨_, hfilt⟩ := parseTrackFilter_of_valid h
    rw [parseTrackFilter_trim] at hfilt
    unfold lowerSynthesize
    rw [bind_of_find hsplit]
    dsimp only
    rw [bind_of_find hfilt]
    exact ⟨_, rfl⟩
  · cases h

theorem lowerRule_of_body {keyword : Spanned String} {header : Spanned Text}
    {statements : List StatementAst} {title condition : Text}
    (hhead : ruleHeader header.value = some (title, condition)) (hfree : ¬ Stuck condition)
    (hbody : ∀ s ∈ statements, ∃ op, lowerOperation s = .ok op) :
    ∃ rule, lowerRule (.block keyword (some header) statements span) = .ok rule := by
  obtain ⟨_, hcond⟩ := lowerCondition_isOk_iff.mpr hfree
  obtain ⟨_, hops⟩ := exists_mapM hbody
  rw [lowerRule, bind_of_find hhead]
  dsimp only
  rw [bind_of_ok hcond, lowerOperations_eq, bind_of_ok hops]
  exact ⟨_, rfl⟩

/-- A statement that has passed its checks and has none of the faults is lowered. -/
theorem lowerOperation_of_accepted (hprod : Produced source n s) (hacc : Accepted s)
    (h : ¬ Unlowerable s) : ∃ op, lowerOperation s = .ok op := by
  induction n using Nat.strongRecOn generalizing s with | ind n ih => ?_
  obtain ⟨k, hk⟩ := hacc.keyword
  have hkw := OperationKeyword.ofText_text hk
  have hfirst {text : Text} (hword : (words text).head? = some s.keyword.value) :
      (words text).head?.bind OperationKeyword.ofText = some k := by
    rw [hword]
    exact hk
  cases hprod with
  | @raw _ keyword text span =>
    have hword : (words text).head? = some keyword.value := by
      by_contra hword
      exact h (.word hword)
    by_cases hwhen : k = .«when»
    · subst hwhen
      obtain ⟨condition, hcond⟩ := lowerCondition_isOk_iff.mpr fun hstuck =>
        h (.condition hkw.symm hstuck)
      rw [statementText] at hcond
      rw [lowerOperation, lowerTextOperation, hfirst hword]
      simp only [hcond]
      exact ⟨_, rfl⟩
    by_cases hrules : k = .rules
    · subst hrules
      rw [lowerOperation, lowerTextOperation, hfirst hword]
      exact ⟨_, rfl⟩
    obtain ⟨_, _, hchk, hval⟩ := hacc.leaf hk hwhen hrules
    refine lowerTextOperation_of_leaf (s := .raw keyword text span) hk hword ?_ ?_ ?_ hchk hval
    · rintro rfl hdang
      exact h (.filter hkw.symm hdang)
    · rintro rfl
      simp only [validateLeaf, hk] at hchk
      obtain rfl := some.inj hchk
      exact hval
    · rintro rfl
      simp only [validateLeaf, hk] at hchk
      obtain rfl := some.inj hchk
      cases hval
  | @block n keyword name statements span ident nested _ inner =>
    have hword := words_block keyword ident name statements span
    by_cases hwhen : k = .«when»
    · subst hwhen
      obtain ⟨condition, hcond⟩ := lowerCondition_isOk_iff.mpr fun hstuck =>
        h (.condition hkw.symm hstuck)
      obtain ⟨operations, hops⟩ :
          ∃ operations, statements.mapM lowerOperation = .ok operations := by
        refine exists_mapM fun s hs => ?_
        exact ih n (Nat.lt_succ_self n) (inner s hs) (hacc.when_body hkw.symm s hs)
          fun hbad => h (.body hkw.symm hs hbad)
      rw [lowerOperation, lowerTextOperation, hfirst hword, lowerOperations_eq, hops]
      simp only [hcond]
      exact ⟨_, rfl⟩
    by_cases hrules : k = .rules
    · subst hrules
      obtain ⟨rules, hlow⟩ : ∃ rules, statements.mapM lowerRule = .ok rules := by
        refine exists_mapM fun rule hrule => ?_
        obtain ⟨_, hval⟩ := hacc.rules_body hkw.symm rule hrule
        obtain ⟨_, _, _, _, _, _, rfl, hhead, -, hbody⟩ := validateRule_ok hval
        refine lowerRule_of_body hhead
          (fun hstuck => h (.ruleCondition hkw.symm hrule hhead hstuck)) fun s hs => ?_
        cases inner _ hrule with
        | @block m _ _ _ _ _ _ _ hin =>
          exact ih m (by omega) (hin s hs) (hbody s hs)
            fun hbad => h (.ruleBody hkw.symm hrule hs hbad)
      rw [lowerOperation, lowerTextOperation, hfirst hword, lowerRules_eq, hlow]
      exact ⟨_, rfl⟩
    obtain ⟨_, _, hchk, hval⟩ := hacc.leaf hk hwhen hrules
    refine lowerTextOperation_of_leaf (s := .block keyword name statements span) hk hword ?_ ?_ ?_
      hchk hval
    · rintro rfl hdang
      exact h (.filter hkw.symm hdang)
    · rintro rfl
      exact absurd hkw.symm nested.1
    · rintro rfl
      exact absurd hkw.symm nested.2
  | transcode => exact ⟨_, rfl⟩
  | @synthesize _ keyword header settings span keyword_eq =>
    obtain rfl : k = .synthesize := by
      rw [show (StatementAst.synthesizeInline keyword header settings span).keyword = keyword from
        rfl, keyword_eq] at hk
      exact some_unique hk (by decide)
    obtain ⟨_, _, hchk, hval⟩ := hacc.leaf hk (by decide) (by decide)
    simp only [validateLeaf, hk] at hchk
    obtain rfl := some.inj hchk
    simp only [validateSynthesizeStatement, clean_append] at hval
    exact lowerSynthesize_of_valid hval.1.1.1

/-! ## Phases -/

def RunIfTrigger.text : RunIfTrigger → String
  | .completed => "completed"
  | .modified => "modified"

/-- A gate as lowering reads it: the trigger, one space and one word. -/
theorem CompiledRunIf.parse_ok_iff {text : Text} {gate : CompiledRunIf} :
    CompiledRunIf.parse text = .ok gate ↔
      text = gate.trigger.text.toList ++ ' ' :: gate.phase.toList ∧ gate.phase.toList ≠ [] ∧
        gate.phase.toList.any isWhitespace = false := by
  unfold CompiledRunIf.parse
  constructor
  · intro h
    obtain ⟨⟨_, _⟩, hsplit, h⟩ := bind_ok.mp h
    have htext := splitOnce_eq (find_ok.mp hsplit)
    dsimp only at h
    split at h
    case h_3 => cases h
    all_goals
      rename_i htrigger
      simp only [bind_ok, require_ok, return_ok] at h
      obtain ⟨_, hparsed, -, ⟨hne, hblank⟩, rfl⟩ := h
      cases hparsed
      rw [htext, String.toList_ofList]
      exact ⟨by rw [RunIfTrigger.text, ← htrigger, String.toList_ofList]; rfl, hne,
        Bool.eq_false_iff.mpr hblank⟩
  · rintro ⟨rfl, hne, hblank⟩
    obtain ⟨trigger, phase⟩ := gate
    have hsplit : splitOnce [' '] (trigger.text.toList ++ ' ' :: phase.toList) =
        some (trigger.text.toList, phase.toList) := by
      rw [splitOnce_append (by cases trigger <;> decide)]
      simp [splitOnce]
    rw [bind_of_find hsplit]
    dsimp only
    cases trigger
    all_goals
      simp only [RunIfTrigger.text, String.ofList_toList]
      rw [bind_of_ok rfl, bind_of_require ⟨hne, Bool.eq_false_iff.mp hblank⟩]
      rfl

/-- What lowering needs of a phase that is valid: the first `run_if` names an earlier phase and
is spelled with one space, the first `skip` has a condition that is not stuck, and so has every
operation. -/
structure PhaseAst.Lowerable (order : List String) (phase : PhaseAst) : Prop where
  runIf : ∀ control ∈ controlNamed phase.controls "run_if", ∃ gate : CompiledRunIf,
    runIfName control = gate.trigger.text.toList ++ ' ' :: gate.phase.toList ∧
      gate.phase.toList ≠ [] ∧ gate.phase.toList.any isWhitespace = false ∧
      isEarlier order gate.phase phase.name.value
  skip : ∀ control ∈ controlNamed phase.controls "skip",
    ¬ Stuck (loweredSkipCondition (statementText control))
  operations : ∀ s ∈ phase.operations, ¬ Unlowerable s

theorem phaseRunIf_isOk_iff {phase : PhaseAst} :
    (∃ gate, phaseRunIf phase order = .ok gate) ↔
      ∀ control ∈ controlNamed phase.controls "run_if", ∃ gate : CompiledRunIf,
        runIfName control = gate.trigger.text.toList ++ ' ' :: gate.phase.toList ∧
          gate.phase.toList ≠ [] ∧ gate.phase.toList.any isWhitespace = false ∧
          isEarlier order gate.phase phase.name.value := by
  unfold phaseRunIf
  cases hctl : controlNamed phase.controls "run_if" with
  | none => exact ⟨fun _ => nofun, fun _ => ⟨none, rfl⟩⟩
  | some =>
    simp only [bind_ok, mapError_ok, CompiledRunIf.parse_ok_iff, require_ok,
      mem_some_iff, forall_eq']
    constructor
    · rintro ⟨_, gate, ⟨hname, hne, hblank⟩, -, hearlier, -⟩
      exact ⟨gate, hname, hne, hblank, hearlier⟩
    · rintro ⟨gate, hname, hne, hblank, hearlier⟩
      exact ⟨some gate, gate, ⟨hname, hne, hblank⟩, (), hearlier, rfl⟩

theorem phaseSkipIf_isOk_iff {controls : List StatementAst} :
    (∃ condition, phaseSkipIf controls = .ok condition) ↔
      ∀ control ∈ controlNamed controls "skip",
        ¬ Stuck (loweredSkipCondition (statementText control)) := by
  unfold phaseSkipIf
  cases hctl : controlNamed controls "skip" with
  | none => exact ⟨fun _ => nofun, fun _ => ⟨none, rfl⟩⟩
  | some =>
    simp only [mem_some_iff, forall_eq', ← lowerCondition_isOk_iff, bind_ok]
    constructor
    · rintro ⟨_, condition, hcond, -⟩
      exact ⟨condition, hcond⟩
    · rintro ⟨condition, hcond⟩
      exact ⟨some condition, condition, hcond, rfl⟩

theorem lowerPhase_isOk_iff {phase : PhaseAst}
    (hprod : ∀ s ∈ phase.operations, Produced source Parser.MAX_LEVELS s)
    (hacc : ∀ s ∈ phase.operations, Accepted s) :
    (∃ compiled, lowerPhase order phase = .ok compiled) ↔ phase.Lowerable order := by
  simp only [lowerPhase, lowerOperations_eq, bind_ok]
  constructor
  · rintro ⟨_, runIf, hrunIf, skipIf, hskipIf, _, hops, -⟩
    refine ⟨phaseRunIf_isOk_iff.mp ⟨runIf, hrunIf⟩, phaseSkipIf_isOk_iff.mp ⟨skipIf, hskipIf⟩,
      fun s hs hbad => ?_⟩
    obtain ⟨op, -, hlow⟩ := (mapM_ok_mem hops).1 s hs
    exact hbad.fails (hprod s hs) op hlow
  · intro h
    obtain ⟨runIf, hrunIf⟩ := phaseRunIf_isOk_iff.mpr h.runIf
    obtain ⟨skipIf, hskipIf⟩ := phaseSkipIf_isOk_iff.mpr h.skip
    obtain ⟨operations, hops⟩ := exists_mapM fun s hs =>
      lowerOperation_of_accepted (hprod s hs) (hacc s hs) (h.operations s hs)
    exact ⟨_, runIf, hrunIf, skipIf, hskipIf, operations, hops, rfl⟩

/-! ## Valid policies -/

/-- A policy without errors compiles if and only if every phase is lowered. -/
theorem compile_of_valid_iff {source : Text} {diagnostics : Diagnostics} {ast : PolicyAst}
    (hvalid : validatePolicy source = .ok diagnostics)
    (hparse : parsePolicySource source = .ok ast) :
    (∃ output, compilePolicy source = .ok output) ↔
      ∀ phase ∈ ast.phases, phase.Lowerable (phaseOrder ast) := by
  obtain ⟨ast', hparse', hchecked⟩ := validatePolicy_ok hvalid
  obtain rfl : ast' = ast := ok_unique hparse' hparse
  have hparsed := parsePolicySource_parsed hparse
  have hphase : ∀ phase ∈ ast'.phases,
      (∃ compiled, lowerPhase (phaseOrder ast') phase = .ok compiled) ↔
        phase.Lowerable (phaseOrder ast') := by
    intro phase hphase
    have hoperations := validatePolicyAst_phase hchecked hphase
    simp only [validatePhase, clean_append] at hoperations
    exact lowerPhase_isOk_iff (hparsed.operations phase hphase)
      (validateOperations_mem hoperations.1.2)
  constructor
  · rintro ⟨_, houtput⟩ phase hmem
    obtain ⟨ast, hast, -, _, hcompiled⟩ := compilePolicy_ok houtput
    obtain rfl : ast = ast' := ok_unique hast hparse
    obtain ⟨_, hphases, -⟩ := compileAst_ok hcompiled
    obtain ⟨compiled, -, hlowered⟩ := (mapM_ok_mem hphases).1 phase hmem
    exact (hphase phase hmem).mp ⟨compiled, hlowered⟩
  · intro h
    obtain ⟨_, hphases⟩ := exists_mapM fun phase hmem => (hphase phase hmem).mpr (h phase hmem)
    have hast : ∀ warnings, ∃ policy, compileAst ast' warnings = .ok policy :=
      fun _ => ⟨_, bind_of_ok hphases _⟩
    obtain ⟨policy, hpolicy⟩ :=
      hast ((validatePolicyAst source ast').filter (·.severity = .warning))
    refine ⟨⟨policy, validatePolicyAst source ast'⟩, ?_⟩
    rw [compilePolicy, hparse,
      show (Except.ok ast').mapError CompileFailure.parse = .ok ast' from rfl,
      bind_of_ok rfl, if_neg (Bool.eq_false_iff.mp hchecked)]
    dsimp only
    rw [hpolicy]
    rfl

/-- A gate and a filter that both readers understand. -/
def gatedSource : Text :=
  "policy \"p\" \x7b phase a \x7b keep audio where not commentary \x7d phase b \x7b ".toList ++
    "run_if completed a\nskip when not video.hdr\norder tracks [video, audio] \x7d \x7d".toList

theorem gatedSource_lowerable : ∃ diagnostics ast, validatePolicy gatedSource = .ok diagnostics ∧
    parsePolicySource gatedSource = .ok ast ∧
    ∀ phase ∈ ast.phases, phase.Lowerable (phaseOrder ast) := by
  obtain ⟨diagnostics, hvalid, -⟩ := exists_ok (x := validatePolicy gatedSource)
    (P := fun _ => True) (by decide +kernel)
  obtain ⟨output, houtput, -⟩ := exists_ok (x := compilePolicy gatedSource)
    (P := fun _ => True) (by decide +kernel)
  obtain ⟨ast, hparse, -⟩ := compilePolicy_ok houtput
  exact ⟨diagnostics, ast, hvalid, hparse,
    (compile_of_valid_iff hvalid hparse).mp ⟨output, houtput⟩⟩

/-- One source for each fault.  The phase of the `run_if` does come earlier. -/
def misreadSources : List Text :=
  ["policy \"p\" \x7b phase a \x7b keep(x audio \x7d \x7d".toList,
   "policy \"p\" \x7b phase a \x7b order tracks where\t[audio] \x7d \x7d".toList,
   "policy \"p\" \x7b phase a \x7b keep audio \x7d phase b \x7b ".toList ++
    "run_if completed  a\nkeep audio \x7d \x7d".toList,
   "policy \"p\" \x7b phase a \x7b skip when :not\nkeep audio \x7d \x7d".toList]

/-- Every `run_if` of the policy names an earlier phase, by the words of its header. -/
def runIfEarlier (ast : PolicyAst) : Bool :=
  ast.phases.all fun phase => phase.controls.all fun control =>
    control.keyword.value ≠ "run_if" ||
      isEarlier (phaseOrder ast) ((words (statementText control)).getD 2 "") phase.name.value

/-- The checker has nothing to say of the source, and it does not compile. -/
def Misread (source : Text) : Prop :=
  (∃ diagnostics, validatePolicy source = .ok diagnostics ∧ diagnostics = []) ∧
  (∃ ast, parsePolicySource source = .ok ast ∧ runIfEarlier ast = true) ∧
  ∀ output, compilePolicy source ≠ .ok output

theorem misread_sources_not_compiled : misreadSources.Forall Misread := by
  have hsources : misreadSources.all (fun source =>
      succeedsWith (validatePolicy source) (fun diagnostics => decide (diagnostics = [])) &&
      succeedsWith (parsePolicySource source) (fun ast => decide (runIfEarlier ast = true)) &&
      !succeedsWith (compilePolicy source) fun _ => true) = true := by decide +kernel
  refine forall_iff_forall_mem.mpr fun source hsource => ?_
  have hchecks := all_eq_true.mp hsources source hsource
  simp only [Bool.and_eq_true, Bool.not_eq_true'] at hchecks
  exact ⟨exists_ok hchecks.1.1, exists_ok hchecks.1.2, not_ok_of_succeedsWith hchecks.2⟩

end Voom
