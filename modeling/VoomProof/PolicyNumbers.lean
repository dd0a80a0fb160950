import VoomProof.LoweredTexts
import VoomProof.PlanConditions

/-!
# Numbers of a compiled policy

A number of a compiled policy is a number literal of a text that lowering reads. Validation looks
for numbers that do not fit in 64 bits among the words of the headers of a phase, those of its
controls and of its operations; it looks neither into nested statements and rules nor behind a
parenthesis, and the planner cannot read a number it has let through there.
-/

namespace Voom
open RustText Fallible List Option

/-! ## Literals -/

/-- The number literals of the texts that lowering reads. -/
def PolicyAst.numbers (ast : PolicyAst) : List String :=
  ast.reads.texts.flatMap (·.numbers)

/-- The words of the headers of every phase. -/
def PolicyAst.headerWords (ast : PolicyAst) : List String :=
  ast.phases.flatMap fun phase =>
    (phase.controls ++ phase.operations).flatMap fun statement => words (statementText statement)

/-- The literals that are never checked: those of nested statements and of rules, and those that
are no words of their own. -/
def PolicyAst.uncheckedNumbers (ast : PolicyAst) : List String :=
  ast.numbers.filter (· ∉ ast.headerWords)

theorem conditionNumbersAt_digits {levels : Nat} {text : Text} {n : String}
    (h : n ∈ conditionNumbersAt levels text) :
    n.toList ≠ [] ∧ n.toList.all Char.isDigit = true := by
  induction levels generalizing text with
  | zero => cases h
  | succ _ ih =>
    rw [conditionNumbersAt] at h
    split at h
    case h_1 | h_2 =>
      obtain ⟨_, -, hpart⟩ := mem_flatMap.mp h
      exact ih hpart
    case h_3 => exact ih h
    case h_4 =>
      unfold leafNumbers at h
      dsimp only at h
      split_ifs at h
      · cases h
      · cases h
      · split at h
        · exact digitText_digits h
        · cases h

theorem PolicyAst.numbers_digits {ast : PolicyAst} {n : String} (h : n ∈ ast.numbers) :
    n.toList ≠ [] ∧ n.toList.all Char.isDigit = true := by
  obtain ⟨text, -, hn⟩ := mem_flatMap.mp h
  cases text with
  | condition => exact conditionNumbersAt_digits hn
  | tagValue => exact digitText_digits hn

/-! ## Numbers that are checked -/

variable {source : Text} {n : String}

theorem validateOperations_literals {operations : List StatementAst} {effects : TagEffects}
    (h : hasErrors (validateOperations operations effects).1 = false) :
    ∀ s ∈ operations, hasErrors (checkNumericLiterals s) = false := by
  induction operations generalizing effects with
  | nil => exact nofun
  | cons _ _ ih =>
    simp only [validateOperations, clean_append] at h
    exact forall_mem_cons.mpr ⟨h.1.1, ih h.2⟩

/-- A number that is a word of a header has been checked. -/
theorem fits_of_headerWord {ast : PolicyAst}
    (hval : hasErrors (validatePolicyAst source ast) = false) (hn : n ∈ ast.headerWords)
    (hdigits : n.toList ≠ [] ∧ n.toList.all Char.isDigit = true) :
    digitsValue n.toList < 1 <<< 64 := by
  obtain ⟨_, hphase, hn⟩ := mem_flatMap.mp hn
  obtain ⟨statement, hstmt, hword⟩ := mem_flatMap.mp hn
  have hchk := validatePolicyAst_phase hval hphase
  simp only [validatePhase, clean_append] at hchk
  have hliterals : hasErrors (checkNumericLiterals statement) = false := by
    rcases mem_append.mp hstmt with hctl | hop
    · have hctls := hchk.1.1
      rw [hasErrors_flatMap] at hctls
      have hone := Bool.eq_false_iff.mpr (any_eq_false.mp hctls statement hctl)
      simp only [validateControl, clean_append] at hone
      exact hone.1
    · exact validateOperations_literals hchk.1.2 statement hop
  simp only [checkNumericLiterals, hasErrors_flatMap, hasErrors_reportIf] at hliterals
  have hrange := any_eq_false.mp hliterals n hword
  rw [isOutOfRange, hdigits.2, Bool.true_and, isNone_iff_eq_none,
    ← not_isSome_iff_eq_none, not_not] at hrange
  exact (parseUnsigned_isSome_iff hdigits.1 hdigits.2).mp hrange

/-- **The planner can read every number of a compiled policy exactly if those literals fit in 64
bits that are not checked.**  The numbers are the literals of the texts that were lowered, each a
run of digits. -/
theorem numbers_readable_iff {source : Text} {ast : PolicyAst} {output : CompileOutput}
    (hparse : parsePolicySource source = .ok ast) (h : compilePolicy source = .ok output)
    (snapshot : MediaSnapshot) :
    output.policy.numbers = ast.numbers ∧
    (∀ n ∈ output.policy.numbers, n.toList ≠ [] ∧ n.toList.all Char.isDigit = true) ∧
    ((∀ n ∈ output.policy.numbers, (Planner.conditionValue snapshot (.number n)).isSome) ↔
      ∀ n ∈ ast.uncheckedNumbers, digitsValue n.toList < 1 <<< 64) := by
  obtain ⟨_, hparse', hvalid, warnings, hcompiled⟩ := compilePolicy_ok h
  obtain rfl := ok_unique hparse hparse'
  have hnumbers : output.policy.numbers = ast.numbers := by
    have hfollows := compileAst_follows ast warnings
    rw [hcompiled] at hfollows
    exact hfollows.2.2
  have hread : ∀ n ∈ ast.numbers,
      (Planner.conditionValue snapshot (.number n)).isSome ↔ digitsValue n.toList < 1 <<< 64 := by
    intro n hn
    obtain ⟨hnonempty, hdigits⟩ := ast.numbers_digits hn
    rw [Planner.conditionValue, isSome_map]
    exact parseUnsigned_isSome_iff hnonempty hdigits
  rw [hnumbers]
  refine ⟨rfl, fun n => ast.numbers_digits, fun hall n hn => ?_, fun hall n hn => ?_⟩
  · have hmem := (mem_filter.mp hn).1
    exact (hread n hmem).mp (hall n hmem)
  · rw [hread n hn]
    by_cases hword : n ∈ ast.headerWords
    · exact fits_of_headerWord hvalid hword (ast.numbers_digits hn)
    · exact hall n (mem_filter.mpr ⟨hn, decide_eq_true hword⟩)

/-- A file of which nothing is known. -/
def unknownFile : MediaSnapshot where
  existingMediaSnapshotId := none
  container := none
  streamSummary := .null
  target := .synthetic "f" .fileVersion
  videoCodec := none
  width := none
  height := none
  hdr := none
  bitrate := none
  durationMillis := none

def uncheckedSource : Text :=
  ("policy \"p\" \x7b phase a \x7b skip when (video.width > 640)\n" ++
    "when video.hdr \x7b when video.width > 1920 \x7b keep audio \x7d \x7d \x7d \x7d").toList

/-- A number behind a parenthesis and one in a nested statement, both short enough. -/
theorem unchecked_numbers_readable :
    ∃ ast output, parsePolicySource uncheckedSource = .ok ast ∧
      compilePolicy uncheckedSource = .ok output ∧ ast.uncheckedNumbers = ["640", "1920"] ∧
      ∀ n ∈ output.policy.numbers,
        (Planner.conditionValue unknownFile (.number n)).isSome := by
  obtain ⟨ast, hparse, hunchecked⟩ := exists_ok (x := parsePolicySource uncheckedSource)
    (P := fun ast => ast.uncheckedNumbers = ["640", "1920"]) (by decide +kernel)
  obtain ⟨output, hcompiled, -⟩ := exists_ok (x := compilePolicy uncheckedSource)
    (P := fun _ => True) (by decide +kernel)
  refine ⟨ast, output, hparse, hcompiled, hunchecked, ?_⟩
  refine (numbers_readable_iff hparse hcompiled unknownFile).2.2.mpr ?_
  rw [hunchecked]
  decide +kernel

/-- A number that is too large, in a nested statement and behind a parenthesis. -/
theorem long_numbers_unreadable :
    (∃ output, compilePolicy ("policy \"p\" \x7b phase a \x7b when video.width > 1 \x7b " ++
        "when video.width > 99999999999999999999 \x7b keep audio \x7d \x7d \x7d \x7d").toList =
          .ok output ∧ "99999999999999999999" ∈ output.policy.numbers) ∧
    (∃ output, compilePolicy ("policy \"p\" \x7b phase a \x7b " ++
        "skip when (video.width > 99999999999999999999)\nkeep audio \x7d \x7d").toList =
          .ok output ∧ "99999999999999999999" ∈ output.policy.numbers) ∧
    ∀ snapshot, Planner.conditionValue snapshot (.number "99999999999999999999") = none := by
  refine ⟨exists_ok (by decide +kernel),
    exists_ok (by decide +kernel), fun _ => ?_⟩
  have hparse : parseUnsigned 64 "99999999999999999999".toList = none := by decide +kernel
  rfl

end Voom
