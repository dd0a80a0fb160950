import VoomProof.Fallible
import VoomProof.PolicyConditions

/-!
# Taking a condition apart

Lowering splits the text of a condition at `or`, then at `and`, then takes a `not` off its
front; what is left is a leaf (`conditionShape`). Every piece is a part of the text, and but for
one case a shorter one, so as many levels as the text has characters are enough: more never
help. That case is a text whose first word is `not` behind a separator: it is its own piece, and
lowering never returns.
-/

namespace Voom
open RustText Fallible List Option Nat

/-! ## Pieces -/

variable {text : Text}

variable {op rhs delimiter part leaf inner : Text} {parts : List Text}

/-- The pieces of a split are parts of the text, and shorter ones if there are several. -/
theorem splitPieces_parts (delimiter : Text) (skip : Nat) (s : QuoteState) (text : Text) :
    ∃ first rest, splitPieces delimiter skip s text = first :: rest ∧
      first <:+: text ∧ (∀ q ∈ rest, q <:+: text ∧ q.length < text.length) ∧
      (skip = 0 → first <+: text ∧ (rest ≠ [] → first.length < text.length)) := by
  fun_induction splitPieces delimiter skip s text with
  | case1 _ s => exact ⟨[], [], rfl, infix_refl _, nofun, fun _ => ⟨prefix_refl _, nofun⟩⟩
  | case2 _ s c _ ih =>
    obtain ⟨first, rest, heq, hfirst, hrest, -⟩ := ih
    exact ⟨first, rest, heq, infix_cons hfirst, fun q hq =>
      ⟨infix_cons (hrest q hq).1, lt_succ_of_lt (hrest q hq).2⟩, nofun⟩
  | case3 s c _ _ ih =>
    obtain ⟨first, rest, heq, hfirst, hrest, -⟩ := ih
    refine ⟨[], first :: rest, by rw [heq], nil_infix, forall_mem_cons.mpr ⟨?_, ?_⟩,
      fun _ => ⟨ nil_prefix, fun _ => succ_pos _⟩⟩
    · exact ⟨infix_cons hfirst, lt_succ_of_le hfirst.length_le⟩
    · exact fun q hq => ⟨infix_cons (hrest q hq).1, lt_succ_of_lt (hrest q hq).2⟩
  | case4 s c text _ ih =>
    obtain ⟨first, rest, heq, -, hrest, hzero⟩ := ih
    obtain ⟨hfront, hshort⟩ := hzero rfl
    have hcons : c :: first <+: c :: text := cons_prefix_cons.mpr ⟨rfl, hfront⟩
    exact ⟨c :: first, rest, by rw [heq]; rfl, hcons.isInfix, fun q hq =>
      ⟨infix_cons (hrest q hq).1, lt_succ_of_lt (hrest q hq).2⟩,
      fun _ => ⟨hcons, fun hne => succ_lt_succ (hshort hne)⟩⟩

theorem splitBoolCondition_part (h : splitBoolCondition text delimiter = some parts)
    (hpart : part ∈ parts) :
    part <:+: text ∧ part.length < text.length ∧ part ≠ [] ∧ Trimmed part := by
  unfold splitBoolCondition splitBoolExpression at h
  split at h
  · cases h
  dsimp only at h
  split at h
  case isFalse => cases h
  case isTrue hmany =>
  cases h
  obtain ⟨first, rest, heq, -, hrest, hzero⟩ := splitPieces_parts delimiter 0 {} text
  obtain ⟨hfront, hshort⟩ := hzero rfl
  unfold splitOutsideQuotes at hmany hpart
  rw [heq] at hmany hpart
  have hne : rest ≠ [] := by
    rintro rfl
    have hle := length_filter_le (fun p : Text => decide (p ≠ [])) ([first].map trim)
    rw [length_map, length_singleton] at hle
    omega
  obtain ⟨hmem, hnonempty⟩ := mem_filter.mp hpart
  obtain ⟨piece, hpiece, rfl⟩ := mem_map.mp hmem
  have hwithin : piece <:+: text ∧ piece.length < text.length := by
    rcases mem_cons.mp hpiece with rfl | hin
    · exact ⟨hfront.isInfix, hshort hne⟩
    · exact hrest piece hin
  exact ⟨(trim_isInfix piece).trans hwithin.1,
    Nat.lt_of_le_of_lt (trim_isInfix piece).length_le hwithin.2, of_decide_eq_true hnonempty,
    trimmed_trim piece⟩

/-- Taking groups off keeps to parts of the text that are trimmed. -/
theorem stripGroups_part (n : Nat) (h : Trimmed text) :
    stripGroups n text <:+: text ∧ Trimmed (stripGroups n text) := by
  induction n generalizing text with
  | zero => exact ⟨infix_refl text, h⟩
  | succ n ih =>
    unfold stripGroups
    split
    case h_1 rest =>
      split
      case isTrue =>
        obtain ⟨hwithin, htrimmed⟩ := ih (trimmed_trim rest.dropLast)
        have hrest : trim rest.dropLast <:+: '(' :: rest :=
          (trim_isInfix _).trans (infix_cons ( dropLast_prefix rest).isInfix)
        exact ⟨hwithin.trans hrest, htrimmed⟩
      case isFalse => exact ⟨infix_refl _, h⟩
    case h_2 => exact ⟨infix_refl text, h⟩

theorem stripOuterGroup_isInfix (text : Text) : stripOuterGroup text <:+: text :=
  (stripGroups_part _ (trimmed_trim text)).1.trans (trim_isInfix text)

/-! ## Shapes -/

/-- What lowering makes of the text of a condition at one level. -/
inductive ConditionShape where
  | or (parts : List Text)
  | and (parts : List Text)
  | not (inner : Text)
  | leaf (text : Text)

def conditionShape (text : Text) : ConditionShape :=
  let text := stripOuterGroup (trim text)
  match splitBoolCondition text " or ".toList with
  | some parts => .or parts
  | none =>
      match splitBoolCondition text " and ".toList with
      | some parts => .and parts
      | none =>
          if (words text).head? = some "not" then
            .not (trim (trimStartMatches "not".toList text))
          else .leaf text

theorem conditionFromTextAt_succ (levels : Nat) (text : Text) :
    conditionFromTextAt (levels + 1) text =
      match conditionShape text with
      | .or parts => (parts.mapM (conditionFromTextAt levels)).map .or
      | .and parts => (parts.mapM (conditionFromTextAt levels)).map .and
      | .not inner => (conditionFromTextAt levels inner).map .not
      | .leaf leaf => some (conditionLeaf leaf) := by
  rw [conditionFromTextAt, conditionShape]
  cases splitBoolCondition (stripOuterGroup (trim text)) " or ".toList with
  | some => rfl
  | none =>
    cases splitBoolCondition (stripOuterGroup (trim text)) " and ".toList with
    | some => rfl
    | none =>
      dsimp only
      split <;> rfl

section Shape
variable {text : Text}

theorem stripped_isInfix (text : Text) : stripOuterGroup (trim text) <:+: text :=
  (stripOuterGroup_isInfix _).trans (trim_isInfix text)

/-- The parts around a connective. -/
theorem conditionShape_parts
    (h : conditionShape text = .or parts ∨ conditionShape text = .and parts) :
    ∀ part ∈ parts, part <:+: text ∧ part.length < text.length := by
  intro _ hpart
  have hsplit : ∃ delimiter, splitBoolCondition (stripOuterGroup (trim text)) delimiter =
      some parts := by
    unfold conditionShape at h
    dsimp only at h
    split at h
    case h_1 parts' hor => exact ⟨_, by rcases h with h | h <;> cases h; exact hor⟩
    case h_2 =>
    split at h
    case h_1 hand => exact ⟨_, by rcases h with h | h <;> cases h; exact hand⟩
    case h_2 => split at h <;> rcases h with h | h <;> cases h
  obtain ⟨_, hsplit⟩ := hsplit
  obtain ⟨hwithin, hshort, -, -⟩ := splitBoolCondition_part hsplit hpart
  exact ⟨hwithin.trans (stripped_isInfix text),
    Nat.lt_of_lt_of_le hshort (stripped_isInfix text).length_le⟩

/-- What is negated is shorter, or it is the text itself. -/
theorem conditionShape_not (h : conditionShape text = .not inner) :
    inner <:+: text ∧ (inner.length < text.length ∨ inner = text) := by
  have hwithin : inner <:+: text := by
    unfold conditionShape at h
    dsimp only at h
    split at h
    · cases h
    split at h
    · cases h
    split at h
    · cases h
      exact (trim_isInfix _).trans
        ((trimStartMatches_suffix _ _).isInfix.trans (stripped_isInfix text))
    · cases h
  refine ⟨hwithin, ?_⟩
  rcases Nat.lt_or_eq_of_le hwithin.length_le with hlt | heq
  · exact .inl hlt
  · exact .inr (hwithin.eq_of_length heq)

end Shape

/-! ## Levels -/

section Levels
variable {text : Text} {condition : CompiledCondition}

/-- A text that is its own piece is never lowered. -/
theorem conditionFromTextAt_stuck (h : conditionShape text = .not text) (levels : Nat) :
    conditionFromTextAt levels text = none := by
  induction levels with
  | zero => rfl
  | succ _ ih =>
    rw [conditionFromTextAt_succ, h]
    exact congrArg (Option.map CompiledCondition.not) ih

end Levels

/-- Lowering comes to a piece that is its own piece. -/
inductive Stuck : Text → Prop where
  | self {text : Text} (shape : conditionShape text = .not text) : Stuck text
  | or {text part : Text} {parts : List Text} (shape : conditionShape text = .or parts)
      (mem : part ∈ parts) (inner : Stuck part) : Stuck text
  | and {text part : Text} {parts : List Text} (shape : conditionShape text = .and parts)
      (mem : part ∈ parts) (inner : Stuck part) : Stuck text
  | not {text inner : Text} (shape : conditionShape text = .not inner) (stuck : Stuck inner) :
      Stuck text

theorem Stuck.unreturned (h : Stuck text) (levels : Nat) :
    conditionFromTextAt levels text = none := by
  induction levels generalizing text with
  | zero => rfl
  | succ levels ih =>
    have hparts : ∀ {parts : List Text} {part : Text}, part ∈ parts → Stuck part →
        parts.mapM (conditionFromTextAt levels) = none := by
      intro parts part hmem hpart
      cases hmap : parts.mapM (conditionFromTextAt levels) with
      | none => rfl
      | some =>
        obtain ⟨_, -, hlow⟩ := (mapM_some_mem hmap).1 part hmem
        rw [ih hpart] at hlow
        cases hlow
    rw [conditionFromTextAt_succ]
    cases h with
    | self hshape =>
      rw [hshape]
      exact congrArg (Option.map CompiledCondition.not) (ih (.self hshape))
    | or hshape hmem hpart =>
      rw [hshape]
      exact congrArg (Option.map CompiledCondition.or) (hparts hmem hpart)
    | and hshape hmem hpart =>
      rw [hshape]
      exact congrArg (Option.map CompiledCondition.and) (hparts hmem hpart)
    | not hshape hin =>
      rw [hshape]
      exact congrArg (Option.map CompiledCondition.not) (ih hin)

/-- Otherwise it returns, and needs no more levels than the text has characters, and one. -/
theorem conditionFromTextAt_of_not_stuck (h : ¬ Stuck text) {levels : Nat}
    (hlevels : text.length < levels) : (conditionFromTextAt levels text).isSome = true := by
  induction levels generalizing text with
  | zero => exact absurd hlevels (not_lt_zero _)
  | succ levels ih =>
    have hpieces : ∀ {parts : List Text},
        conditionShape text = .or parts ∨ conditionShape text = .and parts →
        (∀ part ∈ parts, ¬ Stuck part) →
        ∃ conditions, parts.mapM (conditionFromTextAt levels) = some conditions := by
      intro _ hshape hfree
      refine exists_mapM_some fun part hpart => isSome_iff_exists.mp ?_
      exact ih (hfree part hpart) (Nat.lt_of_lt_of_le (conditionShape_parts hshape part hpart).2
        (le_of_lt_succ hlevels))
    rw [conditionFromTextAt_succ]
    cases hshape : conditionShape text with
    | or =>
      obtain ⟨_, hmap⟩ := hpieces (.inl hshape) fun _ hpart hstuck =>
        h (.or hshape hpart hstuck)
      dsimp only
      rw [hmap]
      rfl
    | and =>
      obtain ⟨_, hmap⟩ := hpieces (.inr hshape) fun _ hpart hstuck =>
        h (.and hshape hpart hstuck)
      dsimp only
      rw [hmap]
      rfl
    | not =>
      rcases (conditionShape_not hshape).2 with hlt | rfl
      · rw [isSome_map]
        exact ih (fun hstuck => h (.not hshape hstuck))
          (Nat.lt_of_lt_of_le hlt (Nat.le_of_lt_succ hlevels))
      · exact absurd (.self hshape) h
    | leaf => rfl

theorem conditionFromText_isSome_iff : (conditionFromText text).isSome = true ↔ ¬ Stuck text := by
  refine ⟨fun h hstuck => ?_, fun h => conditionFromTextAt_of_not_stuck h (lt_succ_self _)⟩
  rw [conditionFromText, hstuck.unreturned] at h
  cases h

/-! ## Levels of validation -/

theorem allValid_congr {check check' : Text → Bool × Diagnostics}
    (h : ∀ part ∈ parts, check part = check' part) :
    allValid check parts = allValid check' parts := by
  induction parts with
  | nil => rfl
  | cons _ _ ih =>
    obtain ⟨hpart, hrest⟩ := forall_mem_cons.mp h
    rw [allValid, allValid, hpart, ih hrest]

/-- Validation, too, needs no more levels than the text has characters, and one. -/
theorem isValidConditionAt_enough {span : SourceSpan} {n m : Nat} (hn : text.length < n)
    (hm : text.length < m) : isValidConditionAt span n text = isValidConditionAt span m text := by
  induction n generalizing text m with
  | zero => exact absurd hn (not_lt_zero _)
  | succ n ih =>
    obtain ⟨m, rfl⟩ : ∃ k, m = k + 1 := ⟨m - 1, by omega⟩
    have hstripped := (stripped_isInfix text).length_le
    have hpart : ∀ {delimiter : Text} {parts : List Text},
        splitBoolCondition (stripOuterGroup (trim text)) delimiter = some parts →
        allValid (isValidConditionAt span n) parts =
          allValid (isValidConditionAt span m) parts := by
      intro _ _ hsplit
      refine allValid_congr fun _ hmem => ?_
      have hshort := (splitBoolCondition_part hsplit hmem).2.1
      exact ih (by omega) (by omega)
    rw [isValidConditionAt, isValidConditionAt]
    split
    · rfl
    split
    case h_1 hsplit => exact hpart hsplit
    split
    case h_1 hsplit => exact hpart hsplit
    split
    case h_1 inner hnot =>
      have hlen := congrArg length (stripPrefix_eq_some.mp hnot)
      have htrim := (trim_isInfix (stripOuterGroup (trim text))).length_le
      have hin := (trim_isInfix inner).length_le
      rw [length_append, show "not ".toList.length = 4 from rfl] at hlen
      exact ih (by omega) (by omega)
    · rfl

end Voom
