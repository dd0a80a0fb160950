import VoomProof.RustText

/-!
# Temp siblings

An interrupted promotion leaves a file beside its destination, with the name of that file
between `.voom-tmp.` and two numbers. The node agent finds such files by their names
(`commit.rs` of `voom-node-agent`). The file's own name may have dots and digits.
-/

namespace Voom
open RustText List

def TEMP_SIBLING_PREFIX : Text := ".voom-tmp.".toList

def numeric (value : Text) : Bool := value ≠ [] && value.all Char.isDigit

/-- What follows the name of the file. -/
def tempSiblingTail (entryName fileName : Text) : Option Text := do
  let rest ← stripPrefix TEMP_SIBLING_PREFIX entryName
  let tail ← stripPrefix fileName rest
  stripPrefix ['.'] tail

def isTempSiblingOf (entryName fileName : Text) : Bool :=
  match (tempSiblingTail entryName fileName).map (·.splitOn '.') with
  | some [pid, counter] => numeric pid && numeric counter
  | _ => false

/-- The last component of `unique_temp_sibling_path`. -/
def uniqueTempSiblingName (fileName : Text) (pid counter : Nat) : Text :=
  TEMP_SIBLING_PREFIX ++ fileName ++ '.' :: (Nat.toDigits 10 pid ++ '.' :: Nat.toDigits 10 counter)

variable {entryName fileName value tail pid counter : Text}

theorem numeric_toDigits (n : Nat) : numeric (Nat.toDigits 10 n) = true := by
  simp only [numeric, Bool.and_eq_true, decide_eq_true_eq, all_eq_true]
  exact ⟨Nat.toDigits_ne_nil, fun c hc => Nat.isDigit_of_mem_toDigits (by decide) (by decide) hc⟩

theorem dot_not_mem (h : numeric value = true) : '.' ∉ value := by
  intro hdot
  have hdigit := all_eq_true.mp (Bool.and_eq_true_iff.mp h).2 '.' hdot
  cases hdigit

theorem tempSiblingTail_eq_some : tempSiblingTail entryName fileName = some tail ↔
    entryName = TEMP_SIBLING_PREFIX ++ fileName ++ '.' :: tail := by
  simp [tempSiblingTail, stripPrefix_eq_some, Option.bind_eq_some_iff]

theorem splitOn_dot_iff (hpid : '.' ∉ pid) (hcounter : '.' ∉ counter) :
    tail.splitOn '.' = [pid, counter] ↔ tail = pid ++ '.' :: counter := by
  have hfree : ∀ {t : Text}, '.' ∉ t → ∀ c ∈ t, (c == '.') = false :=
    fun ht c hc => beq_false_of_ne fun heq => ht (heq ▸ hc)
  constructor
  · intro h
    have htail : ['.'].intercalate (tail.splitOn '.') = tail := intercalate_splitOn '.'
    rw [h] at htail
    simpa using htail.symm
  · rintro rfl
    rw [splitOn, splitOnP_append_cons _ _ rfl, splitOnP_eq_singleton (hfree hpid),
      splitOnP_eq_singleton (hfree hcounter)]
    rfl

/-- A name is accepted for a file if two numbers follow the file's name. -/
theorem isTempSiblingOf_iff : isTempSiblingOf entryName fileName = true ↔
    ∃ pid counter, numeric pid = true ∧ numeric counter = true ∧
      entryName = TEMP_SIBLING_PREFIX ++ fileName ++ '.' :: (pid ++ '.' :: counter) := by
  unfold isTempSiblingOf
  constructor
  · intro h
    split at h
    next pid counter hparts =>
      obtain ⟨hpid, hcounter⟩ := Bool.and_eq_true_iff.mp h
      obtain ⟨_, htail, hsplit⟩ := Option.map_eq_some_iff.mp hparts
      rw [splitOn_dot_iff (dot_not_mem hpid) (dot_not_mem hcounter)] at hsplit
      exact ⟨pid, counter, hpid, hcounter, hsplit ▸ tempSiblingTail_eq_some.mp htail⟩
    · cases h
  · rintro ⟨_, _, hpid, hcounter, hname⟩
    rw [tempSiblingTail_eq_some.mpr hname, Option.map_some,
      (splitOn_dot_iff (dot_not_mem hpid) (dot_not_mem hcounter)).mpr rfl]
    exact Bool.and_eq_true_iff.mpr ⟨hpid, hcounter⟩

/-- **A temp sibling is recognised as one of its file and of no other**: without the two
numbers at its end, one name is left. -/
theorem temp_siblings_recognised :
    (∀ fileName pid counter,
      isTempSiblingOf (uniqueTempSiblingName fileName pid counter) fileName = true) ∧
    ∀ entryName fileName fileName', isTempSiblingOf entryName fileName = true →
      isTempSiblingOf entryName fileName' = true → fileName = fileName' := by
  constructor
  · intro _ pid counter
    exact isTempSiblingOf_iff.mpr ⟨_, _, numeric_toDigits pid, numeric_toDigits counter, rfl⟩
  · intro _ _ _ h h'
    obtain ⟨_, _, hpid, hcounter, rfl⟩ := isTempSiblingOf_iff.mp h
    obtain ⟨_, _, hpid', hcounter', hname⟩ := isTempSiblingOf_iff.mp h'
    rw [← cons_append, ← append_assoc, ← cons_append, ← append_assoc,
      append_separator_inj (dot_not_mem hcounter) (dot_not_mem hcounter'),
      append_separator_inj (dot_not_mem hpid) (dot_not_mem hpid')] at hname
    exact append_cancel_left hname.1.1

/-- A file name that ends in numbers itself. -/
theorem numbered_file_recognised :
    isTempSiblingOf ".voom-tmp.a.1.2.3.4".toList "a.1.2".toList = true ∧
      ∀ fileName, isTempSiblingOf ".voom-tmp.a.1.2.3.4".toList fileName = true →
        fileName = "a.1.2".toList :=
  have hown := temp_siblings_recognised.1 "a.1.2".toList 3 4
  ⟨hown, fun fileName h => temp_siblings_recognised.2 _ fileName _ h hown⟩

end Voom
