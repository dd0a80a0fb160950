/-!
# Input that arrives in chunks

A reader does not choose how its input is cut: each read hands over some further non-empty
piece, and an empty read means the end. A law about such a reader has to hold for every cut of
the input.

`Chunk α` is one read, non-empty by construction; `flat` is the input the reads
add up to; `consume` takes elements off the front of the next read and never
leaves an empty one behind (`flat_consume`). `cut_at` and `no_cut` say what a
search for a separator inside one chunk has found.
-/

namespace Chunked
open List

variable {α : Type}

/-- One read: never empty, since an empty read is the end of the input. -/
abbrev Chunk (α : Type) := { c : List α // c ≠ [] }

/-- The input a list of reads adds up to. -/
def flat (cs : List (Chunk α)) : List α :=
  (cs.map Subtype.val).flatten

@[simp] theorem flat_nil : flat ([] : List (Chunk α)) = [] := rfl

@[simp] theorem flat_cons (c : Chunk α) (cs : List (Chunk α)) :
    flat (c :: cs) = c.val ++ flat cs := rfl

/-- `n` elements of the next read are used up; a read that is used up is dropped. -/
def consume (n : Nat) : List (Chunk α) → List (Chunk α)
  | [] => []
  | c :: cs => if h : c.val.drop n = [] then cs else ⟨c.val.drop n, h⟩ :: cs

@[simp] theorem flat_consume_cons (n : Nat) (c : Chunk α) (cs : List (Chunk α)) :
    flat (consume n (c :: cs)) = c.val.drop n ++ flat cs := by
  rw [consume]
  by_cases h : c.val.drop n = []
  · rw [dif_pos h, h, nil_append]
  · rw [dif_neg h, flat_cons]

/-! ### The first separator of a chunk -/

section Separator
variable [DecidableEq α] {sep : α} {xs ys us vs c rest : List α}

/-- A list that holds the separator is its part before the first one, the
separator, and the rest. -/
theorem cut_at {n : Nat} (h : xs.findIdx? (· == sep) = some n) :
    sep ∉ xs.take n ∧ xs.take (n + 1) = xs.take n ++ [sep] ∧
      xs = xs.take n ++ sep :: xs.drop (n + 1) := by
  obtain ⟨hlt, hat, hbef⟩ := findIdx?_eq_some_iff_getElem.mp h
  have hsep : xs[n] = sep := by simpa using hat
  refine ⟨?_, ?_, ?_⟩
  · intro hmem
    obtain ⟨i, hi, hget⟩ := getElem_of_mem hmem
    rw [length_take] at hi
    refine hbef i (by omega) ?_
    rw [getElem_take] at hget
    rw [hget, beq_self_eq_true]
  · rw [take_succ_eq_append_getElem hlt, hsep]
  · rw [← hsep, getElem_cons_drop, take_append_drop]

theorem no_cut (h : xs.findIdx? (· == sep) = none) : sep ∉ xs := by
  intro hmem
  have hne := findIdx?_eq_none_iff.mp h sep hmem
  rw [beq_self_eq_true] at hne
  cases hne

omit [DecidableEq α] in
/-- A list is cut at its first separator in one way only. -/
theorem cut_unique (hxs : sep ∉ xs) (hys : sep ∉ ys) (h : xs ++ sep :: us = ys ++ sep :: vs) :
    xs = ys ∧ us = vs := by
  induction xs generalizing ys with
  | nil =>
    cases ys with
    | nil => exact ⟨rfl, (cons.inj h).2⟩
    | cons y => exact absurd ((cons.inj h).1 ▸ mem_cons_self) hys
  | cons x _ ih =>
    cases ys with
    | nil => exact absurd ((cons.inj h).1 ▸ mem_cons_self) hxs
    | cons y =>
      obtain ⟨hhead, htail⟩ := cons.inj h
      obtain ⟨hrest, hafter⟩ := ih (not_mem_of_not_mem_cons hxs) (not_mem_of_not_mem_cons hys) htail
      exact ⟨by rw [hhead, hrest], hafter⟩

omit [DecidableEq α] in
/-- A chunk without the separator lies wholly before the first one. -/
theorem before_cut (hc : sep ∉ c) (h : c ++ us = xs ++ sep :: rest) :
    ∃ ys, xs = c ++ ys ∧ us = ys ++ sep :: rest := by
  rcases append_eq_append_iff.mp h with ⟨ys, hxs, hus⟩ | ⟨ys, hcx, hus⟩
  · exact ⟨ys, hxs, hus⟩
  · cases ys with
    | nil => exact ⟨[], by simpa using hcx.symm, by simpa using hus.symm⟩
    | cons y =>
      obtain ⟨rfl, _⟩ := cons.inj hus
      exact absurd (hcx ▸ mem_append_right xs mem_cons_self) hc

end Separator

end Chunked
