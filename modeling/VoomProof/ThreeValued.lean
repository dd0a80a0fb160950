import Mathlib.Data.List.Basic
import VoomProof.Fallible

/-!
# Answers that may be unknown

An answer is `some b`, or `none` where what would decide it is not known. A disjunction is
decided by one answer `true` and a conjunction by one answer `false`, whatever is unknown
beside it; `decidedBy` is both, over the deciding answer. `scan` is the loop that computes
it: it stops at a deciding answer and remembers if it has passed an unknown one.

Knowing more never changes an answer (`Keeps`): not for `decidedBy`, and not for `strict`,
which has no answer until all are known.
-/

namespace ThreeValued
open Fallible List

/-- `w` is the answer of `v`, where `v` has one. -/
def Keeps {α : Type} (v w : Option α) : Prop := ∀ a, v = some a → w = some a

theorem Keeps.map {α β : Type} {v w : Option α} (h : Keeps v w) (f : α → β) :
    Keeps (v.map f) (w.map f) := by
  intro b hb
  obtain ⟨a, ha, rfl⟩ := Option.map_eq_some_iff.mp hb
  rw [h a ha]
  rfl

/-- One answer `d` decides; without one, what is unknown leaves it open. -/
def decidedBy (d : Bool) (answers : List (Option Bool)) : Option Bool :=
  if some d ∈ answers then some d else if none ∈ answers then none else some !d

/-- A conjunction that waits for every answer. -/
def strict (answers : List (Option Bool)) : Option Bool :=
  if none ∈ answers then none else decidedBy false answers

variable {d : Bool} {answers : List (Option Bool)}

theorem decidedBy_eq_self_iff : decidedBy d answers = some d ↔ some d ∈ answers := by
  unfold decidedBy
  split_ifs <;> simp [*]

theorem decidedBy_eq_not_iff : decidedBy d answers = some (!d) ↔ ∀ a ∈ answers, a = some (!d) := by
  have hother (a : Option Bool) (hd : a ≠ some d) (hn : a ≠ none) : a = some (!d) := by
    obtain ⟨b, rfl⟩ := Option.ne_none_iff_exists'.mp hn
    exact congrArg some (Bool.eq_not.mpr fun h => hd (congrArg some h))
  unfold decidedBy
  split_ifs with hd hn
  · exact iff_of_false (by simp) fun h => absurd (h _ hd) (by simp)
  · exact iff_of_false (by simp) fun h => absurd (h _ hn) (by simp)
  · exact iff_of_true rfl fun a ha => hother a (fun h => hd (h ▸ ha)) fun h => hn (h ▸ ha)

theorem decidedBy_perm {others : List (Option Bool)} (h : answers.Perm others) :
    decidedBy d answers = decidedBy d others := by
  simp only [decidedBy, h.mem_iff]

theorem strict_known (a b : Bool) :
    strict (some a :: some b :: answers) = strict (some (b && a) :: answers) := by
  cases a <;> cases b <;> simp [strict, decidedBy]

section Monotone
variable {α : Type} {l : List α} {f g : α → Option Bool}

section
variable (h : ∀ a ∈ l, Keeps (f a) (g a))
include h

theorem decidedBy_keeps : Keeps (decidedBy d (l.map f)) (decidedBy d (l.map g)) := by
  intro b hb
  by_cases hd : b = d
  · subst hd
    obtain ⟨a, ha, hf⟩ := mem_map.mp (decidedBy_eq_self_iff.mp hb)
    exact decidedBy_eq_self_iff.mpr (mem_map.mpr ⟨a, ha, h a ha b hf⟩)
  · obtain rfl : b = !d := Bool.eq_not.mpr hd
    refine decidedBy_eq_not_iff.mpr (forall_mem_map.mpr fun a ha => h a ha _ ?_)
    exact decidedBy_eq_not_iff.mp hb _ (mem_map_of_mem ha)

/-- What the strict conjunction answers, the other answers too. -/
theorem strict_keeps_decidedBy : Keeps (strict (l.map f)) (decidedBy false (l.map g)) := by
  intro b hb
  unfold strict at hb
  split_ifs at hb
  exact decidedBy_keeps h b hb

theorem strict_keeps : Keeps (strict (l.map f)) (strict (l.map g)) := by
  intro b hb
  have hans := strict_keeps_decidedBy h b hb
  have hknown : none ∉ l.map g := by
    intro hnone
    obtain ⟨a, ha, hg⟩ := mem_map.mp hnone
    cases hf : f a with
    | none => simp [strict, mem_map.mpr ⟨a, ha, hf⟩] at hb
    | some v => cases (h a ha v hf).symm.trans hg
  rw [strict, if_neg hknown, hans]

end

end Monotone

/-! ## The loop -/

/-- `unknown` says if an unknown answer was passed. -/
def scan (d : Bool) : List (Option Bool) → Bool → Option Bool
  | [], unknown => if unknown then none else some !d
  | some b :: rest, unknown => if b = d then some d else scan d rest unknown
  | none :: rest, _ => scan d rest true

theorem scan_eq (answers : List (Option Bool)) (unknown : Bool) :
    scan d answers unknown = decidedBy d (if unknown then none :: answers else answers) := by
  induction answers generalizing unknown with
  | nil => cases unknown <;> simp [scan, decidedBy]
  | cons answer _ ih =>
    rcases answer with _ | b
    · rw [scan, ih]
      cases unknown <;> simp [decidedBy]
    · rw [scan, ih]
      by_cases hd : b = d
      · subst hd
        rw [if_pos rfl]
        exact (decidedBy_eq_self_iff.mpr (by cases unknown <;> simp)).symm
      · have hb : ¬ d = b := fun h => hd h.symm
        cases unknown <;> simp [decidedBy, hd, hb]

theorem scan_start : scan d answers false = decidedBy d answers :=
  scan_eq answers false

/-- A call that has an answer, or fails for want of one. -/
def Known {ε : Type} (e : ε) (x : Except ε Bool) : Prop := x = find x.toOption e

/-- A loop that fails only for want of an answer. -/
theorem loop_eq_find {α ε : Type} {e : ε} {eval : α → Except ε Bool}
    (loop : List α → Bool → Except ε Bool)
    (hnil : ∀ unknown, loop [] unknown = if unknown then .error e else .ok !d)
    (hok : ∀ a rest unknown b, eval a = .ok b →
      loop (a :: rest) unknown = if b = d then .ok d else loop rest unknown)
    (herror : ∀ a rest unknown, eval a = .error e → loop (a :: rest) unknown = loop rest true)
    {l : List α} (hl : ∀ a ∈ l, Known e (eval a)) :
    loop l false = find (decidedBy d (l.map fun a => (eval a).toOption)) e := by
  rw [← scan_start]
  generalize false = unknown
  induction l generalizing unknown with
  | nil =>
    rw [hnil]
    cases unknown <;> rfl
  | cons a rest ih =>
    obtain ⟨ha, hrest⟩ := forall_mem_cons.mp hl
    rw [map_cons]
    cases hv : (eval a).toOption with
    | none => exact (herror a rest unknown (by rw [ha, hv]; rfl)).trans (ih hrest true)
    | some b =>
      rw [hok a rest unknown b (by rw [ha, hv]; rfl), scan]
      split_ifs
      · rfl
      · exact ih hrest unknown

end ThreeValued
