import Mathlib.Data.List.Dedup
import Mathlib.Data.List.Perm.Subperm
import Mathlib.Logic.Relation

/-!
# Reachability in a finite graph

A graph is given by the successors of each node. `reach` finds what can be reached from a node
in one step or more, by a queue: each node is queued when it is first met. With a list of all
nodes that are successors, as many rounds as it is long are enough, and what is found is exactly
the transitive closure (`mem_reach_iff`).

An edge may be added to an acyclic graph when its end does not reach its start
(`Acyclic.concat`).
-/

namespace Reachability
open List

open Relation

section Search
variable {α : Type} [DecidableEq α] (succ : α → List α)

/-- The successors of a node that are met for the first time. -/
def fresh (a : α) (seen : List α) : List α := (succ a).dedup.filter (· ∉ seen)

def visit : Nat → List α → List α → List α
  | 0, _, seen => seen
  | _ + 1, [], seen => seen
  | fuel + 1, a :: queue, seen =>
      visit fuel (queue ++ fresh succ a seen) (seen ++ fresh succ a seen)

def reach (fuel : Nat) (start : α) : List α :=
  visit succ fuel (succ start).dedup (succ start).dedup

variable {succ}

variable {seen queue nodes : List α} {fuel : Nat}

theorem mem_fresh {a b : α} : b ∈ fresh succ a seen ↔ b ∈ succ a ∧ b ∉ seen := by
  simp [fresh]

/-- What successors keep is kept of everything that is met. -/
theorem visit_sound {P : α → Prop} (hstep : ∀ a, P a → ∀ b ∈ succ a, P b)
    (hqueue : ∀ a ∈ queue, P a) (hseen : ∀ a ∈ seen, P a) :
    ∀ a ∈ visit succ fuel queue seen, P a := by
  induction fuel generalizing queue seen with
  | zero => exact hseen
  | succ _ ih =>
    cases queue with
    | nil => exact hseen
    | cons a =>
      obtain ⟨ha, hrest⟩ := forall_mem_cons.mp hqueue
      have hfresh : ∀ b ∈ fresh succ a seen, P b :=
        fun b hb => hstep a ha b (mem_fresh.mp hb).1
      exact ih (forall_mem_append.mpr ⟨hrest, hfresh⟩) (forall_mem_append.mpr ⟨hseen, hfresh⟩)

/-- With rounds left for what is queued and for what has not been met, the search ends with
the successors of everything it has met. -/
theorem visit_complete (hnodes : ∀ a, ∀ b ∈ succ a, b ∈ nodes) (hnd : seen.Nodup)
    (hsub : seen ⊆ nodes) (hfuel : queue.length + (nodes.length - seen.length) ≤ fuel)
    (hdone : ∀ a ∈ seen, a ∈ queue ∨ ∀ b ∈ succ a, b ∈ seen) :
    seen ⊆ visit succ fuel queue seen ∧
      ∀ a ∈ visit succ fuel queue seen, ∀ b ∈ succ a, b ∈ visit succ fuel queue seen := by
  induction fuel generalizing queue seen with
  | zero =>
    obtain rfl : queue = [] := length_eq_zero_iff.mp (by omega)
    exact ⟨fun a ha => ha, fun a ha => (hdone a ha).resolve_left not_mem_nil⟩
  | succ fuel ih =>
    cases queue with
    | nil => exact ⟨fun a ha => ha, fun a ha => (hdone a ha).resolve_left not_mem_nil⟩
    | cons a queue =>
      have hnew : (fresh succ a seen).Nodup := (nodup_dedup _).filter _
      have hdisjoint : seen.Disjoint (fresh succ a seen) :=
        fun b hb hfresh => (mem_fresh.mp hfresh).2 hb
      have hnd' : (seen ++ fresh succ a seen).Nodup := hnd.append hnew hdisjoint
      have hsub' : seen ++ fresh succ a seen ⊆ nodes :=
        append_subset.mpr ⟨hsub, fun b hb => hnodes a b (mem_fresh.mp hb).1⟩
      have hlen : (seen ++ fresh succ a seen).length ≤ nodes.length :=
        (subperm_of_subset hnd' hsub').length_le
      have hrounds : (queue ++ fresh succ a seen).length +
          (nodes.length - (seen ++ fresh succ a seen).length) ≤ fuel := by
        simp only [length_append, length_cons] at *
        omega
      have hdone' : ∀ b ∈ seen ++ fresh succ a seen, b ∈ queue ++ fresh succ a seen ∨
          ∀ c ∈ succ b, c ∈ seen ++ fresh succ a seen := by
        intro b hb
        rcases mem_append.mp hb with hold | hfresh
        · rcases hdone b hold with hqueue | hsucc
          · rcases mem_cons.mp hqueue with rfl | hqueue
            · -- the node that is looked at now
              refine .inr fun c hc => ?_
              by_cases hmet : c ∈ seen
              · exact mem_append_left _ hmet
              · exact mem_append_right _ (mem_fresh.mpr ⟨hc, hmet⟩)
            · exact .inl (mem_append_left _ hqueue)
          · exact .inr fun c hc => mem_append_left _ (hsucc c hc)
        · exact .inl (mem_append_right _ hfresh)
      obtain ⟨hleft, hclosed⟩ := ih hnd' hsub' hrounds hdone'
      exact ⟨fun b hb => hleft (mem_append_left _ hb), hclosed⟩

/-- The search finds what can be reached in one step or more. -/
theorem mem_reach_iff (hnodes : ∀ a, ∀ b ∈ succ a, b ∈ nodes) (hfuel : nodes.length ≤ fuel)
    {start b : α} : b ∈ reach succ fuel start ↔ TransGen (fun a b => b ∈ succ a) start b := by
  constructor
  · refine visit_sound (fun a ha c hc => ha.tail hc) ?_ ?_ b
    all_goals exact fun a ha => .single (mem_dedup.mp ha)
  · intro hpath
    have hsub : (succ start).dedup ⊆ nodes := fun a ha => hnodes start a (mem_dedup.mp ha)
    have hlen : (succ start).dedup.length ≤ nodes.length :=
      (subperm_of_subset (nodup_dedup _) hsub).length_le
    have hrounds : (succ start).dedup.length +
        (nodes.length - (succ start).dedup.length) ≤ fuel := by
      omega
    obtain ⟨hfirst, hclosed⟩ :=
      visit_complete hnodes (nodup_dedup (succ start)) hsub hrounds fun a ha => .inl ha
    induction hpath with
    | single hb => exact hfirst (mem_dedup.mpr hb)
    | tail _ hstep ih => exact hclosed _ ih _ hstep

end Search

/-! ## Acyclic graphs -/

section Acyclic
variable {α : Type}

/-- No node reaches itself. -/
def Acyclic (edges : List (α × α)) : Prop :=
  ∀ a, ¬ TransGen (fun a b => (a, b) ∈ edges) a a

theorem acyclic_nil : Acyclic ([] : List (α × α)) := by
  intro a h
  cases h with
  | single h => cases h
  | tail _ h => cases h

variable {edges : List (α × α)}

/-- A path in a graph with one more edge takes the edge or does not. -/
theorem path_concat {s t a b : α} (h : TransGen (fun a b => (a, b) ∈ edges ++ [(s, t)]) a b) :
    TransGen (fun a b => (a, b) ∈ edges) a b ∨
      (ReflTransGen (fun a b => (a, b) ∈ edges) a s ∧
        ReflTransGen (fun a b => (a, b) ∈ edges) t b) := by
  induction h with
  | single h =>
    rcases mem_append.mp h with hold | hnew
    · exact .inl (.single hold)
    · obtain ⟨rfl, rfl⟩ := Prod.mk.inj (mem_singleton.mp hnew)
      exact .inr ⟨.refl, .refl⟩
  | tail _ h ih =>
    rcases mem_append.mp h with hold | hnew
    · rcases ih with hpath | ⟨hto, hfrom⟩
      · exact .inl (hpath.tail hold)
      · exact .inr ⟨hto, hfrom.tail hold⟩
    · obtain ⟨rfl, rfl⟩ := Prod.mk.inj (mem_singleton.mp hnew)
      rcases ih with hpath | ⟨hto, -⟩
      · exact .inr ⟨hpath.to_reflTransGen, .refl⟩
      · exact .inr ⟨hto, .refl⟩

theorem Acyclic.concat {s t : α} (h : Acyclic edges) (hne : s ≠ t)
    (hback : ¬ TransGen (fun a b => (a, b) ∈ edges) t s) : Acyclic (edges ++ [(s, t)]) := by
  intro a hcycle
  rcases path_concat hcycle with hold | ⟨hto, hfrom⟩
  · exact h a hold
  · rcases reflTransGen_iff_eq_or_transGen.mp (hfrom.trans hto) with heq | hpath
    · exact hne heq
    · exact hback hpath

end Acyclic

end Reachability
