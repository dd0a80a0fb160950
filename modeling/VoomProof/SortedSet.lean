import Mathlib.Data.List.Sort
import Mathlib.Order.Defs.LinearOrder

/-!
# Finite sets in order

A finite set over a linear order, kept as the list of its elements in ascending order
without repetition, so that a set is read in one order only and equal sets are equal lists.
What two sets hold beyond each other is their `difference`, and sets of which neither holds
more are equal (`eq_of_difference_isEmpty`).
-/

/-- A finite set: its elements, in ascending order. -/
structure SortedSet (α : Type) [LinearOrder α] where
  elems : List α
  sorted : elems.Pairwise (· < ·)

namespace SortedSet
open List

variable {α : Type} [LinearOrder α] {l : List α} {s t : SortedSet α}

instance : DecidableEq (SortedSet α) := fun s t =>
  decidable_of_iff (s.elems = t.elems)
    ⟨fun h => by cases s; cases t; cases h; rfl, fun h => congrArg elems h⟩

instance : Membership α (SortedSet α) := ⟨fun s a => a ∈ s.elems⟩

instance (a : α) (s : SortedSet α) : Decidable (a ∈ s) :=
  inferInstanceAs (Decidable (a ∈ s.elems))

instance : EmptyCollection (SortedSet α) := ⟨⟨[], .nil⟩⟩

def isEmpty (s : SortedSet α) : Bool := s.elems.isEmpty

/-! ## Adding elements -/

/-- Put an element in its place, unless it is there. -/
def place (a : α) : List α → List α
  | [] => [a]
  | b :: l => if a < b then a :: b :: l else if a = b then b :: l else b :: place a l

theorem mem_place {a b : α} : b ∈ place a l ↔ b = a ∨ b ∈ l := by
  induction l with
  | nil => simp [place]
  | cons c l ih =>
    rw [place]
    split
    · exact mem_cons
    · split
      next heq =>
        subst heq
        exact ⟨.inr, fun h => h.elim (fun h => h ▸ mem_cons_self) id⟩
      · rw [mem_cons, ih, mem_cons, or_left_comm]

theorem place_pairwise {a : α} (h : l.Pairwise (· < ·)) : (place a l).Pairwise (· < ·) := by
  induction l with
  | nil => exact pairwise_singleton _ a
  | cons b l ih =>
    obtain ⟨hb, hl⟩ := pairwise_cons.mp h
    rw [place]
    split
    next hlt =>
      refine pairwise_cons.mpr ⟨fun c hc => ?_, h⟩
      rcases mem_cons.mp hc with rfl | hc
      · exact hlt
      · exact hlt.trans (hb c hc)
    next hnot =>
    split
    · exact h
    next hne =>
    refine pairwise_cons.mpr ⟨fun c hc => ?_, ih hl⟩
    rcases mem_place.mp hc with rfl | hc
    · exact lt_of_le_of_ne (not_lt.mp hnot) (Ne.symm hne)
    · exact hb c hc

def insert (a : α) (s : SortedSet α) : SortedSet α := ⟨place a s.elems, place_pairwise s.sorted⟩

/-- The set with the elements of a list. -/
def extend (s : SortedSet α) (l : List α) : SortedSet α := l.foldl (fun s a => s.insert a) s

def ofList (l : List α) : SortedSet α := extend ∅ l

theorem mem_extend {a : α} : a ∈ (s.extend l).elems ↔ a ∈ s.elems ∨ a ∈ l := by
  induction l generalizing s with
  | nil => simp [extend]
  | cons b l ih =>
    rw [extend, foldl_cons, ← extend, ih, insert, mem_place, mem_cons]
    tauto

theorem mem_ofList {a : α} : a ∈ (ofList l).elems ↔ a ∈ l := by
  rw [ofList, mem_extend]
  exact or_iff_right not_mem_nil

/-! ## Differences -/

/-- The elements of `s` that are not in `t`. -/
def difference (s t : SortedSet α) : SortedSet α :=
  ⟨s.elems.filter (· ∉ t), s.sorted.filter _⟩

theorem nodup (s : SortedSet α) : s.elems.Nodup := s.sorted.imp ne_of_lt

theorem ext_elems (h : ∀ a, a ∈ s.elems ↔ a ∈ t.elems) : s = t := by
  have hperm : s.elems.Perm t.elems := (perm_ext_iff_of_nodup s.nodup t.nodup).mpr h
  have heq : s.elems = t.elems := hperm.eq_of_pairwise' s.sorted t.sorted
  cases s
  cases t
  cases heq
  rfl

/-- Elements that are there already change nothing. -/
theorem extend_of_mem (h : ∀ a ∈ l, a ∈ s.elems) : s.extend l = s :=
  ext_elems fun a => mem_extend.trans ⟨fun hor => hor.elim id (h a), .inl⟩

theorem difference_isEmpty : (s.difference t).isEmpty = true ↔ ∀ a ∈ s.elems, a ∈ t.elems := by
  simp [difference, isEmpty, Membership.mem]

/-- Sets of which neither holds more than the other are equal. -/
theorem eq_of_difference_isEmpty (h : (s.difference t).isEmpty = true)
    (h' : (t.difference s).isEmpty = true) : s = t :=
  ext_elems fun a => ⟨difference_isEmpty.mp h a, difference_isEmpty.mp h' a⟩

end SortedSet
