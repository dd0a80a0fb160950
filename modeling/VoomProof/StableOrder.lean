import Mathlib.Data.List.Sort

/-!
# Bringing a list in order without disturbing it

Two ways to order a list that keep what they do not have to change. `sortBy key` is the
stable sort by a key. `arrange key source ps` picks the elements that satisfy the first
predicate, then, of those left, the ones that satisfy the second, and so on, each time in
the order of `source`; an element is known by its key.

`gather` is the same without keys, and the facts about arranging are proved of it: gathering a
part of a list gives that part of the gathered list, gathering twice is gathering once, and
gathering by predicates that do not tell the elements apart changes nothing.
-/

namespace StableOrder
open List Nat

variable {α κ : Type}

/-! ## Sorting by a key -/

variable {a x : α} {l' ordered : List α}

section Sorting
variable [LinearOrder κ] (key : α → κ)

def sortBy (l : List α) : List α := l.insertionSort fun a b => key a ≤ key b

variable {key}

variable {l : List α}

theorem mem_sortBy : a ∈ sortBy key l ↔ a ∈ l := mem_insertionSort _

theorem sortBy_perm (l : List α) : (sortBy key l).Perm l := perm_insertionSort _ l

theorem sortBy_pairwise (l : List α) : (sortBy key l).Pairwise fun a b => key a ≤ key b := by
  exact pairwise_insertionSort _ l

theorem sortBy_of_pairwise (h : l.Pairwise fun a b => key a ≤ key b) : sortBy key l = l :=
  h.insertionSort_eq

/-- Keys that are all different are in strict order after sorting. -/
theorem sortBy_strict (h : (l.map key).Nodup) :
    (sortBy key l).Pairwise fun a b => key a < key b := by
  have hne : (sortBy key l).Pairwise fun a b => key a ≠ key b :=
    pairwise_map.mp (((sortBy_perm l).map key).nodup_iff.mpr h)
  exact (sortBy_pairwise l).imp₂ (fun _ _ hle hne => lt_of_le_of_ne hle hne) hne

/-- Lists in strict order of their keys are equal when they have the same elements. -/
theorem eq_of_perm_of_strict (h : l.Perm l') (hl : l.Pairwise fun a b => key a < key b)
    (hl' : l'.Pairwise fun a b => key a < key b) : l = l' := by
  exact h.eq_of_pairwise' hl hl'

/-- Lists with the same keys are equal when keys tell their elements apart. -/
theorem eq_of_map_eq {β : Type} {f : α → β} (h : l.map f = l'.map f)
    (hinj : ∀ a ∈ l, ∀ b ∈ l', f a = f b → a = b) : l = l' := by
  induction l generalizing l' with
  | nil => exact (map_eq_nil_iff.mp h.symm).symm
  | cons a l ih =>
    cases l' with
    | nil => cases h
    | cons b =>
      obtain ⟨hhead, htail⟩ := cons_eq_cons.mp h
      rw [hinj a mem_cons_self b mem_cons_self hhead, ih htail fun c hc d hd =>
        hinj c (mem_cons_of_mem a hc) d (mem_cons_of_mem b hd)]

theorem filter_sortBy (h : (l.map key).Nodup) (p : α → Bool) :
    (sortBy key l).filter p = sortBy key (l.filter p) := by
  have hpart : ((l.filter p).map key).Nodup := h.sublist (filter_sublist.map key)
  refine eq_of_perm_of_strict ?_ ((sortBy_strict h).filter p) (sortBy_strict hpart)
  exact ((sortBy_perm l).filter p).trans (sortBy_perm _).symm

end Sorting

/-! ## Gathering -/

def gather : List (α → Bool) → List α → List α
  | [], _ => []
  | p :: ps, l => l.filter p ++ gather ps (l.filter fun a => !p a)

@[simp] theorem gather_nil (ps : List (α → Bool)) : gather ps [] = [] := by
  induction ps with
  | nil => rfl
  | cons p _ ih => simp [gather, ih]

theorem gather_filter (ps : List (α → Bool)) (q : α → Bool) (l : List α) :
    gather ps (l.filter q) = (gather ps l).filter q := by
  induction ps generalizing l with
  | nil => rfl
  | cons p _ ih =>
    have hcomm : (l.filter q).filter (fun a => !p a) = (l.filter fun a => !p a).filter q := by
      rw [filter_filter, filter_filter]
      exact filter_congr fun a _ => Bool.and_comm _ _
    have hcomm' : (l.filter q).filter p = (l.filter p).filter q := by
      rw [filter_filter, filter_filter]
      exact filter_congr fun a _ => Bool.and_comm _ _
    rw [gather, gather, filter_append, hcomm, hcomm', ih]

variable {ps : List (α → Bool)} {l : List α}

theorem mem_of_mem_gather (h : a ∈ gather ps l) : a ∈ l := by
  induction ps generalizing l with
  | nil => cases h
  | cons p _ ih =>
    rcases mem_append.mp h with hfirst | hrest
    · exact (mem_filter.mp hfirst).1
    · exact (mem_filter.mp (ih hrest)).1

/-- What is gathered already stays as it is. -/
theorem gather_gather (ps : List (α → Bool)) (l : List α) :
    gather ps (gather ps l) = gather ps l := by
  induction ps generalizing l with
  | nil => rfl
  | cons p ps ih =>
    have hfirst : (gather (p :: ps) l).filter p = l.filter p := by
      rw [gather, filter_append, ← gather_filter]
      simp
    have hrest : (gather (p :: ps) l).filter (fun a => !p a) =
        gather ps (l.filter fun a => !p a) := by
      rw [gather, filter_append, ← gather_filter]
      simp
    rw [gather, hfirst, hrest, ih]
    rfl

/-- Predicates that do not tell the elements apart. -/
theorem gather_of_const (hconst : ∀ p ∈ ps, (∀ a ∈ l, p a = true) ∨ ∀ a ∈ l, p a = false)
    (hsome : ∃ p ∈ ps, ∀ a ∈ l, p a = true) : gather ps l = l := by
  by_cases hl : l = []
  · rw [hl, gather_nil]
  obtain ⟨x, hx⟩ := exists_mem_of_ne_nil l hl
  induction ps with
  | nil => obtain ⟨p, hp, -⟩ := hsome; cases hp
  | cons p _ ih =>
    rw [gather]
    rcases hconst p mem_cons_self with hall | hnone
    · have hrest : (l.filter fun a => !p a) = [] :=
        filter_eq_nil_iff.mpr fun a ha => by simp [hall a ha]
      rw [filter_eq_self.mpr hall, hrest, gather_nil, append_nil]
    · have hfirst : l.filter p = [] := filter_eq_nil_iff.mpr fun a ha => by simp [hnone a ha]
      have hrest : (l.filter fun a => !p a) = l :=
        filter_eq_self.mpr fun a ha => by simp [hnone a ha]
      rw [hfirst, hrest]
      refine ih (fun q hq => hconst q (mem_cons_of_mem p hq)) ?_
      obtain ⟨q, hq, hall⟩ := hsome
      rcases mem_cons.mp hq with rfl | hq
      · have := hall x hx
        rw [hnone x hx] at this
        cases this
      · exact ⟨q, hq, hall⟩

/-- With a predicate for every element nothing is lost. -/
theorem gather_perm (h : ∀ a ∈ l, ∃ p ∈ ps, p a = true) : (gather ps l).Perm l := by
  induction ps generalizing l with
  | nil =>
    cases l with
    | nil => exact .nil
    | cons a l => obtain ⟨p, hp, -⟩ := h a mem_cons_self; cases hp
  | cons p ps ih =>
    have hrest : (gather ps (l.filter fun a => !p a)).Perm (l.filter fun a => !p a) := by
      refine ih fun a ha => ?_
      obtain ⟨hmem, hno⟩ := mem_filter.mp ha
      obtain ⟨q, hq, hqa⟩ := h a hmem
      rcases mem_cons.mp hq with rfl | hq
      · rw [hqa] at hno; cases hno
      · exact ⟨q, hq, hqa⟩
    exact (hrest.append_left _).trans (filter_append_perm p l)

theorem gather_congr {qs : List (α → Bool)} {S : α → Prop}
    (h : List.Forall₂ (fun p q => ∀ a, S a → p a = q a) ps qs) (hl : ∀ a ∈ l, S a) :
    gather ps l = gather qs l := by
  induction h generalizing l with
  | nil => rfl
  | @cons p q _ _ hpq _ ih =>
    have hfirst : l.filter p = l.filter q := filter_congr fun a ha => hpq a (hl a ha)
    have hleft : (l.filter fun a => !p a) = l.filter fun a => !q a :=
      filter_congr fun a ha => by rw [hpq a (hl a ha)]
    rw [gather, hleft]
    congr 1
    exact ih fun a ha => hl a (mem_filter.mp ha).1

theorem gather_map {β : Type} (f : α → β) (ps : List (β → Bool)) (l : List α) :
    gather ps (l.map f) = (gather (ps.map (· ∘ f)) l).map f := by
  induction ps generalizing l with
  | nil => rfl
  | cons p _ ih =>
    rw [map_cons, gather, gather, map_append, filter_map, filter_map, ih]
    rfl

/-! ## The first of the smallest -/

/-- The first element of the list whose rank no other is below. -/
def IsFirstMin (rank : α → Nat) : List α → α → Prop
  | [], _ => False
  | a :: l, m => (m = a ∧ ∀ b ∈ l, rank a ≤ rank b) ∨ (rank m < rank a ∧ IsFirstMin rank l m)

namespace IsFirstMin
variable {rank : α → Nat} {l : List α} {m m' : α}

section
variable (h : IsFirstMin rank l m)
include h

theorem mem : m ∈ l := by
  induction l with
  | nil => exact h.elim
  | cons a l ih =>
    rcases h with ⟨rfl, -⟩ | ⟨-, h⟩
    · exact mem_cons_self
    · exact mem_cons_of_mem a (ih h)

theorem le : ∀ b ∈ l, rank m ≤ rank b := by
  induction l with
  | nil => exact h.elim
  | cons a l ih =>
    rcases h with ⟨rfl, hall⟩ | ⟨hlt, h⟩
    · exact forall_mem_cons.mpr ⟨le_refl _, hall⟩
    · exact forall_mem_cons.mpr ⟨le_of_lt hlt, ih h⟩

theorem unique (h' : IsFirstMin rank l m') : m = m' := by
  induction l with
  | nil => exact h.elim
  | cons a l ih =>
    rcases h with ⟨rfl, hall⟩ | ⟨hlt, h⟩ <;> rcases h' with ⟨rfl, hall'⟩ | ⟨hlt', h'⟩
    · rfl
    · exact absurd hlt' (not_lt.mpr (hall m' h'.mem))
    · exact absurd hlt (not_lt.mpr (hall' m h.mem))
    · exact ih h h'

theorem filter {p : α → Bool} (hp : p m = true) : IsFirstMin rank (l.filter p) m := by
  induction l with
  | nil => exact h.elim
  | cons a l ih =>
    rcases h with ⟨rfl, hall⟩ | ⟨hlt, h⟩
    · rw [filter_cons, if_pos hp]
      exact .inl ⟨rfl, fun b hb => hall b (mem_filter.mp hb).1⟩
    · rw [filter_cons]
      split
      · exact .inr ⟨hlt, ih h⟩
      · exact ih h

end

theorem map {β : Type} {f : α → β} {rank : β → Nat} (h : IsFirstMin (rank ∘ f) l m) :
    IsFirstMin rank (l.map f) (f m) := by
  induction l with
  | nil => exact h.elim
  | cons a l ih =>
    rcases h with ⟨rfl, hall⟩ | ⟨hlt, h⟩
    · exact .inl ⟨rfl, forall_mem_map.mpr hall⟩
    · exact .inr ⟨hlt, ih h⟩

/-- The head of the list, when all ranks are equal. -/
theorem of_head (h : ∀ b ∈ l, rank a ≤ rank b) : IsFirstMin rank (a :: l) a :=
  .inl ⟨rfl, h⟩

/-- An element moved to the front changes the first of the smallest just when it has the
same rank. -/
theorem move_front {p : α → Bool} (h : IsFirstMin rank l m) (hp : ∀ a ∈ l, p a = false → a = x) :
    (x = m ∨ rank m < rank x → IsFirstMin rank (x :: l.filter p) m) ∧
      (¬ (x = m ∨ rank m < rank x) → IsFirstMin rank (x :: l.filter p) x) := by
  constructor
  · rintro (rfl | hlt)
    · exact of_head fun b hb => h.le b (mem_filter.mp hb).1
    · refine .inr ⟨hlt, h.filter ?_⟩
      cases hm : p m
      · rw [hp m h.mem hm] at hlt
        exact absurd hlt (lt_irrefl _)
      · rfl
  · intro hnot
    refine of_head fun b hb => ?_
    have hle : rank x ≤ rank m := not_lt.mp fun hlt => hnot (.inr hlt)
    exact le_trans hle (h.le b (mem_filter.mp hb).1)

end IsFirstMin

/-! ## Arranging -/

section Arrange
variable [DecidableEq κ] (key : α → κ)

/-- Append the elements of `source` that satisfy `p` and were not picked before. -/
def pushMatching (source : List α) (p : α → Bool) (ordered : List α) : List α :=
  source.foldl
    (fun ordered a => if p a ∧ key a ∉ ordered.map key then ordered ++ [a] else ordered) ordered

def arrange (source : List α) (ps : List (α → Bool)) : List α :=
  ps.foldl (fun ordered p => pushMatching key source p ordered) []

variable {key}

variable {source : List α}

theorem pushMatching_eq (h : (source.map key).Nodup) (p : α → Bool) (ordered : List α) :
    pushMatching key source p ordered =
      ordered ++ source.filter fun a => p a ∧ key a ∉ ordered.map key := by
  unfold pushMatching
  induction source generalizing ordered with
  | nil => simp
  | cons a l ih =>
    obtain ⟨hnew, hrest⟩ := nodup_cons.mp h
    rw [foldl_cons, ih hrest]
    by_cases hpick : p a ∧ key a ∉ ordered.map key
    · have hhead : decide (p a ∧ key a ∉ ordered.map key) = true := decide_eq_true hpick
      rw [if_pos hpick, filter_cons, if_pos hhead, append_assoc, singleton_append]
      congr 2
      refine filter_congr fun b hb => ?_
      have hne : key b ≠ key a := fun heq => hnew (heq ▸ mem_map_of_mem hb)
      simp [hne]
    · have hhead : ¬ decide (p a ∧ key a ∉ ordered.map key) = true := by simpa using hpick
      rw [if_neg hpick, filter_cons, if_neg hhead]

/-- The passes that are left, when `picked` says what was picked before. -/
theorem foldl_pushMatching (h : (source.map key).Nodup) {ps : List (α → Bool)} (picked : α → Bool)
    (hpicked : ∀ a ∈ source, key a ∈ ordered.map key ↔ picked a = true) :
    ps.foldl (fun ordered p => pushMatching key source p ordered) ordered =
      ordered ++ gather ps (source.filter fun a => !picked a) := by
  induction ps generalizing ordered picked with
  | nil => simp [gather]
  | cons p _ ih =>
    have hpass : (source.filter fun a => p a ∧ key a ∉ ordered.map key) =
        (source.filter fun a => !picked a).filter p := by
      rw [filter_filter]
      refine filter_congr fun a ha => ?_
      cases hp : picked a <;> simp [hpicked a ha, hp]
    rw [foldl_cons, pushMatching_eq h, hpass, ih (fun a => picked a || p a)]
    · have hleft : (source.filter fun a => !(picked a || p a)) =
          (source.filter fun a => !picked a).filter fun a => !p a := by
        rw [filter_filter]
        refine filter_congr fun a _ => ?_
        cases picked a <;> cases p a <;> rfl
      rw [gather, append_assoc, hleft]
    · -- an element has been picked now if it was before, or by this pass
      intro a ha
      have hinj : ∀ b ∈ source, key b = key a → b = a :=
        fun b hb heq => inj_on_of_nodup_map h hb ha heq
      rw [map_append, mem_append, hpicked a ha, Bool.or_eq_true]
      constructor
      · rintro (hbef | hnow)
        · exact .inl hbef
        · obtain ⟨b, hb, heq⟩ := mem_map.mp hnow
          obtain ⟨hb, hpb⟩ := mem_filter.mp hb
          exact .inr (hinj b (mem_filter.mp hb).1 heq ▸ hpb)
      · rintro (hbef | hnow)
        · exact .inl hbef
        · cases hb : picked a
          · refine .inr (mem_map_of_mem (mem_filter.mpr ⟨mem_filter.mpr ⟨ha, ?_⟩, hnow⟩))
            simp [hb]
          · exact .inl rfl

theorem arrange_eq_gather (h : (source.map key).Nodup) (ps : List (α → Bool)) :
    arrange key source ps = gather ps source := by
  unfold arrange
  rw [foldl_pushMatching h (fun _ => false) (by simp)]
  simp

end Arrange

end StableOrder
