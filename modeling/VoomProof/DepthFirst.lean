import Mathlib.Data.List.Perm.Subperm
import Mathlib.Logic.Relation

/-!
# Depth-first search

Two searches of a graph given by the successors of its nodes. `search` looks for a cycle: it
keeps the path it has come by and the nodes it has finished, and stops when it meets a node of
its own path. `visit` lists nodes in the order in which it finishes them; it marks a node when
it enters it, and does not look for cycles.

With a step of fuel for every node that has successors, and two more, neither is cut
short: a path has no node twice, and all its nodes but the last have a successor. Then
`search` meets a cycle exactly when one can be reached (`search_eq_none_iff`), and in a
graph without cycles `visit` lists every node behind its successors (`visitAll_spec`).
-/

namespace DepthFirst
open Option List

open Relation

variable {α : Type} [DecidableEq α] (succ : α → List α)

/-- The nodes finished after a search from `a`, or `none` when it meets a cycle. -/
def search : Nat → List α → List α → α → Option (List α)
  | 0, _, _, _ => none
  | fuel + 1, path, done, a =>
      if a ∈ done then some done
      else if a ∈ path then none
      else ((succ a).foldlM (search fuel (a :: path)) done).map (a :: ·)

/-- The nodes entered and the order in which they are finished, after a visit of `a`. -/
def visit : Nat → List α × List α → α → List α × List α
  | 0, s, _ => s
  | fuel + 1, s, a =>
      if a ∈ s.1 then s
      else
        let s := (succ a).foldl (visit fuel) (a :: s.1, s.2)
        (s.1, s.2 ++ [a])

omit [DecidableEq α] in
def Edge (a b : α) : Prop := b ∈ succ a

/-! ## Looking for a cycle -/

/-- Nodes with all that can be reached from them, and no cycle among them. -/
structure Finished (done : List α) : Prop where
  closed : ∀ a ∈ done, ∀ b ∈ succ a, b ∈ done
  acyclic : ∀ a ∈ done, ¬ TransGen (Edge succ) a a

/-- What a search of the nodes `as` leaves when it meets no cycle. -/
structure Extends (path done done' as : List α) : Prop where
  finished : Finished succ done'
  keeps : ∀ a ∈ done, a ∈ done'
  reaches : ∀ a ∈ as, a ∈ done'
  avoids : ∀ a ∈ path, a ∉ done'

variable {succ}

variable {done : List α} {a : α}

omit [DecidableEq α] in
theorem Finished.mem_of_reach (h : Finished succ done) {b : α} (ha : a ∈ done)
    (hab : ReflTransGen (Edge succ) a b) : b ∈ done := by
  induction hab with
  | refl => exact ha
  | tail _ hedge ih => exact h.closed _ ih _ hedge

omit [DecidableEq α] in
/-- A node whose successors are finished is finished, unless it is one of those. -/
theorem Finished.cons (h : Finished succ done) (hsucc : ∀ b ∈ succ a, b ∈ done) (hout : a ∉ done) :
    Finished succ (a :: done) := by
  refine ⟨?_, ?_⟩
  · intro b hb c hc
    rcases mem_cons.mp hb with rfl | hb
    · exact mem_cons_of_mem _ (hsucc c hc)
    · exact mem_cons_of_mem _ (h.closed b hb c hc)
  · intro b hb hcycle
    rcases mem_cons.mp hb with rfl | hb
    · obtain ⟨c, hedge, hreach⟩ := TransGen.head'_iff.mp hcycle
      exact hout (h.mem_of_reach (hsucc c hedge) hreach)
    · exact h.acyclic b hb hcycle

variable {fuel : Nat} {path : List α}

theorem foldlM_search_some
    (hstep : ∀ {done done' : List α} {a : α}, search succ fuel path done a = some done' →
      Finished succ done → (∀ b ∈ path, b ∉ done) → Extends succ path done done' [a])
    {as done' : List α} (h : as.foldlM (search succ fuel path) done = some done')
    (hdone : Finished succ done) (hpath : ∀ b ∈ path, b ∉ done) :
    Extends succ path done done' as := by
  induction as generalizing done with
  | nil =>
    cases h
    exact ⟨hdone, fun _ ha => ha, fun _ ha => (nomatch ha), hpath⟩
  | cons a _ ih =>
    obtain ⟨_, hfirst, hrest⟩ := bind_eq_some_iff.mp h
    have hone := hstep hfirst hdone hpath
    have hmore := ih hrest hone.finished hone.avoids
    refine ⟨hmore.finished, fun b hb => hmore.keeps b (hone.keeps b hb), ?_, hmore.avoids⟩
    refine forall_mem_cons.mpr ⟨?_, hmore.reaches⟩
    exact hmore.keeps a (hone.reaches a mem_cons_self)

theorem search_some {done' : List α} (h : search succ fuel path done a = some done')
    (hdone : Finished succ done) (hpath : ∀ b ∈ path, b ∉ done) :
    Extends succ path done done' [a] := by
  induction fuel generalizing path done done' a with
  | zero => cases h
  | succ _ ih =>
    rw [search] at h
    split at h
    case isTrue hmem =>
      cases h
      exact ⟨hdone, fun _ hb => hb, by simpa using hmem, hpath⟩
    case isFalse hmem =>
    split at h
    case isTrue => cases h
    case isFalse hoff =>
    obtain ⟨next, hfold, rfl⟩ := map_eq_some_iff.mp h
    have hdeep : ∀ b ∈ a :: path, b ∉ done := forall_mem_cons.mpr ⟨hmem, hpath⟩
    have hsucc := foldlM_search_some (fun hsearch => ih hsearch) hfold hdone hdeep
    have hout : a ∉ next := hsucc.avoids a mem_cons_self
    refine ⟨hsucc.finished.cons hsucc.reaches hout, ?_, ?_, ?_⟩
    · exact fun b hb => mem_cons_of_mem a (hsucc.keeps b hb)
    · exact fun b hb => mem_cons.mpr (.inl (mem_singleton.mp hb))
    · intro b hb hmem'
      rcases mem_cons.mp hmem' with rfl | hnext
      · exact hoff hb
      · exact hsucc.avoids b (mem_cons_of_mem a hb) hnext

/-- Where a fold of searches stops, one of its searches has stopped. -/
theorem foldlM_search_none {as : List α} (h : as.foldlM (search succ fuel path) done = none) :
    ∃ a ∈ as, ∃ next, search succ fuel path next a = none := by
  induction as generalizing done with
  | nil => cases h
  | cons a _ ih =>
    rw [foldlM_cons] at h
    rcases hsearch : search succ fuel path done a with _ | _
    · exact ⟨a, mem_cons_self, done, hsearch⟩
    · rw [hsearch] at h
      obtain ⟨b, hb, next', hnone⟩ := ih h
      exact ⟨b, mem_cons_of_mem a hb, next', hnone⟩

variable (succ) in
/-- The nodes on the way to `a`, and fuel for those that are left. -/
structure Way (nodes : List α) (fuel : Nat) (path : List α) (a : α) : Prop where
  nodup : path.Nodup
  sub : path ⊆ nodes
  fuel : nodes.length + 2 ≤ fuel + path.length
  leads : ∀ b ∈ path, TransGen (Edge succ) b a

section Fuel
variable {nodes : List α}

omit [DecidableEq α] in
theorem Way.start {fuel : Nat} (hfuel : nodes.length + 2 ≤ fuel) (a : α) :
    Way succ nodes fuel [] a :=
  ⟨.nil, nil_subset nodes, hfuel, fun _ hb => (nomatch hb)⟩

omit [DecidableEq α] in
theorem Way.not_zero {path : List α} {a : α} : ¬ Way succ nodes 0 path a := by
  intro h
  have hlen : path.length ≤ nodes.length := (subperm_of_subset h.nodup h.sub).length_le
  have hfuel := h.fuel
  omega

variable (hnodes : ∀ a, succ a ≠ [] → a ∈ nodes)
include hnodes

omit [DecidableEq α] in
/-- The way goes on from a node that is not on it. -/
theorem Way.next {fuel : Nat} {path : List α} {a b : α} (h : Way succ nodes (fuel + 1) path a)
    (hoff : a ∉ path) (hb : b ∈ succ a) : Way succ nodes fuel (a :: path) b := by
  have hedge : Edge succ a b := hb
  refine ⟨nodup_cons.mpr ⟨hoff, h.nodup⟩, ?_, ?_, ?_⟩
  · exact cons_subset.mpr ⟨hnodes a (ne_nil_of_mem hb), h.sub⟩
  · have hfuel := h.fuel
    rw [length_cons]
    omega
  · exact forall_mem_cons.mpr ⟨.single hedge, fun c hc => (h.leads c hc).tail hedge⟩

theorem search_none {fuel : Nat} {path done : List α} {a : α}
    (h : search succ fuel path done a = none) (hway : Way succ nodes fuel path a) :
    ∃ b, ReflTransGen (Edge succ) a b ∧ TransGen (Edge succ) b b := by
  induction fuel generalizing path done a with
  | zero => exact absurd hway Way.not_zero
  | succ _ ih =>
    rw [search] at h
    split at h
    case isTrue => cases h
    case isFalse =>
    split at h
    case isTrue hon => exact ⟨a, .refl, hway.leads a hon⟩
    case isFalse hoff =>
    obtain ⟨b, hb, next, hsearch⟩ := foldlM_search_none (map_eq_none_iff.mp h)
    obtain ⟨c, hreach, hcycle⟩ := ih hsearch (hway.next hnodes hoff hb)
    exact ⟨c, .head hb hreach, hcycle⟩

/-- A search meets a cycle exactly when it can reach one. -/
theorem search_eq_none_iff {fuel : Nat} (hfuel : nodes.length + 2 ≤ fuel) (a : α) :
    search succ fuel [] [] a = none ↔
      ∃ b, ReflTransGen (Edge succ) a b ∧ TransGen (Edge succ) b b := by
  constructor
  · intro h
    exact search_none hnodes h (.start hfuel a)
  · rintro ⟨b, hreach, hcycle⟩
    by_contra hsome
    obtain ⟨done, hdone⟩ := ne_none_iff_exists'.mp hsome
    have hnil : Finished succ ([] : List α) :=
      ⟨fun a ha => (nomatch ha), fun a ha => (nomatch ha)⟩
    have hext := search_some hdone hnil fun b hb => (nomatch hb)
    have hb : b ∈ done := hext.finished.mem_of_reach (hext.reaches a mem_cons_self) hreach
    exact hext.finished.acyclic b hb hcycle

end Fuel

/-! ## Listing nodes behind their successors -/

variable (succ) in
/-- The state of a visit whose nodes in `grey` have been entered and not finished. -/
structure Ordered (grey : List α) (s : List α × List α) : Prop where
  nodup : s.2.Nodup
  entered : ∀ a, a ∈ s.1 ↔ a ∈ s.2 ∨ a ∈ grey
  apart : ∀ a ∈ grey, a ∉ s.2
  behind : ∀ l a l', s.2 = l ++ a :: l' → ∀ b ∈ succ a, b ∈ l

variable {grey : List α} {s : List α × List α}

omit [DecidableEq α] in
theorem Ordered.enter (h : Ordered succ grey s) (ha : a ∉ s.1) :
    Ordered succ (a :: grey) (a :: s.1, s.2) := by
  have hout : a ∉ s.2 := fun hmem => ha ((h.entered a).mpr (.inl hmem))
  refine ⟨h.nodup, ?_, forall_mem_cons.mpr ⟨hout, h.apart⟩, h.behind⟩
  intro b
  rw [mem_cons, mem_cons, h.entered b]
  tauto

omit [DecidableEq α] in
theorem Ordered.finish (h : Ordered succ (a :: grey) s) (hnew : a ∉ grey)
    (hsucc : ∀ b ∈ succ a, b ∈ s.2) : Ordered succ grey (s.1, s.2 ++ [a]) := by
  have hout : a ∉ s.2 := h.apart a mem_cons_self
  refine ⟨?_, ?_, ?_, ?_⟩
  · exact nodup_append.mpr ⟨h.nodup, by simp, fun b hb c hc => by
      rintro rfl
      exact hout (mem_singleton.mp hc ▸ hb)⟩
  · intro b
    have hentered := h.entered b
    rw [mem_cons] at hentered
    rw [mem_append, mem_singleton]
    tauto
  · intro b hb hmem
    rcases mem_append.mp hmem with hmem | hmem
    · exact h.apart b (mem_cons_of_mem a hb) hmem
    · exact hnew (mem_singleton.mp hmem ▸ hb)
  · -- the last node is `a`, all others were listed before
    intro l b l' heq c hc
    rcases eq_nil_or_concat l' with rfl | ⟨l'', z, rfl⟩
    · obtain ⟨rfl, hlast⟩ := append_inj' heq rfl
      obtain rfl : a = b := by simpa using hlast
      exact hsucc c hc
    · have heq' : s.2 ++ [a] = (l ++ b :: l'') ++ [z] := by simpa using heq
      obtain ⟨hs, -⟩ := append_inj' heq' rfl
      exact h.behind l b l'' hs c hc

variable (succ) in
/-- What a visit of the nodes `as` does to a state. -/
structure Visited (grey : List α) (s s' : List α × List α) (as : List α) : Prop where
  ordered : Ordered succ grey s'
  keeps : ∀ a ∈ s.2, a ∈ s'.2
  reaches : ∀ a ∈ as, a ∈ s'.2

theorem foldl_visit {as : List α}
    (hstep : ∀ a ∈ as, ∀ s, Ordered succ grey s → Visited succ grey s (visit succ fuel s a) [a])
    (hs : Ordered succ grey s) : Visited succ grey s (as.foldl (visit succ fuel) s) as := by
  induction as generalizing s with
  | nil => exact ⟨hs, fun _ ha => ha, fun _ ha => (nomatch ha)⟩
  | cons a _ ih =>
    have hone := hstep a mem_cons_self s hs
    have hmore := ih (fun b hb => hstep b (mem_cons_of_mem a hb)) hone.ordered
    refine ⟨hmore.ordered, fun b hb => hmore.keeps b (hone.keeps b hb), ?_⟩
    refine forall_mem_cons.mpr ⟨?_, hmore.reaches⟩
    exact hmore.keeps a (hone.reaches a mem_cons_self)

section Acyclic
variable {nodes : List α} (hnodes : ∀ a, succ a ≠ [] → a ∈ nodes)
  (hacyclic : ∀ a, ¬ TransGen (Edge succ) a a)
include hnodes hacyclic

theorem visit_spec {fuel : Nat} {grey : List α} {s : List α × List α} {a : α}
    (hs : Ordered succ grey s) (hway : Way succ nodes fuel grey a) :
    Visited succ grey s (visit succ fuel s a) [a] := by
  induction fuel generalizing grey s a with
  | zero => exact absurd hway Way.not_zero
  | succ fuel ih =>
    have hoff : a ∉ grey := fun hon => hacyclic a (hway.leads a hon)
    rw [visit]
    split
    case isTrue hmem =>
      -- a node entered before is finished: it is none of those that lead to `a`
      refine ⟨hs, fun _ hb => hb, fun b hb => ?_⟩
      rw [mem_singleton.mp hb]
      exact ((hs.entered a).mp hmem).resolve_right hoff
    case isFalse hmem =>
    have hstep : ∀ b ∈ succ a, ∀ t, Ordered succ (a :: grey) t →
        Visited succ (a :: grey) t (visit succ fuel t b) [b] :=
      fun b hb t ht => ih ht (hway.next hnodes hoff hb)
    have hsucc := foldl_visit hstep (hs.enter hmem)
    refine ⟨hsucc.ordered.finish hoff hsucc.reaches, ?_, ?_⟩
    · exact fun b hb => mem_append_left _ (hsucc.keeps b hb)
    · exact fun b hb => mem_append_right _ hb

/-- All of `as` is listed, nothing twice, and every node behind its successors. -/
theorem visitAll_spec {fuel : Nat} (hfuel : nodes.length + 2 ≤ fuel) (as : List α) :
    Visited succ [] ([], []) (as.foldl (visit succ fuel) ([], [])) as := by
  have hnil : Ordered succ [] (([], []) : List α × List α) := by
    refine ⟨.nil, fun a => by simp, fun a ha => (nomatch ha), ?_⟩
    intro l a l' h
    exact absurd h (append_ne_nil_of_right_ne_nil l (cons_ne_nil a l')).symm
  refine foldl_visit (fun a _ s hs => ?_) hnil
  exact visit_spec hnodes hacyclic hs (.start hfuel a)

end Acyclic

/-- Nothing is listed that cannot be reached. -/
theorem visit_mem {P : α → Prop} (hP : ∀ a, P a → ∀ b ∈ succ a, P b) (ha : P a)
    (hs : ∀ b ∈ s.2, P b) : ∀ b ∈ (visit succ fuel s a).2, P b := by
  induction fuel generalizing s a with
  | zero => exact hs
  | succ fuel ih =>
    rw [visit]
    split
    case isTrue => exact hs
    case isFalse =>
    have hfold : ∀ (as : List α) (t : List α × List α), (∀ b ∈ as, P b) → (∀ b ∈ t.2, P b) →
        ∀ b ∈ (as.foldl (visit succ fuel) t).2, P b := by
      intro as
      induction as with
      | nil => exact fun t _ ht => ht
      | cons c _ ihas =>
        intro t has ht
        have hnext := ih (has c mem_cons_self) ht
        exact ihas _ (fun b hb => has b (mem_cons_of_mem c hb)) hnext
    intro b hb
    rcases mem_append.mp hb with hb | hb
    · exact hfold (succ a) (a :: s.1, s.2) (hP a ha) hs b hb
    · exact mem_singleton.mp hb ▸ ha

end DepthFirst
