import Mathlib.Data.List.Nodup

/-!
# Fallible calls

A call that may fail returns `Except ε α`, and a transaction is a `do` block of such calls: the
first error ends it. The lemmas here take a successful block apart, step by step; `require` and
`find` are the two checks in such blocks, of a condition and of a row.
-/

namespace Fallible
open Option List

variable {ε α β : Type} {a : α} {x : Except ε α} {f : α → Except ε β} {l : List α}

/-- Go on only when the condition holds. -/
def require (p : Prop) [Decidable p] (e : ε) : Except ε Unit :=
  if p then .ok () else .error e

/-- Go on only when the row is there. -/
def find (row : Option α) (e : ε) : Except ε α :=
  match row with
  | some a => .ok a
  | none => .error e

@[simp] theorem require_ok {p : Prop} [Decidable p] {e : ε} {u : Unit} :
    require p e = .ok u ↔ p := by
  unfold require
  split <;> simp [*]

@[simp] theorem find_ok {row : Option α} {e : ε} : find row e = .ok a ↔ row = some a := by
  cases row <;> simp [find]

theorem some_unique {row : Option α} {b : α} (h : row = some a) (h' : row = some b) : a = b :=
  some.inj (h.symm.trans h')

theorem ok_unique {x : Except ε α} {b : α} (h : x = .ok a) (h' : x = .ok b) : a = b :=
  Except.ok.inj (h.symm.trans h')

/-- The row with a key that no other row has. -/
theorem find?_key {κ : Type} [DecidableEq κ] {rows : List α} {key : α → κ}
    (hkeys : (rows.map key).Nodup) (ha : a ∈ rows) : rows.find? (key · = key a) = some a := by
  cases hfound : rows.find? (key · = key a) with
  | none => exact absurd (decide_eq_true rfl) (find?_eq_none.mp hfound a ha)
  | some b =>
    have hkey : key b = key a := by simpa using find?_some hfound
    rw [inj_on_of_nodup_map hkeys (mem_of_find?_eq_some hfound) ha hkey]

/-- An entry whose key occurs once is the only one with that key. -/
theorem eq_of_count_le_one [DecidableEq β] {f : α → β} {l : List α} {b : α}
    (h : (l.map f).count (f a) ≤ 1) (ha : a ∈ l) (hb : b ∈ l) (hf : f b = f a) : b = a := by
  have hmem : ∀ x ∈ l, f x = f a → x ∈ l.filter (f · = f a) := fun x hx hf =>
    mem_filter.mpr ⟨hx, decide_eq_true hf⟩
  rw [count, countP_map, countP_eq_length_filter] at h
  obtain ⟨x, hx⟩ := length_eq_one_iff.mp (Nat.le_antisymm h (length_pos_of_mem (hmem a ha rfl)))
  have hsame : ∀ y ∈ l, f y = f a → y = x := fun y hy hf =>
    mem_singleton.mp (hx ▸ hmem y hy hf)
  rw [hsame a ha rfl, hsame b hb hf]

/-- A block of two calls succeeds when both do. -/
@[simp] theorem bind_ok {b : β} : (x >>= f) = .ok b ↔ ∃ a, x = .ok a ∧ f a = .ok b := by
  rcases x with e | a
  · exact ⟨(nomatch ·), fun ⟨_, h, _⟩ => nomatch h⟩
  · refine ⟨fun h => ⟨a, rfl, h⟩, ?_⟩
    rintro ⟨_, ha, hf⟩
    rw [Except.ok.inj ha]
    exact hf

/-- What follows a call that succeeds. -/
theorem bind_of_ok (h : x = .ok a) (f : α → Except ε β) : (x >>= f) = f a := by
  rw [h]; rfl

theorem bind_of_require {p : Prop} [Decidable p] {e : ε} (h : p) (f : Unit → Except ε β) :
    (require p e >>= f) = f () :=
  bind_of_ok (require_ok.mpr h) f

theorem bind_of_find {row : Option α} {e : ε} (h : row = some a) (f : α → Except ε β) :
    (find row e >>= f) = f a :=
  bind_of_ok (find_ok.mpr h) f

@[simp] theorem return_ok {b : α} : (pure a : Except ε α) = .ok b ↔ a = b :=
  ⟨Except.ok.inj, congrArg Except.ok⟩

/-- A result without its first part. -/
theorem map_snd_ok {x : Except ε (α × β)} {b : β} (h : x.map (·.2) = .ok b) :
    ∃ a, x = .ok (a, b) := by
  cases x with
  | error e => cases h
  | ok pair =>
    cases h
    exact ⟨pair.1, rfl⟩

@[simp] theorem mapError_ok {ε' : Type} {f : ε → ε'} : x.mapError f = .ok a ↔ x = .ok a := by
  cases x with
  | error e =>
    constructor
    · intro h
      cases h
    · intro h
      cases h
  | ok b =>
    constructor
    · intro h
      cases h
      rfl
    · intro h
      cases h
      rfl

/-- The call succeeds, with a result that passes the test. -/
def succeedsWith (x : Except ε α) (test : α → Bool) : Bool :=
  match x with
  | .ok a => test a
  | .error _ => false

theorem exists_ok {P : α → Prop} [DecidablePred P]
    (h : succeedsWith x (fun a => decide (P a)) = true) : ∃ a, x = .ok a ∧ P a := by
  rcases x with e | a
  · cases h
  · exact ⟨a, rfl, of_decide_eq_true h⟩

theorem not_ok_of_succeedsWith (h : succeedsWith x (fun _ => true) = false) : ∀ a, x ≠ .ok a := by
  rintro a rfl
  cases h

theorem error_of_not_ok (h : ∀ a, x ≠ .ok a) : ∃ e, x = .error e := by
  rcases x with e | a
  · exact ⟨e, rfl⟩
  · exact absurd rfl (h a)

/-- A call made on every entry of a list, none of which fails. -/
theorem mapM_ok {g : α → β} (h : ∀ a ∈ l, f a = .ok (g a)) : l.mapM f = .ok (l.map g) := by
  induction l with
  | nil => rfl
  | cons a l ih =>
    have htail : l.mapM f = .ok (l.map g) := ih fun b hb => h b (mem_cons_of_mem a hb)
    rw [mapM_cons, h a mem_cons_self, htail]
    rfl

theorem mapM_cons_ok_iff {bs : List β} :
    (a :: l).mapM f = .ok bs ↔ ∃ b rest, f a = .ok b ∧ l.mapM f = .ok rest ∧ bs = b :: rest := by
  rw [mapM_cons]
  simp only [bind_ok, return_ok]
  constructor
  · rintro ⟨b, hb, rest, hrest, rfl⟩
    exact ⟨b, rest, hb, hrest, rfl⟩
  · rintro ⟨b, rest, hb, hrest, rfl⟩
    exact ⟨b, hb, rest, hrest, rfl⟩

/-- The results of a call made on every entry: one for each entry, and no others. -/
theorem mapM_ok_mem {bs : List β} (h : l.mapM f = .ok bs) :
    (∀ a ∈ l, ∃ b ∈ bs, f a = .ok b) ∧ ∀ b ∈ bs, ∃ a ∈ l, f a = .ok b := by
  induction l generalizing bs with
  | nil => cases h; exact ⟨fun a ha => (nomatch ha), fun b hb => (nomatch hb)⟩
  | cons a l ih =>
    obtain ⟨b, _, hb, hrest, rfl⟩ := mapM_cons_ok_iff.mp h
    obtain ⟨hto, hfrom⟩ := ih hrest
    constructor
    · refine forall_mem_cons.mpr ⟨⟨b, mem_cons_self, hb⟩, fun a' ha' => ?_⟩
      obtain ⟨b', hb', hf⟩ := hto a' ha'
      exact ⟨b', mem_cons_of_mem b hb', hf⟩
    · refine forall_mem_cons.mpr ⟨⟨a, mem_cons_self, hb⟩, fun b' hb' => ?_⟩
      obtain ⟨a', ha', hf⟩ := hfrom b' hb'
      exact ⟨a', mem_cons_of_mem a ha', hf⟩

theorem exists_mapM (h : ∀ a ∈ l, ∃ b, f a = .ok b) : ∃ bs, l.mapM f = .ok bs := by
  induction l with
  | nil => exact ⟨[], rfl⟩
  | cons a _ ih =>
    obtain ⟨⟨b, hb⟩, hrest⟩ := forall_mem_cons.mp h
    obtain ⟨bs, hbs⟩ := ih hrest
    exact ⟨b :: bs, mapM_cons_ok_iff.mpr ⟨b, bs, hb, hbs, rfl⟩⟩

/-- Something the call keeps of each entry is kept of the list. -/
theorem mapM_ok_map {γ : Type} {s : α → γ} {t : β → γ} {bs : List β}
    (hf : ∀ a b, f a = .ok b → t b = s a) (h : l.mapM f = .ok bs) : bs.map t = l.map s := by
  induction l generalizing bs with
  | nil => cases h; rfl
  | cons a l ih =>
    obtain ⟨b, _, hb, hrest, rfl⟩ := mapM_cons_ok_iff.mp h
    rw [map_cons, map_cons, hf a b hb, ih hrest]

/-! ## Calls that may return nothing -/

section Options
variable {f g : α → Option β} {l : List α} {bs : List β}

/-- A list read with a call that may return nothing is read with one that may fail. -/
theorem mapM_some_iff : l.mapM f = some bs ↔ l.mapM (fun a => find (f a) ()) = .ok bs := by
  induction l generalizing bs with
  | nil => exact ⟨fun h => some.inj h ▸ rfl, fun h => Except.ok.inj h ▸ rfl⟩
  | cons a l ih =>
    rw [mapM_cons, mapM_cons]
    simp only [bind_eq_bind, bind_eq_some_iff, bind_ok, find_ok, ih, pure,
      some.injEq, Except.pure, Except.ok.injEq]

theorem mapM_some_mem (h : l.mapM f = some bs) :
    (∀ a ∈ l, ∃ b ∈ bs, f a = some b) ∧ ∀ b ∈ bs, ∃ a ∈ l, f a = some b := by
  simpa only [find_ok] using mapM_ok_mem (mapM_some_iff.mp h)

theorem exists_mapM_some (h : ∀ a ∈ l, ∃ b, f a = some b) : ∃ bs, l.mapM f = some bs := by
  simp only [mapM_some_iff]
  exact exists_mapM fun a ha => (h a ha).imp fun b hb => find_ok.mpr hb

end Options

/-! ## Errors -/

/-- Every error of the call has the property. -/
def FailsWith (P : ε → Prop) (x : Except ε α) : Prop := ∀ e, x = .error e → P e

namespace FailsWith
variable {P : ε → Prop}

theorem ok (a : α) : FailsWith P (.ok a) := fun _ h => nomatch h

theorem find {row : Option α} {e : ε} (h : P e) : FailsWith P (find row e) := by
  rintro _ he'
  rcases row with _ | a
  · cases he'; exact h
  · cases he'

theorem require {p : Prop} [Decidable p] {e : ε} (h : P e) : FailsWith P (require p e) := by
  intro e' he'
  by_cases hp : p
  · simp [Fallible.require, hp] at he'
  · simp only [Fallible.require, hp, if_false, Except.error.injEq] at he'
    exact he' ▸ h

theorem bind {x : Except ε α} {f : α → Except ε β} (hx : FailsWith P x)
    (hf : ∀ a, FailsWith P (f a)) : FailsWith P (x >>= f) := by
  rcases x with e | a
  · intro _ he'
    cases he'
    exact hx e rfl
  · exact hf a

end FailsWith

/-! ## Loops -/

section Loops
variable {σ : Type} {step : σ → α → Except ε σ} {l : List α}

/-- Every round of a loop that ends well has ended well. -/
theorem foldlM_ok_mem {s t : σ} (h : l.foldlM step s = .ok t) :
    ∀ a ∈ l, ∃ s' t', step s' a = .ok t' := by
  induction l generalizing s with
  | nil => exact fun a ha => nomatch ha
  | cons a l ih =>
    obtain ⟨next, hnext, hrest⟩ := bind_ok.mp h
    exact forall_mem_cons.mpr ⟨⟨s, next, hnext⟩, ih hrest⟩

/-- What every round keeps, a loop that ends well keeps. -/
theorem foldlM_invariant_mem {P : σ → Prop}
    (hstep : ∀ a ∈ l, ∀ s t, step s a = .ok t → P s → P t) {s t : σ}
    (h : l.foldlM step s = .ok t) (hs : P s) : P t := by
  induction l generalizing s with
  | nil => cases h; exact hs
  | cons a l ih =>
    obtain ⟨next, hnext, hrest⟩ := bind_ok.mp h
    exact ih (fun b hb => hstep b (mem_cons_of_mem a hb)) hrest
      (hstep a mem_cons_self s next hnext hs)

theorem foldlM_invariant {P : σ → Prop} (hstep : ∀ s a t, step s a = .ok t → P s → P t) {s t : σ}
    (h : l.foldlM step s = .ok t) (hs : P s) : P t :=
  foldlM_invariant_mem (fun a _ s t => hstep s a t) h hs

/-- A loop that ends well has made its move as a whole, and what a round sees to for its entry
holds at the end, if later moves keep it. -/
theorem foldlM_each {R : σ → σ → Prop} {Q : σ → α → Prop} (hrefl : ∀ s, R s s)
    (htrans : ∀ {s t u}, R s t → R t u → R s u) (hkeep : ∀ {s t a}, R s t → Q s a → Q t a)
    (hstep : ∀ a ∈ l, ∀ {s t}, step s a = .ok t → R s t ∧ Q t a) {s t : σ}
    (h : l.foldlM step s = .ok t) : R s t ∧ ∀ a ∈ l, Q t a := by
  induction l generalizing s with
  | nil => cases h; exact ⟨hrefl _, fun a ha => absurd ha not_mem_nil⟩
  | cons a l ih =>
    obtain ⟨_, hnext, hrest⟩ := bind_ok.mp h
    obtain ⟨hfirst, hothers⟩ := forall_mem_cons.mp hstep
    obtain ⟨hmove, hdone⟩ := hfirst hnext
    obtain ⟨hmoves, hall⟩ := ih hothers hrest
    exact ⟨htrans hmove hmoves, forall_mem_cons.mpr ⟨hkeep hmoves hdone, hall⟩⟩

/-- A loop none of whose rounds fails, whatever state it starts from. -/
theorem exists_foldlM (h : ∀ a ∈ l, ∀ s, ∃ t, step s a = .ok t) (s : σ) :
    ∃ t, l.foldlM step s = .ok t := by
  induction l generalizing s with
  | nil => exact ⟨s, rfl⟩
  | cons a l ih =>
    obtain ⟨hfirst, hrest⟩ := forall_mem_cons.mp h
    obtain ⟨next, hnext⟩ := hfirst s
    rw [foldlM_cons, bind_of_ok hnext]
    exact ih hrest next

/-- A loop that looks for an entry. -/
theorem foldlM_any {step : Bool → α → Except ε Bool} {g : α → Bool}
    (h : ∀ a ∈ l, ∀ found, step found a = .ok (found || g a)) (found : Bool) :
    l.foldlM step found = .ok (found || l.any g) := by
  induction l generalizing found with
  | nil => simp
  | cons a l ih =>
    obtain ⟨hfirst, hrest⟩ := forall_mem_cons.mp h
    rw [foldlM_cons, bind_of_ok (hfirst found), ih hrest, any_cons, Bool.or_assoc]

/-- A loop that collects the keys of some entries, and fails at a key that it has. -/
theorem foldlM_pushNew_ok_iff {κ : Type} [DecidableEq κ] {step : List κ → α → Except ε (List κ)}
    {p : α → Bool} {key : α → κ} {e : α → ε} {keys : List κ}
    (hskip : ∀ seen a, p a = false → step seen a = .ok seen) (hpush : ∀ seen a, p a = true →
      step seen a = do require (key a ∉ seen) (e a); return seen ++ [key a]) :
    l.foldlM step [] = .ok keys ↔ keys = (l.filter p).map key ∧ keys.Nodup := by
  suffices h : ∀ seen : List κ, seen.Nodup → (l.foldlM step seen = .ok keys ↔
      keys = seen ++ (l.filter p).map key ∧ keys.Nodup) from h [] nodup_nil
  induction l with
  | nil =>
    intro _ hseen
    rw [foldlM_nil, return_ok, filter_nil, map_nil, append_nil]
    exact ⟨fun h => ⟨h.symm, h ▸ hseen⟩, fun h => h.1.symm⟩
  | cons a l ih =>
    intro seen hseen
    rw [foldlM_cons, filter_cons]
    cases hp : p a with
    | false =>
      rw [bind_of_ok (hskip seen a hp), ih seen hseen]
      rfl
    | true =>
      rw [hpush seen a hp, if_pos rfl, map_cons]
      by_cases hnew : key a ∈ seen
      · refine iff_of_false (fun h => ?_) fun ⟨heq, hkeys⟩ => ?_
        · simp only [bind_ok, require_ok] at h
          obtain ⟨_, ⟨_, hfresh, -⟩, -⟩ := h
          exact hfresh hnew
        · rw [heq, nodup_append] at hkeys
          exact hkeys.2.2 _ hnew _ mem_cons_self rfl
      · rw [bind_of_require hnew, append_cons _ (key a) ((l.filter p).map key)]
        refine ih _ (nodup_append.mpr ⟨hseen, pairwise_singleton _ _, ?_⟩)
        intro b hb c hc heq
        rw [mem_singleton] at hc
        exact hnew (hc ▸ heq ▸ hb)

end Loops

end Fallible
