/-!
# Updating one entry of a list

When a system is the list of its parties' states, one party's step is `List.set` at its index.
What holds of all parties, and of any two, is carried over such a step: an entry after the
update is the new one or one of the others (`mem_set_cases`, by index `getElem?_set_at` and
`getElem?_set_cases`), a party that joins is the last (`getElem?_concat_cases`), and a relation
between any two entries is kept when the new entry is related to whatever the old one was
(`pairwise_set`, and `pairwise_iff_getElem?_ne` for a symmetric one). Counts move with the one
entry (`countP_set_at`).
-/

namespace ListUpdate
open List

variable {α : Type} {l : List α} {i : Nat} {x y z : α}

theorem mem_set_cases (h : y ∈ l.set i x) : y = x ∨ y ∈ l.eraseIdx i := by
  obtain ⟨j, hj, rfl⟩ := getElem_of_mem h
  rw [length_set] at hj
  by_cases hij : i = j
  · subst hij
    exact .inl (getElem_set_self _)
  · rw [getElem_set_ne hij]
    exact .inr (mem_eraseIdx_iff_getElem.mpr ⟨j, hj, fun he => hij he.symm, rfl⟩)

theorem lt_length (h : l[i]? = some x) : i < l.length := (List.getElem?_eq_some_iff.mp h).1

theorem getElem?_set_here (h : l[i]? = some x) : (l.set i y)[i]? = some y :=
  getElem?_set_self (lt_length h)

theorem getElem?_set_at (h : l[i]? = some x) (j : Nat) :
    (l.set i y)[j]? = if j = i then some y else l[j]? := by
  have hlt := lt_length h
  rw [getElem?_set]
  by_cases hji : i = j
  · subst hji
    rw [if_pos rfl, if_pos rfl, if_pos hlt]
  · rw [if_neg hji, if_neg (fun he => hji he.symm)]

/-- The rows after one is replaced: the new one, and the others. -/
theorem getElem?_set_cases {j : Nat} (h : l[i]? = some x) (hz : (l.set i y)[j]? = some z) :
    (j = i ∧ z = y) ∨ (j ≠ i ∧ l[j]? = some z) := by
  rw [getElem?_set_at h] at hz
  by_cases hj : j = i
  · rw [if_pos hj] at hz
    exact .inl ⟨hj, (Option.some.inj hz).symm⟩
  · rw [if_neg hj] at hz
    exact .inr ⟨hj, hz⟩

/-- Each row is related to the one in its place after one is replaced. -/
theorem exists_getElem?_set {R : α → α → Prop} (hrefl : ∀ a, R a a) {j : Nat}
    (h : l[i]? = some x) (hxy : R x y) (hz : l[j]? = some z) :
    ∃ z', (l.set i y)[j]? = some z' ∧ R z z' := by
  rw [getElem?_set_at h]
  by_cases hj : j = i
  · subst hj
    obtain rfl := Option.some.inj (h.symm.trans hz)
    exact ⟨y, if_pos rfl, hxy⟩
  · exact ⟨z, by rw [if_neg hj, hz], hrefl z⟩

/-- The rows after one is appended: those before, and the new one. -/
theorem getElem?_concat_cases {l : List α} {x y : α} {i : Nat} (h : (l ++ [x])[i]? = some y) :
    l[i]? = some y ∨ (i = l.length ∧ y = x) := by
  rcases Nat.lt_or_ge i l.length with hlt | hge
  · exact .inl (by rwa [getElem?_append_left hlt] at h)
  · rw [getElem?_append_right hge] at h
    obtain ⟨hone, hy⟩ := List.getElem?_eq_some_iff.mp h
    have hi : i - l.length = 0 := by simpa using hone
    exact .inr ⟨by omega, by simpa [hi] using hy.symm⟩

/-- An entry stays where it is when the list grows at its end. -/
theorem getElem?_of_isPrefix {l' : List α} (h : l <+: l') (hx : l[i]? = some x) :
    l'[i]? = some x := by
  obtain ⟨_, rfl⟩ := h
  rw [List.getElem?_append_left (lt_length hx), hx]

theorem pairwise_set {R : α → α → Prop} (hi : l[i]? = some x) (h : l.Pairwise R)
    (hleft : ∀ z, R x z → R y z) (hright : ∀ z, R z x → R z y) : (l.set i y).Pairwise R := by
  obtain ⟨_, hx⟩ := List.getElem?_eq_some_iff.mp hi
  rw [pairwise_iff_getElem] at h ⊢
  intro j k hj hk hjk
  rw [length_set] at hj hk
  have hold := h j k hj hk hjk
  rw [getElem_set, getElem_set]
  by_cases hij : i = j
  · subst hij
    rw [if_pos rfl, if_neg (Nat.ne_of_lt hjk)]
    exact hleft _ (hx ▸ hold)
  · by_cases hik : i = k
    · subst hik
      rw [if_neg hij, if_pos rfl]
      exact hright _ (hx ▸ hold)
    · rw [if_neg hij, if_neg hik]
      exact hold

/-- A symmetric relation between any two entries, by their places. -/
theorem pairwise_iff_getElem?_ne {R : α → α → Prop} (hR : ∀ a b, R a b → R b a) :
    l.Pairwise R ↔ ∀ (i j : Nat) a b, j ≠ i → l[i]? = some a → l[j]? = some b → R a b := by
  rw [pairwise_iff_getElem]
  constructor
  · intro h i j a b hne hi hj
    obtain ⟨hli, rfl⟩ := List.getElem?_eq_some_iff.mp hi
    obtain ⟨hlj, rfl⟩ := List.getElem?_eq_some_iff.mp hj
    rcases Nat.lt_or_gt_of_ne hne with hlt | hlt
    · exact hR _ _ (h j i hlj hli hlt)
    · exact h i j hli hlj hlt
  · intro h i j hi hj hlt
    exact h i j _ _ (Nat.ne_of_gt hlt) (getElem?_eq_getElem hi) (getElem?_eq_getElem hj)

theorem countP_set_at (p : α → Bool) (h : l[i]? = some x) :
    (l.set i y).countP p + (if p x then 1 else 0) = l.countP p + (if p y then 1 else 0) := by
  obtain ⟨hlt, hx⟩ := List.getElem?_eq_some_iff.mp h
  have hmem : x ∈ l := mem_of_getElem? h
  rw [countP_set hlt, hx]
  by_cases hp : p x
  · have hpos : 0 < l.countP p := countP_pos_iff.mpr ⟨x, hmem, hp⟩
    rw [if_pos hp]
    omega
  · rw [if_neg hp]
    omega

end ListUpdate
