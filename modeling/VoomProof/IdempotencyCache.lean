import Mathlib.Data.List.AList
import VoomProof.WireEnvelope

/-!
# The worker's idempotency cache

`IdempotencyCache` of `voom-worker-protocol`'s `http/idempotency.rs`. A request that is
`Started` has an `Active` entry under its key until its execution completes or is cleared;
`begin` refuses a key that has one. Active entries are never evicted (`makeRoom_keeps_active`),
and each operation changes the entry of its own key and no other active one: `begin_started`,
`complete_keeps_active`, `clearActive_keeps_active`.

Keys and body hashes are any types with decidable equality.
-/

namespace Voom
open List Nat

/-- The bound on cached entries the server is built with. -/
def IDEMPOTENCY_CACHE_CAPACITY : Nat := 1024

/-- What a completed operation replays: the response and the frames written. -/
structure CachedResponse (Response Body : Type) where
  response : Response
  body : List (ProgressFrame Body)
  deriving DecidableEq

inductive IdempotencyStatus (Hash Response Body : Type) where
  | active (hash : Hash)
  | completed (hash : Hash) (response : CachedResponse Response Body)
  deriving DecidableEq

/-- The hash of the request an entry was made for. -/
def IdempotencyStatus.hash {Hash Response Body : Type} : IdempotencyStatus Hash Response Body → Hash
  | active hash | completed hash _ => hash

inductive IdempotencyBegin (Key Response Body : Type) where
  | replay (cached : CachedResponse Response Body)
  | duplicate (key : Key) (originalStatus : String)
  | started
  | atCapacity
  deriving DecidableEq

structure IdempotencyCache (Key Hash Response Body : Type) where
  capacity : Nat
  order : List Key
  entries : AList (fun _ : Key => IdempotencyStatus Hash Response Body)

namespace IdempotencyCache
variable {Key Hash Response Body : Type} [DecidableEq Key] [DecidableEq Hash]

def new (capacity : Nat) : IdempotencyCache Key Hash Response Body where
  capacity := capacity
  order := []
  entries := ∅

/-- The status under a key. -/
def status (c : IdempotencyCache Key Hash Response Body) (key : Key) :
    Option (IdempotencyStatus Hash Response Body) :=
  c.entries.lookup key

def lookup (c : IdempotencyCache Key Hash Response Body) (key : Key) (hash : Hash) :
    IdempotencyBegin Key Response Body :=
  match c.status key with
  | none => .started
  | some (.active _) => .duplicate key "active"
  | some (.completed existing response) =>
      if existing = hash then .replay response else .duplicate key "completed"

/-- The loop of `make_room`.  The queue is `unvisited ++ kept`: each turn pops the
front of it, and pushes an active key back, so `kept` has `active_seen` keys and the
loop is over when nothing is unvisited. -/
def makeRoomLoop (capacity : Nat)
    (entries : AList (fun _ : Key => IdempotencyStatus Hash Response Body)) :
    List Key → List Key →
      List Key × AList (fun _ : Key => IdempotencyStatus Hash Response Body)
  | [], kept => (kept, entries)
  | oldest :: unvisited, kept =>
      if capacity ≤ entries.entries.length then
        match entries.lookup oldest with
        | some (.completed _ _) => makeRoomLoop capacity (entries.erase oldest) unvisited kept
        | some (.active _) => makeRoomLoop capacity entries unvisited (kept ++ [oldest])
        | none => makeRoomLoop capacity entries unvisited kept
      else (oldest :: unvisited ++ kept, entries)

/-- Evict completed entries oldest-first until the cache is below capacity; `false`
when it is full of active ones. -/
def makeRoom (c : IdempotencyCache Key Hash Response Body) :
    Bool × IdempotencyCache Key Hash Response Body :=
  match makeRoomLoop c.capacity c.entries c.order [] with
  | (order, entries) =>
      (decide (entries.entries.length < c.capacity),
        { c with order := order, entries := entries })

/-- A new entry at the back of the queue. -/
def push (c : IdempotencyCache Key Hash Response Body) (key : Key)
    (status : IdempotencyStatus Hash Response Body) : IdempotencyCache Key Hash Response Body :=
  { c with order := c.order ++ [key], entries := c.entries.insert key status }

/-- Register a request under its key, unless one is active or completed there. -/
def begin (c : IdempotencyCache Key Hash Response Body) (key : Key) (hash : Hash) :
    IdempotencyBegin Key Response Body × IdempotencyCache Key Hash Response Body :=
  match c.lookup key hash with
  | .started =>
      if c.capacity = 0 then (.started, c)
      else
        match c.makeRoom with
        | (true, c') => (.started, c'.push key (.active hash))
        | (false, c') => (.atCapacity, c')
  | other => (other, c)

/-- Record the response of a finished execution. -/
def complete (c : IdempotencyCache Key Hash Response Body) (key : Key) (hash : Hash)
    (response : CachedResponse Response Body) : IdempotencyCache Key Hash Response Body :=
  if c.capacity = 0 then c
  else
    match c.status key with
    | some (.active existing) | some (.completed existing _) =>
        if existing = hash then
          { c with entries := c.entries.insert key (.completed hash response) }
        else c
    | none =>
        match c.makeRoom with
        | (true, c') => c'.push key (.completed hash response)
        | (false, c') => c'

/-- Forget an execution that did not complete. -/
def clearActive (c : IdempotencyCache Key Hash Response Body) (key : Key) (hash : Hash) :
    IdempotencyCache Key Hash Response Body :=
  match c.status key with
  | some (.active active) =>
      if active = hash then
        { c with entries := c.entries.erase key, order := c.order.filter (· ≠ key) }
      else c
  | _ => c

/-! ## Entries -/

variable {c c' : IdempotencyCache Key Hash Response Body} {key k : Key} {hash h : Hash}
  {status : IdempotencyStatus Hash Response Body}
  {entries : AList (fun _ : Key => IdempotencyStatus Hash Response Body)}

variable {unvisited kept : List Key} {response : CachedResponse Response Body}

section Room
omit [DecidableEq Hash]

theorem length_erase_le (entries : AList (fun _ : Key => IdempotencyStatus Hash Response Body)) :
    (entries.erase k).entries.length ≤ entries.entries.length :=
  (kerase_sublist k entries.entries).length_le

/-- Erasing an entry that is there makes the table one shorter. -/
theorem length_erase_of_lookup (hk : entries.lookup k = some status) :
    (entries.erase k).entries.length + 1 = entries.entries.length := by
  have hmem : k ∈ entries := AList.lookup_isSome.mp (by rw [hk]; rfl)
  obtain ⟨b, _, _, _, hentries, herase⟩ := exists_of_kerase (AList.mem_keys.mp hmem)
  change (kerase k entries.entries).length + 1 = _
  rw [herase, hentries, length_append, length_append, length_cons]
  omega

/-! ## Making room -/

/-- Nothing is added to the table, and no active entry is lost. -/
theorem makeRoomLoop_spec (capacity : Nat)
    (entries : AList (fun _ : Key => IdempotencyStatus Hash Response Body))
    (unvisited kept : List Key) :
    let left := (makeRoomLoop capacity entries unvisited kept).2
    (∀ k h, entries.lookup k = some (.active h) → left.lookup k = some (.active h)) ∧
      (∀ k status, left.lookup k = some status → entries.lookup k = some status) ∧
      left.entries.length ≤ entries.entries.length := by
  induction unvisited generalizing entries kept with
  | nil => exact ⟨fun _ _ hk => hk, fun _ _ hk => hk, le_refl _⟩
  | cons oldest _ ih =>
    rw [makeRoomLoop]
    split
    · split
      · next hold =>
        obtain ⟨hact, hstat, hlen⟩ := ih (entries.erase oldest) kept
        refine ⟨fun k h hk => hact k h ?_, fun k status hk => ?_,
          le_trans hlen (length_erase_le entries)⟩
        · -- a completed entry is evicted: it is not the one under `k`
          have hne : k ≠ oldest := by
            rintro rfl
            rw [hk] at hold
            cases hold
          rw [AList.lookup_erase_ne hne, hk]
        · have herased := hstat k status hk
          by_cases hne : k = oldest
          · rw [hne, AList.lookup_erase] at herased
            cases herased
          · rwa [AList.lookup_erase_ne hne] at herased
      · exact ih _ _
      · exact ih _ _
    · exact ⟨fun _ _ hk => hk, fun _ _ hk => hk, le_refl _⟩

/-- The queue goes on holding the keys of the table, each once. -/
theorem makeRoomLoop_order {capacity : Nat} (h : (unvisited ++ kept).Perm entries.keys) :
    (makeRoomLoop capacity entries unvisited kept).1.Perm
      (makeRoomLoop capacity entries unvisited kept).2.keys := by
  induction unvisited generalizing entries kept with
  | nil => exact h
  | cons oldest _ ih =>
    rw [makeRoomLoop]
    split
    · split
      · have herased := h.erase oldest
        rw [cons_append, erase_cons_head, ← AList.keys_erase] at herased
        exact ih herased
      · refine ih (List.Perm.trans ?_ h)
        rw [← append_assoc]
        exact perm_append_singleton _ _
      · next hnone =>
        have hmem : oldest ∈ entries := AList.mem_keys.mpr (h.mem_iff.mp mem_cons_self)
        rw [← AList.lookup_isSome, hnone] at hmem
        cases hmem
    · exact h

/-- There is no room in the end if there was none and every visited entry is active. -/
theorem makeRoomLoop_full {capacity : Nat} (hlen : entries.entries.length ≤ capacity)
    (hmem : ∀ k ∈ unvisited, k ∈ entries) :
    capacity ≤ (makeRoomLoop capacity entries unvisited kept).2.entries.length ↔
      capacity ≤ entries.entries.length ∧
        ∀ k ∈ unvisited, ∃ h, entries.lookup k = some (.active h) := by
  induction unvisited generalizing kept with
  | nil => simp [makeRoomLoop]
  | cons oldest unvisited ih =>
    obtain ⟨hfirst, hrest⟩ := forall_mem_cons.mp hmem
    rw [makeRoomLoop]
    split
    · split
      · next hold =>
        have herased := length_erase_of_lookup hold
        have hleft := (makeRoomLoop_spec capacity (entries.erase oldest) unvisited kept).2.2
        exact iff_of_false (by omega) fun h => by simpa [hold] using h.2 oldest mem_cons_self
      · next hold => simp [ih hrest, hold]
      · next hnone =>
        rw [← AList.lookup_isSome, hnone] at hfirst
        cases hfirst
    · next hroom => exact iff_of_false hroom fun h => hroom h.1

theorem makeRoom_keeps_active (hk : c.status k = some (.active h)) :
    c.makeRoom.2.status k = some (.active h) :=
  (makeRoomLoop_spec c.capacity c.entries c.order []).1 k h hk

theorem status_of_makeRoom (hk : c.makeRoom.2.status k = some status) : c.status k = some status :=
  (makeRoomLoop_spec c.capacity c.entries c.order []).2.1 k status hk

@[simp] theorem status_push_self (status : IdempotencyStatus Hash Response Body) :
    (c.push key status).status key = some status :=
  AList.lookup_insert c.entries

theorem status_push_ne (status : IdempotencyStatus Hash Response Body) (hne : k ≠ key) :
    (c.push key status).status k = c.status k :=
  AList.lookup_insert_ne hne

end Room

/-! ## What an operation does -/

/-- No more entries than the capacity allows. -/
def Bounded (c : IdempotencyCache Key Hash Response Body) : Prop :=
  c.entries.entries.length ≤ c.capacity

/-- The queue holds the keys of the table, each once. -/
def Queued (c : IdempotencyCache Key Hash Response Body) : Prop := c.order.Perm c.entries.keys

/-- What an operation under a key can do to the cache. -/
inductive Edit (c : IdempotencyCache Key Hash Response Body) (key : Key) :
    IdempotencyCache Key Hash Response Body → Prop where
  | same : Edit c key c
  | evicted : Edit c key c.makeRoom.2
  | pushed (status : IdempotencyStatus Hash Response Body) (hnone : c.status key = none)
      (hroom : c.makeRoom.1 = true) : Edit c key (c.makeRoom.2.push key status)
  | replaced (status : IdempotencyStatus Hash Response Body) (hsome : (c.status key).isSome) :
      Edit c key { c with entries := c.entries.insert key status }
  | removed : Edit c key
      { c with entries := c.entries.erase key, order := c.order.filter (· ≠ key) }

namespace Edit
omit [DecidableEq Hash]

theorem capacity (h : c.Edit key c') : c'.capacity = c.capacity := by
  cases h <;> rfl

theorem bounded (h : c.Edit key c') (hc : c.Bounded) : c'.Bounded := by
  cases h with
  | same => exact hc
  | evicted => exact le_trans (makeRoomLoop_spec _ _ _ _).2.2 hc
  | pushed _ _ hroom =>
    exact le_trans (succ_le_succ (length_erase_le _)) (of_decide_eq_true hroom)
  | replaced _ hsome =>
    -- the new entry takes the place of the old one
    obtain ⟨_, hold⟩ := Option.isSome_iff_exists.mp hsome
    exact le_trans (le_of_eq (length_erase_of_lookup hold)) hc
  | removed => exact le_trans (length_erase_le _) hc

theorem queued (h : c.Edit key c') (hc : c.Queued) : c'.Queued := by
  cases h with
  | same => exact hc
  | evicted => exact makeRoomLoop_order ((append_nil c.order).symm ▸ hc)
  | pushed _ hnone =>
    have hroom : c.makeRoom.2.Queued := makeRoomLoop_order ((append_nil c.order).symm ▸ hc)
    have hfresh : key ∉ c.makeRoom.2.entries := by
      rw [← AList.lookup_isSome]
      intro hsome
      obtain ⟨_, hold⟩ := Option.isSome_iff_exists.mp hsome
      cases hnone.symm.trans (status_of_makeRoom hold)
    rw [Queued, push, AList.keys_insert, erase_of_not_mem (mt AList.mem_keys.mpr hfresh)]
    exact (perm_append_singleton _ _).trans (hroom.cons key)
  | replaced _ hsome =>
    rw [Queued, AList.keys_insert]
    exact hc.trans (perm_cons_erase (AList.mem_keys.mp (AList.lookup_isSome.mp hsome)))
  | removed =>
    have hnd : c.entries.keys.Nodup := c.entries.nodupKeys
    rw [Queued, AList.keys_erase, hnd.erase_eq_filter]
    refine (hc.filter _).trans (.of_eq (filter_congr fun k _ => ?_))
    by_cases hk : k = key <;> simp [hk]

/-- Under another key no active entry is lost, and none made. -/
theorem status_ne (h : c.Edit key c') (hne : k ≠ key) :
    (∀ hash, c.status k = some (.active hash) → c'.status k = some (.active hash)) ∧
      ∀ status, c'.status k = some status → c.status k = some status := by
  cases h with
  | same => exact ⟨fun _ hk => hk, fun _ hk => hk⟩
  | evicted => exact ⟨fun _ => makeRoom_keeps_active, fun _ => status_of_makeRoom⟩
  | pushed status =>
    rw [status_push_ne status hne]
    exact ⟨fun _ => makeRoom_keeps_active, fun _ => status_of_makeRoom⟩
  | replaced status =>
    have hsame : (c.entries.insert key status).lookup k = _ := AList.lookup_insert_ne hne
    exact ⟨fun _ hk => hsame.trans hk, fun _ hk => hsame.symm.trans hk⟩
  | removed =>
    have hsame : (c.entries.erase key).lookup k = _ := AList.lookup_erase_ne hne
    exact ⟨fun _ hk => hsame.trans hk, fun _ hk => hsame.symm.trans hk⟩

end Edit

/-! ### `begin` -/

theorem lookup_of_some (hk : c.status key = some status) :
    c.lookup key hash ≠ .started ∧ c.lookup key hash ≠ .atCapacity := by
  rw [lookup, hk]
  cases status with
  | active => exact ⟨nofun, nofun⟩
  | completed =>
    dsimp only
    split <;> exact ⟨nofun, nofun⟩

theorem begin_of_some (hk : c.status key = some status) :
    c.begin key hash = (c.lookup key hash, c) := by
  rw [begin]
  split
  · next hstart => exact absurd hstart (lookup_of_some hk).1
  · rfl

theorem begin_of_none (hk : c.status key = none) : c.begin key hash =
    if c.capacity = 0 then (.started, c)
    else if c.makeRoom.1 then (.started, c.makeRoom.2.push key (.active hash))
    else (.atCapacity, c.makeRoom.2) := by
  rw [begin, lookup, hk]
  rcases c.makeRoom with ⟨_ | _, _⟩ <;> rfl

theorem begin_edit : c.Edit key (c.begin key hash).2 := by
  cases hk : c.status key with
  | some =>
    rw [begin_of_some hk]
    exact .same
  | none =>
    rw [begin_of_none hk]
    split
    · exact .same
    · split
      · next hroom => exact .pushed _ hk hroom
      · exact .evicted

/-- A request starts only under a key without an entry. -/
theorem status_of_begin_started (hb : (c.begin key hash).1 = .started) : c.status key = none := by
  cases hk : c.status key with
  | none => rfl
  | some =>
    rw [begin_of_some hk] at hb
    exact absurd hb (lookup_of_some hk).1

/-- **A request that starts has an active entry**, in a cache of some capacity. -/
theorem begin_started (hb : (c.begin key hash).1 = .started) (hcap : c.capacity ≠ 0) :
    (c.begin key hash).2.status key = some (.active hash) := by
  have hk := status_of_begin_started hb
  rw [begin_of_none hk, if_neg hcap] at hb ⊢
  split at hb
  · next hroom =>
    rw [if_pos hroom]
    exact status_push_self _
  · cases hb

theorem begin_keeps_active (hk : c.status k = some (.active h)) :
    (c.begin key hash).2.status k = some (.active h) := by
  by_cases hne : k = key
  · subst hne
    rw [begin_of_some hk]
    exact hk
  · exact (begin_edit.status_ne hne).1 h hk

/-- Only `begin` makes an entry active. -/
theorem active_of_begin (hk : (c.begin key hash).2.status k = some (.active h)) :
    c.status k = some (.active h) ∨
      (k = key ∧ h = hash ∧ (c.begin key hash).1 = .started) := by
  by_cases hne : k = key
  · subst hne
    cases hs : c.status k with
    | some =>
      rw [begin_of_some hs] at hk
      exact .inl (hs ▸ hk)
    | none =>
      rw [begin_of_none hs] at hk ⊢
      split at hk
      · cases hs.symm.trans hk
      · next hcap =>
        split at hk
        · next hroom =>
          rw [status_push_self] at hk
          cases hk
          rw [if_neg hcap, if_pos hroom]
          exact .inr ⟨rfl, rfl, rfl⟩
        · cases hs.symm.trans (status_of_makeRoom hk)
  · exact .inl ((begin_edit.status_ne hne).2 _ hk)

/-! ### `complete` -/

theorem complete_of_some (hcap : c.capacity ≠ 0) (hk : c.status key = some status) :
    c.complete key hash response =
      if status.hash = hash then
        { c with entries := c.entries.insert key (.completed hash response) }
      else c := by
  rw [complete, if_neg hcap, hk]
  cases status <;> rfl

theorem complete_of_none (hcap : c.capacity ≠ 0) (hk : c.status key = none) :
    c.complete key hash response =
      if c.makeRoom.1 then c.makeRoom.2.push key (.completed hash response) else c.makeRoom.2 := by
  rw [complete, if_neg hcap, hk]
  rcases c.makeRoom with ⟨_ | _, _⟩ <;> rfl

theorem complete_edit : c.Edit key (c.complete key hash response) := by
  by_cases hcap : c.capacity = 0
  · rw [complete, if_pos hcap]
    exact .same
  cases hk : c.status key with
  | some =>
    rw [complete_of_some hcap hk]
    split
    · exact .replaced _ (by rw [hk]; rfl)
    · exact .same
  | none =>
    rw [complete_of_none hcap hk]
    split
    · next hroom => exact .pushed _ hk hroom
    · exact .evicted

/-- Recording a response leaves every active entry but its own alone. -/
theorem complete_keeps_active (response : CachedResponse Response Body)
    (hk : c.status k = some (.active h)) (hother : ¬ (k = key ∧ h = hash)) :
    (c.complete key hash response).status k = some (.active h) := by
  by_cases hne : k = key
  · subst hne
    have hsame : c.complete k hash response = c := by
      simp only [complete, hk, if_neg fun he => hother ⟨rfl, he⟩, ite_self]
    rwa [hsame]
  · exact (complete_edit.status_ne hne).1 h hk

theorem active_of_complete (hk : (c.complete key hash response).status k = some (.active h)) :
    c.status k = some (.active h) := by
  by_cases hne : k = key
  · subst hne
    by_cases hcap : c.capacity = 0
    · rwa [complete, if_pos hcap] at hk
    cases hs : c.status k with
    | some status =>
      rw [complete_of_some hcap hs] at hk
      split at hk
      · rw [IdempotencyCache.status, AList.lookup_insert] at hk
        cases hk
      · exact hs ▸ hk
    | none =>
      rw [complete_of_none hcap hs] at hk
      split at hk
      · rw [status_push_self] at hk
        cases hk
      · cases hs.symm.trans (status_of_makeRoom hk)
  · exact (complete_edit.status_ne hne).2 _ hk

/-- A response that was recorded leaves no active entry of its own. -/
theorem complete_released (response : CachedResponse Response Body) (hcap : c.capacity ≠ 0) :
    (c.complete key hash response).status key ≠ some (.active hash) := by
  intro hk
  rw [complete_of_some hcap (active_of_complete hk), IdempotencyStatus.hash, if_pos rfl,
    IdempotencyCache.status, AList.lookup_insert] at hk
  cases hk

/-! ### `clear_active` -/

theorem clearActive_of_active (hk : c.status key = some (.active hash)) : c.clearActive key hash =
    { c with entries := c.entries.erase key, order := c.order.filter (· ≠ key) } := by
  unfold clearActive
  rw [hk]
  exact if_pos rfl

theorem clearActive_of_ne (hk : c.status key ≠ some (.active hash)) :
    c.clearActive key hash = c := by
  unfold clearActive
  split
  · next hact =>
    refine if_neg ?_
    rintro rfl
    exact hk hact
  · rfl

theorem clearActive_edit : c.Edit key (c.clearActive key hash) := by
  by_cases hk : c.status key = some (.active hash)
  · rw [clearActive_of_active hk]
    exact .removed
  · rw [clearActive_of_ne hk]
    exact .same

/-- Clearing leaves every active entry but its own alone. -/
theorem clearActive_keeps_active (hk : c.status k = some (.active h))
    (hother : ¬ (k = key ∧ h = hash)) : (c.clearActive key hash).status k = some (.active h) := by
  by_cases hne : k = key
  · subst hne
    rw [clearActive_of_ne fun hown => hother ⟨rfl, ?_⟩, hk]
    cases hk.symm.trans hown
    rfl
  · exact (clearActive_edit.status_ne hne).1 h hk

theorem clearActive_status (hk : c.status key = some (.active hash)) :
    (c.clearActive key hash).status key = none := by
  rw [clearActive_of_active hk]
  exact AList.lookup_erase key c.entries

theorem active_of_clearActive (hk : (c.clearActive key hash).status k = some (.active h)) :
    c.status k = some (.active h) := by
  by_cases hne : k = key
  · subst hne
    by_cases hown : c.status k = some (.active hash)
    · cases (clearActive_status hown).symm.trans hk
    · rwa [clearActive_of_ne hown] at hk
  · exact (clearActive_edit.status_ne hne).2 _ hk

theorem clearActive_released : (c.clearActive key hash).status key ≠ some (.active hash) := by
  intro hk
  cases (clearActive_status (active_of_clearActive hk)).symm.trans hk

/-- **After an active entry is cleared, the next request under its key starts.** -/
theorem begin_after_clearActive (hc : c.Bounded) (hk : c.status key = some (.active hash))
    (h : Hash) : ((c.clearActive key hash).begin key h).1 = .started := by
  have hlt : (c.clearActive key hash).entries.entries.length <
      (c.clearActive key hash).capacity := by
    rw [clearActive_of_active hk]
    exact lt_of_lt_of_le (lt_of_succ_le (le_of_eq (length_erase_of_lookup hk))) hc
  have hroom : (c.clearActive key hash).makeRoom.1 = true :=
    decide_eq_true (lt_of_le_of_lt (makeRoomLoop_spec _ _ _ _).2.2 hlt)
  rw [begin_of_none (clearActive_status hk), if_neg (ne_of_gt (zero_lt_of_lt hlt)), if_pos hroom]

/-! ## Runs -/

/-- The loop of `make_room` as the source has it, with the queue in one piece and the count of
the active keys that were pushed back; `none` if it is not over after so many turns. -/
def makeRoomTurns (capacity turns : Nat) (order : List Key)
    (entries : AList (fun _ : Key => IdempotencyStatus Hash Response Body)) (activeSeen : Nat) :
    Option (List Key × AList (fun _ : Key => IdempotencyStatus Hash Response Body)) :=
  if capacity ≤ entries.entries.length ∧ activeSeen < order.length then
    match turns, order with
    | 0, _ => none
    | _ + 1, [] => some ([], entries)
    | turns + 1, oldest :: order =>
        match entries.lookup oldest with
        | some (.completed _ _) =>
            makeRoomTurns capacity turns order (entries.erase oldest) activeSeen
        | some (.active _) =>
            makeRoomTurns capacity turns (order ++ [oldest]) entries (activeSeen + 1)
        | none => makeRoomTurns capacity turns order entries activeSeen
  else some (order, entries)

omit [DecidableEq Hash] in
/-- The loop is over when every key of the queue has been visited. -/
theorem makeRoomTurns_eq {capacity turns : Nat} (hturns : unvisited.length ≤ turns) :
    makeRoomTurns capacity turns (unvisited ++ kept) entries kept.length =
      some (makeRoomLoop capacity entries unvisited kept) := by
  induction unvisited generalizing turns kept entries with
  | nil =>
    rw [makeRoomTurns.eq_def, if_neg fun h => lt_irrefl _ h.2]
    rfl
  | cons _ unvisited ih =>
    obtain ⟨turns, rfl⟩ := Nat.exists_eq_add_of_le' (Nat.one_le_of_lt hturns)
    have hrest : unvisited.length ≤ turns := le_of_succ_le_succ hturns
    rw [makeRoomTurns.eq_def, makeRoomLoop]
    by_cases hfull : capacity ≤ entries.entries.length
    · rw [if_pos ⟨hfull, by simp only [length_append, length_cons]; omega⟩, if_pos hfull]
      dsimp only [cons_append]
      split
      · exact ih hrest
      · rw [append_assoc, ← ih hrest, length_append]
        rfl
      · exact ih hrest
    · rw [if_neg fun h => hfull h.1, if_neg hfull]

/-- A call of the cache. -/
inductive Operation (Key Hash Response Body : Type) where
  | begin (key : Key) (hash : Hash)
  | complete (key : Key) (hash : Hash) (response : CachedResponse Response Body)
  | clearActive (key : Key) (hash : Hash)

def apply (c : IdempotencyCache Key Hash Response Body) :
    Operation Key Hash Response Body → IdempotencyCache Key Hash Response Body
  | .begin key hash => (c.begin key hash).2
  | .complete key hash response => c.complete key hash response
  | .clearActive key hash => c.clearActive key hash

/-- The cache after a run of calls. -/
def after (capacity : Nat) (operations : List (Operation Key Hash Response Body)) :
    IdempotencyCache Key Hash Response Body :=
  operations.foldl apply (new capacity)

theorem apply_edit (operation : Operation Key Hash Response Body) :
    ∃ key, c.Edit key (c.apply operation) := by
  cases operation with
  | begin key => exact ⟨key, begin_edit⟩
  | complete key => exact ⟨key, complete_edit⟩
  | clearActive key => exact ⟨key, clearActive_edit⟩

theorem after_sound (capacity : Nat) (operations : List (Operation Key Hash Response Body)) :
    (after capacity operations).capacity = capacity ∧ (after capacity operations).Bounded ∧
      (after capacity operations).Queued := by
  refine foldlRecOn operations apply
    (motive := fun c => c.capacity = capacity ∧ c.Bounded ∧ c.Queued) ?_ ?_
  · exact ⟨rfl, zero_le capacity, List.Perm.nil⟩
  rintro c ⟨hcap, hbounded, hqueued⟩ operation -
  obtain ⟨_, hedit⟩ := apply_edit (c := c) operation
  exact ⟨hedit.capacity.trans hcap, hedit.bounded hbounded, hedit.queued hqueued⟩

/-- A cache without room is full of active entries. -/
theorem begin_atCapacity_iff (hcap : c.capacity ≠ 0) (hbounded : c.Bounded) (hqueued : c.Queued) :
    (c.begin key hash).1 = .atCapacity ↔ c.status key = none ∧
      c.entries.entries.length = c.capacity ∧
        ∀ k ∈ c.entries, ∃ h, c.status k = some (.active h) := by
  cases hk : c.status key with
  | some =>
    rw [begin_of_some hk]
    exact iff_of_false (lookup_of_some hk).2 nofun
  | none =>
    have hroom : c.makeRoom.1 = false ↔ _ := (decide_eq_false_iff_not.trans not_lt).trans
      (makeRoomLoop_full hbounded fun _ => hqueued.mem_iff.mp)
    have hrefused : (c.begin key hash).1 = .atCapacity ↔ c.makeRoom.1 = false := by
      rw [begin_of_none hk, if_neg hcap]
      cases c.makeRoom.1 <;> simp
    rw [hrefused, hroom, eq_self, true_and, le_antisymm_iff, and_iff_right (a := _ ≤ _) hbounded]
    exact and_congr_right fun _ => forall_congr' fun k => imp_congr_left hqueued.mem_iff

/-- **The cache over whole runs.**  Its queue holds the keys of its table, each once; it stays
within its capacity; an active entry is given up by the calls for its own key and hash only;
`begin` refuses a new key when the cache is full of active entries, and at no other time; what
is completed is replayed for its hash and refused for another; and the loop that makes room is
over when it has gone through the queue. -/
theorem cache_over_runs {capacity : Nat} (hcapacity : 1 ≤ capacity)
    (operations : List (Operation Key Hash Response Body)) :
    let c := after capacity operations
    (c.order.Nodup ∧ ∀ k, k ∈ c.order ↔ k ∈ c.entries) ∧
    c.entries.entries.length ≤ capacity ∧
    (∀ operation k h, c.status k = some (.active h) →
      (c.apply operation).status k ≠ some (.active h) →
        operation = .clearActive k h ∨ ∃ response, operation = .complete k h response) ∧
    (∀ key hash, (c.begin key hash).1 = .atCapacity ↔ key ∉ c.entries ∧
      c.entries.entries.length = capacity ∧
        ∀ k ∈ c.entries, ∃ h, c.status k = some (.active h)) ∧
    (∀ key existing response, c.status key = some (.completed existing response) →
      (c.begin key existing).1 = .replay response ∧
      ∀ hash, hash ≠ existing → (c.begin key hash).1 = .duplicate key "completed") ∧
    ∀ turns, c.order.length ≤ turns →
      makeRoomTurns c.capacity turns c.order c.entries 0 =
        some (makeRoomLoop c.capacity c.entries c.order []) := by
  intro c
  obtain ⟨hcap, hbounded, hqueued⟩ := after_sound capacity operations
  refine ⟨⟨hqueued.nodup_iff.mpr c.entries.nodupKeys, fun _ => hqueued.mem_iff⟩,
    hcap ▸ hbounded, ?_, ?_, ?_, ?_⟩
  · rintro operation k h hk hlost
    cases operation with
    | begin _ => exact absurd (begin_keeps_active hk) hlost
    | complete key hash response =>
      by_cases hown : k = key ∧ h = hash
      · obtain ⟨rfl, rfl⟩ := hown
        exact .inr ⟨response, rfl⟩
      · exact absurd (complete_keeps_active response hk hown) hlost
    | clearActive key hash =>
      by_cases hown : k = key ∧ h = hash
      · obtain ⟨rfl, rfl⟩ := hown
        exact .inl rfl
      · exact absurd (clearActive_keeps_active hk hown) hlost
  · intro _ _
    rw [begin_atCapacity_iff (by omega) hbounded hqueued, hcap, status, AList.lookup_eq_none]
  · intro _ _ _ hk
    refine ⟨?_, fun _ hne => ?_⟩ <;> rw [begin_of_some hk, lookup, hk]
    · exact if_pos rfl
    · exact if_neg hne.symm
  · intro _ hturns
    rw [← makeRoomTurns_eq hturns, append_nil, length_nil]

/-- A cache of one entry: what is completed is replayed, and evicted for the next key, which is
kept while it is active. -/
theorem one_active_entry :
    let done : IdempotencyCache String Nat Unit Unit :=
      after 1 [.begin "a" 7, .complete "a" 7 ⟨(), []⟩]
    let next : IdempotencyCache String Nat Unit Unit :=
      after 1 [.begin "a" 7, .complete "a" 7 ⟨(), []⟩, .begin "b" 8]
    ((done.begin "a" 7).1 = .replay ⟨(), []⟩ ∧
      (done.begin "a" 9).1 = .duplicate "a" "completed") ∧
    next.status "a" = none ∧ next.status "b" = some (.active 8) ∧
      (next.begin "a" 7).1 = .atCapacity ∧ next.entries.entries.length ≤ 1 := by
  intro done next
  obtain ⟨hreplay, hdup⟩ :=
    (cache_over_runs (by decide) _).2.2.2.2.1 "a" 7 ⟨(), []⟩ (by decide : done.status "a" = _)
  have hbound : next.entries.entries.length ≤ 1 := (cache_over_runs (by decide) _).2.1
  exact ⟨⟨hreplay, hdup 9 (by decide)⟩, by decide, by decide, by decide, hbound⟩

end IdempotencyCache
end Voom
