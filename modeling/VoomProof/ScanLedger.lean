import VoomProof.ScanWatermark

/-!
# The ledger of a scan session

The counters of a session, its batches and the locations that it has retired are in three
tables, and each call of a node checks one against the other before it goes on
(`validate_batch_link`, `validate_batch_replay_parent_frontier_in_tx`,
`validate_completion_ledger_in_tx`). `ScanSession.Ledger` is what these checks ask of one
session, and `Ledgers` what they ask of the tables; every call keeps both, so an accepted batch
is found again whatever has happened since (`sessions_ledger`).
-/

namespace Voom
open Fallible ListUpdate Runs List Option

/-! ## One session -/

namespace ScanSession
open ScanWorld

/-- The sizes of the batches, summed up. -/
def observationTotal : List AcceptedBatch → Nat
  | [] => 0
  | batch :: batches => batch.observations.length + observationTotal batches

theorem observationTotal_append (batches batches' : List AcceptedBatch) :
    observationTotal (batches ++ batches') =
      observationTotal batches + observationTotal batches' := by
  induction batches with
  | nil => simp [observationTotal]
  | cons =>
    simp only [cons_append, observationTotal]
    omega

/-- What the row of a session says about its batches. -/
structure Ledger (session : ScanSession) : Prop where
  numbered : session.batches.length = session.nextSequence
  counted : session.batchCount = session.nextSequence
  batches : ∀ (sequence : Nat) (row : AcceptedBatch), session.batches[sequence]? = some row →
    isLowercaseSha256 row.requestHash = true ∧
      (1 ≤ row.observations.length ∧ row.observations.length ≤ 1000) ∧
      row.cumulativeObservationCount = observationTotal (session.batches.take (sequence + 1))
  total : session.observationCount = observationTotal session.batches
  capacity : session.observationCount ≤ 100000
  distinct : (batchLocators session.observations).Nodup
  unretired : session.status ≠ .succeeded → session.retiredLocationCount = 0

section Ledger
variable {session session' : ScanSession} {sequence : Nat} {row : AcceptedBatch}
  {batch : ScanObservationBatch}

theorem New.ledger (h : session.New) : session.Ledger where
  numbered := by simp [h.batches, h.nextSequence]
  counted := by rw [h.batchCount, h.nextSequence]
  batches := by simp [h.batches]
  total := by simp [h.observationCount, h.batches, observationTotal]
  capacity := by simp [h.observationCount]
  distinct := by simp [observations, h.batches, batchLocators]
  unretired := fun _ => h.retiredLocationCount

theorem validateBatchInput_ok (h : validateBatchInput sequence batch = .ok ()) :
    (1 ≤ batch.observations.length ∧ batch.observations.length ≤ 1000) ∧
      isLowercaseSha256 batch.requestHash = true := by
  simp only [validateBatchInput, bind_ok, require_ok] at h
  obtain ⟨_, hsize, _, -, _, hhash, -⟩ := h
  exact ⟨hsize, hhash⟩

/-- One more batch. -/
theorem Ledger.accepted {now : Instant} (h : session.Ledger) (hrun : session.status = .running)
    (hval : validateBatchInput session.nextSequence batch = .ok ())
    (hdist : (batchLocators batch.observations).Nodup)
    (hunseen : ∀ locator ∈ batchLocators batch.observations, session.observed locator = false)
    (hcap : session.observationCount + batch.observations.length ≤ 100000) :
    (acceptedRow session batch now).Ledger where
  numbered := by simp [acceptedRow, h.numbered]
  counted := congrArg (· + 1) h.counted
  batches := by
    obtain ⟨hsize, hhash⟩ := validateBatchInput_ok hval
    intro sequence row hrow
    rcases getElem?_concat_cases hrow with hold | ⟨rfl, rfl⟩
    · have hlt := lt_length hold
      have htake : (acceptedRow session batch now).batches.take (sequence + 1) =
          session.batches.take (sequence + 1) := take_append_of_le_length hlt
      rw [htake]
      exact h.batches sequence row hold
    · refine ⟨hhash, hsize, ?_⟩
      have htake : (acceptedRow session batch now).batches.take (session.batches.length + 1) =
          (acceptedRow session batch now).batches := take_of_length_le (by simp [acceptedRow])
      rw [htake]
      simp [acceptedRow, observationTotal_append, observationTotal, h.total]
  total := by simp [acceptedRow, observationTotal_append, observationTotal, h.total]
  capacity := hcap
  distinct := by
    have happ : batchLocators (acceptedRow session batch now).observations =
        batchLocators session.observations ++ batchLocators batch.observations := by
      simp [acceptedRow, observations, batchLocators]
    rw [happ]
    refine nodup_append.mpr ⟨h.distinct, hdist, ?_⟩
    rintro _ hseen _ hnew rfl
    obtain ⟨_, hobs, rfl⟩ := mem_map.mp hseen
    cases (observed_of_mem hobs).symm.trans (hunseen _ hnew)
  unretired := fun _ => h.unretired (by rw [hrun]; decide)

theorem Next.ledger (hnext : session.Next session') (h : session.Ledger) : session'.Ledger := by
  cases hnext with
  | same => exact h
  | ended hact =>
    refine ⟨h.numbered, h.counted, h.batches, h.total, h.capacity, h.distinct,
      fun _ => h.unretired ?_⟩
    intro hsucc
    rw [hsucc] at hact
    cases hact
  | started _ _ _ hreq =>
    exact ⟨h.numbered, h.counted, h.batches, h.total, h.capacity, h.distinct,
      fun _ => h.unretired (by rw [hreq]; decide)⟩
  | accepted _ hrun hval hdist hunseen hcap =>
    exact h.accepted hrun hval hdist hunseen hcap

theorem Ledger.succeeded (h : session.Ledger) (retired : Nat) :
    (succeededRow session retired).Ledger :=
  ⟨h.numbered, h.counted, h.batches, h.total, h.capacity, h.distinct, fun hne => absurd rfl hne⟩

theorem Next.active (h : session.Next session') (hact : session'.status.isActive = true) :
    session.status.isActive = true := by
  cases h with
  | same => exact hact
  | ended hbef => exact hbef
  | started _ _ _ hreq => rw [hreq]; rfl
  | accepted _ hrun => rw [hrun]; rfl

theorem Next.retiredLocationCount (h : session.Next session') :
    session'.retiredLocationCount = session.retiredLocationCount := by
  cases h <;> rfl

/-- What is over stays as it is. -/
theorem Next.terminal (h : session.Next session') (hover : session.status.isActive = false) :
    session' = session := by
  cases h with
  | same => rfl
  | ended hact => cases hact.symm.trans hover
  | started _ _ _ hreq =>
    rw [hreq] at hover
    cases hover
  | accepted _ hrun =>
    rw [hrun] at hover
    cases hover

/-! ### Finding a batch again -/

section
variable (h : session.Ledger) (hrow : session.batches[sequence]? = some row)
include h hrow

theorem Ledger.cumulative_le : row.cumulativeObservationCount ≤ session.observationCount := by
  have happ := observationTotal_append (session.batches.take (sequence + 1))
    (session.batches.drop (sequence + 1))
  rw [take_append_drop] at happ
  rw [(h.batches sequence row hrow).2.2, h.total]
  omega

theorem Ledger.cumulative_last (hlast : sequence + 1 = session.nextSequence) :
    row.cumulativeObservationCount = session.observationCount := by
  rw [(h.batches sequence row hrow).2.2, h.total, hlast, ← h.numbered, take_length]

/-- Every row continues its predecessor. -/
theorem Ledger.batchLink_ok (id : ScanSessionId) :
    batchLink id session sequence row =
      .ok ⟨id, sequence, row.observations.length, row.cumulativeObservationCount⟩ := by
  obtain ⟨-, hsize, hsum⟩ := h.batches sequence row hrow
  have hstep : row.cumulativeObservationCount =
      observationTotal (session.batches.take sequence) + row.observations.length := by
    rw [hsum, take_add_one, hrow, observationTotal_append]
    rfl
  have hbef : (if sequence = 0 then some 0
      else session.batches[sequence - 1]?.map (·.cumulativeObservationCount)) =
      some (observationTotal (session.batches.take sequence)) := by
    cases sequence with
    | zero => rfl
    | succ previous =>
      have hlt := lt_length hrow
      have hprev := getElem?_eq_getElem (Nat.lt_of_succ_lt hlt)
      rw [if_neg (Nat.succ_ne_zero previous), Nat.add_sub_cancel, hprev, map_some,
        (h.batches previous _ hprev).2.2]
  have hcap := h.cumulative_le hrow
  have := h.capacity
  simp only [batchLink, bind_ok, require_ok, return_ok, hbef]
  exact ⟨(), ⟨hsize.1, hsize.2, by omega, by omega⟩, (), congrArg some hstep.symm, trivial⟩

/-- **An accepted batch is answered again with what it was answered first.** -/
theorem Ledger.replayBatch_ok (id : ScanSessionId) (hhash : row.requestHash = batch.requestHash) :
    replayBatch id session sequence batch row =
      .ok ⟨id, sequence, row.observations.length, row.cumulativeObservationCount⟩ := by
  have hlt := lt_length hrow
  have hnumbered := h.numbered
  -- the last row of the ledger
  obtain ⟨last, hlast⟩ : ∃ last, session.batches[session.nextSequence - 1]? = some last :=
    ⟨_, List.getElem?_eq_getElem (by omega)⟩
  have hfrontier : ¬ (session.nextSequence < sequence + 1 ∨ (sequence + 1 = session.nextSequence ∧
      (session.batchCount ≠ sequence + 1 ∨
        session.observationCount ≠ row.cumulativeObservationCount))) ∧
          session.nextSequence ≠ 0 := by
    refine ⟨?_, by omega⟩
    rintro (_ | ⟨hend, hcount | hcount⟩)
    · omega
    · exact hcount (h.counted.trans hend.symm)
    · exact hcount (h.cumulative_last hrow hend).symm
  simp only [replayBatch, validateFrontier, bind_ok, require_ok, find_ok]
  exact ⟨_, h.batchLink_ok hrow id, (), (h.batches sequence row hrow).1, (), hhash, (), hfrontier,
    (), ⟨last, hlast, _, h.batchLink_ok hlast id, h.cumulative_last hlast (by omega)⟩, rfl⟩

/-- A batch with another hash is not taken for the accepted one. -/
theorem Ledger.replayBatch_conflict (id : ScanSessionId)
    (hhash : row.requestHash ≠ batch.requestHash) :
    replayBatch id session sequence batch row =
      .error (.conflict (s!"scan session {id} batch {sequence} request hash conflicts with " ++
        "accepted batch")) := by
  have hval := (h.batches sequence row hrow).1
  simp only [replayBatch, h.batchLink_ok hrow id, hval, hhash]
  rfl

end

end Ledger

end ScanSession

/-! ## Locations that a scan has retired -/

namespace IdentityStore

/-- The number of locations that name the session. -/
def attributedLocationCount (s : IdentityStore) (id : ScanSessionId) : Nat :=
  s.locations.countP (·.retiredByScanSession = some id)

/-- The sessions that the locations name, one entry for each. -/
def attributed (s : IdentityStore) : List ScanSessionId :=
  s.locations.filterMap (·.retiredByScanSession)

/-- No live location names a session. -/
def LiveUnattributed (s : IdentityStore) : Prop :=
  ∀ row ∈ s.locations, row.retired = false → row.retiredByScanSession = none

section Attribution
variable {s s' : IdentityStore}

theorem attributedLocationCount_eq (s : IdentityStore) (id : ScanSessionId) :
    s.attributedLocationCount id = s.attributed.count id := by
  rw [attributed, count_filterMap]
  refine countP_congr fun _ _ => ?_
  simp

theorem mem_attributed {id : ScanSessionId} :
    id ∈ s.attributed ↔ ∃ row ∈ s.locations, row.retiredByScanSession = some id :=
  mem_filterMap

theorem setLocation_attributed {id : FileLocationId} {row row' : FileLocation}
    (hrow : s.locations[id]? = some row)
    (hsame : row'.retiredByScanSession = row.retiredByScanSession) :
    (s.setLocation id row').attributed = s.attributed := by
  have hmap : (s.locations.set id row').map (·.retiredByScanSession) =
      s.locations.map (·.retiredByScanSession) := by
    refine ext_getElem? fun _ => ?_
    rw [getElem?_map, getElem?_map, getElem?_set_at hrow]
    split
    next heq => rw [heq, hrow, map_some, map_some, hsame]
    · rfl
  have hreduce : ∀ locations : List FileLocation, locations.filterMap (·.retiredByScanSession) =
      (locations.map (·.retiredByScanSession)).filterMap (fun named => named) := by
    intro _
    rw [filterMap_map]
    rfl
  rw [attributed, setLocation, hreduce, hmap, ← hreduce]
  rfl

/-- **No write of an identity call attributes a location to a scan, or takes one away.** -/
theorem Change.attributed (h : Change s s') (hlive : s.LiveUnattributed) :
    s'.attributed = s.attributed ∧ s'.LiveUnattributed := by
  cases h with
  | located =>
    refine ⟨by simp [IdentityStore.attributed, NewFileLocation.row], fun row hrow => ?_⟩
    rcases mem_append.mp hrow with hold | hnew
    · exact hlive row hold
    · obtain rfl := mem_singleton.mp hnew
      exact fun _ => rfl
  | retired hrow =>
    refine ⟨setLocation_attributed hrow rfl, fun row hmem hret => ?_⟩
    rcases mem_set_cases hmem with rfl | hold
    · cases hret
    · exact hlive row (mem_of_mem_eraseIdx hold) hret
  | moved _ _ hrow hbef =>
    refine ⟨setLocation_attributed hrow rfl, fun row hmem hret => ?_⟩
    have hunnamed := hlive _ (mem_of_getElem? hrow) hbef
    rcases mem_set_cases hmem with rfl | hold
    · exact hunnamed
    · exact hlive row (mem_of_mem_eraseIdx hold) hret
  | _ => exact ⟨rfl, hlive⟩

theorem Changes.attributed (h : Changes s s') (hlive : s.LiveUnattributed) :
    s'.attributed = s.attributed ∧ s'.LiveUnattributed := by
  induction h with
  | refl => exact ⟨rfl, hlive⟩
  | tail _ hchange ih =>
    obtain ⟨hsame, hlive'⟩ := hchange.attributed ih.2
    exact ⟨hsame.trans ih.1, hlive'⟩

/-- Nor does publication. -/
theorem Adds.attributed {root : StorageRootId} {names : List String} (h : Adds root names s s')
    (hlive : s.LiveUnattributed) : s'.attributed = s.attributed ∧ s'.LiveUnattributed := by
  obtain ⟨rest, hrest⟩ := h.grows.locations
  have hnew : ∀ row ∈ rest, row.retiredByScanSession = none := by
    intro _ hrow
    obtain ⟨place, hplace, rfl⟩ := getElem_of_mem hrow
    refine h.unattributed (s.locations.length + place) _ ?_ (Nat.le_add_right _ _)
    rw [← hrest, getElem?_append_right (Nat.le_add_right _ _), Nat.add_sub_cancel_left,
      getElem?_eq_getElem hplace]
  constructor
  · have hnone : rest.filterMap (·.retiredByScanSession) = [] :=
      filterMap_eq_nil_iff.mpr hnew
    rw [IdentityStore.attributed, ← hrest, filterMap_append, hnone, append_nil]
    rfl
  · intro row hrow
    rw [← hrest] at hrow
    rcases mem_append.mp hrow with hold | hadded
    · exact hlive row hold
    · exact fun _ => hnew row hadded

end Attribution

section Reconciled
variable {s : IdentityStore} {session : ScanSession} {id : ScanSessionId}

theorem mem_reconciled {row' : FileLocation}
    (h : row' ∈ (session.retireCompletionCandidates id s).locations) :
    ∃ row ∈ s.locations, ∃ place, row' = session.reconcile id place row := by
  obtain ⟨place, hplace⟩ := mem_iff_getElem?.mp h
  rw [ScanSession.retireCompletionCandidates_getElem?] at hplace
  obtain ⟨row, hrow, rfl⟩ := map_eq_some_iff.mp hplace
  exact ⟨row, mem_of_getElem? hrow, place, rfl⟩

theorem LiveUnattributed.reconciled (h : s.LiveUnattributed) :
    (session.retireCompletionCandidates id s).LiveUnattributed := by
  intro _ hrow' hlive
  obtain ⟨row, hrow, _, rfl⟩ := mem_reconciled hrow'
  unfold ScanSession.reconcile at hlive ⊢
  split at hlive
  · cases hlive
  next hnot =>
    rw [if_neg hnot]
    exact h row hrow hlive

theorem attributed_reconciled {other : ScanSessionId}
    (h : other ∈ (session.retireCompletionCandidates id s).attributed) :
    other = id ∨ other ∈ s.attributed := by
  obtain ⟨_, hrow', hnamed⟩ := mem_attributed.mp h
  obtain ⟨row, hrow, _, rfl⟩ := mem_reconciled hrow'
  unfold ScanSession.reconcile at hnamed
  split at hnamed
  · exact .inl (some.inj hnamed).symm
  · exact .inr (mem_attributed.mpr ⟨row, hrow, hnamed⟩)

/-- The count of every other session stays, and the completed one gets its candidates. -/
theorem attributedLocationCount_reconciled (h : s.LiveUnattributed) (hnone : id ∉ s.attributed)
    (other : ScanSessionId) :
    (session.retireCompletionCandidates id s).attributedLocationCount other =
      if other = id then (session.completionCandidates s).length
      else s.attributedLocationCount other := by
  have hrows : (session.retireCompletionCandidates id s).attributedLocationCount other =
      s.locations.zipIdx.countP fun entry =>
        (session.reconcile id entry.2 entry.1).retiredByScanSession = some other := by
    rw [attributedLocationCount, ScanSession.retireCompletionCandidates, mapIdx_eq_zipIdx_map,
      countP_map]
    rfl
  rw [hrows]
  split
  next heq =>
    subst heq
    rw [ScanSession.completionCandidates, length_map, ← countP_eq_length_filter]
    refine countP_congr fun entry hentry => ?_
    have hunnamed : entry.1.retiredByScanSession ≠ some other := fun hnamed =>
      hnone (mem_attributed.mpr ⟨entry.1, fst_mem_of_mem_zipIdx hentry, hnamed⟩)
    unfold ScanSession.reconcile
    split
    next hcand => simp [hcand]
    next hnot => simp [hunnamed, hnot]
  next hne =>
  have hcount : s.attributedLocationCount other =
      s.locations.zipIdx.countP fun entry => entry.1.retiredByScanSession = some other := by
    conv_lhs => rw [attributedLocationCount, ← zipIdx_map_fst 0 s.locations, countP_map]
    rfl
  rw [hcount]
  refine countP_congr fun entry hentry => ?_
  unfold ScanSession.reconcile
  split
  next hcand =>
    -- a candidate is live, and so it names nobody before
    obtain ⟨-, -, -, -, hlive, -, -⟩ := ScanSession.isCandidate_iff.mp hcand
    have hunnamed := h entry.1 (fst_mem_of_mem_zipIdx hentry) hlive
    simp [hunnamed, Ne.symm hne]
  · rfl

end Reconciled

end IdentityStore

/-! ## All sessions -/

namespace ScanWorld
open IdentityStore

/-- At most one session of a root is requested or running. -/
def OneActive (w : ScanWorld) : Prop :=
  ∀ (id id' : ScanSessionId) (session session' : ScanSession), w.sessions[id]? = some session →
    w.sessions[id']? = some session' → session.storageRootId = session'.storageRootId →
    session.status.isActive = true → session'.status.isActive = true → id = id'

/-- The three tables agree. -/
structure Ledgers (w : ScanWorld) : Prop where
  oneActive : w.OneActive
  sessions : ∀ (id : ScanSessionId) (session : ScanSession), w.sessions[id]? = some session →
    session.Ledger ∧ w.catalog.identity.attributedLocationCount id = session.retiredLocationCount
  live : w.catalog.identity.LiveUnattributed
  attributed : ∀ id ∈ w.catalog.identity.attributed, ∃ session, w.sessions[id]? = some session ∧
    session.status = .succeeded

section Steps
variable {w w' : ScanWorld} {e : Event} {events : List Event} {id : ScanSessionId}
  {session session' : ScanSession}

theorem initial_ledgers (roots : List StorageRootId) : Ledgers (initial roots) where
  oneActive := fun _ _ _ _ h => by cases h
  sessions := fun _ _ h => by cases h
  live := fun _ h => by cases h
  attributed := fun _ h => by cases h

theorem attributedLocationCount_zero (hledgers : Ledgers w)
    (hother : ∀ session, w.sessions[id]? = some session → session.status ≠ .succeeded) :
    id ∉ w.catalog.identity.attributed ∧ w.catalog.identity.attributedLocationCount id = 0 := by
  have hnone : id ∉ w.catalog.identity.attributed := by
    intro hmem
    obtain ⟨session, hsess, hsucc⟩ := hledgers.attributed id hmem
    exact hother session hsess hsucc
  exact ⟨hnone, by rw [attributedLocationCount_eq, count_eq_zero_of_not_mem hnone]⟩

/-- A session is one of those before, or it has just been requested. -/
theorem SessionsNext.cases (h : SessionsNext w w') (hsess' : w'.sessions[id]? = some session') :
    (∃ session, w.sessions[id]? = some session ∧ session.Next session') ∨
      (w.sessions[id]? = none ∧ session'.New ∧
        ∀ (other : ScanSessionId) (row : ScanSession), w'.sessions[other]? = some row →
          row.storageRootId = session'.storageRootId → row.status.isActive = true →
            other = id) := by
  cases hsess : w.sessions[id]? with
  | none =>
    exact .inr ⟨rfl, h.requested id session' (getElem?_eq_none_iff.mp hsess) hsess'⟩
  | some session =>
    obtain ⟨_, hfound, hnext⟩ := h.kept id session hsess
    obtain rfl := some_unique hsess' hfound
    exact .inl ⟨session, rfl, hnext⟩

theorem SessionsNext.oneActive (h : SessionsNext w w') (hone : w.OneActive) : w'.OneActive := by
  intro id id' session session' hsess hsess' hroot hact hact'
  rcases h.cases hsess with ⟨before, hbef, hnext⟩ | ⟨-, -, honly⟩
  · rcases h.cases hsess' with ⟨before', hbef', hnext'⟩ | ⟨-, -, honly⟩
    · refine hone id id' before before' hbef hbef' ?_ (hnext.active hact) (hnext'.active hact')
      rw [← hnext.later.root, ← hnext'.later.root, hroot]
    · exact honly id session hsess hroot hact
  · exact (honly id' session' hsess' hroot.symm hact').symm

theorem SessionsNext.ledgers (h : SessionsNext w w') (hcat : w'.catalog = w.catalog)
    (hledgers : Ledgers w) : Ledgers w' where
  oneActive := h.oneActive hledgers.oneActive
  sessions := by
    intro id _ hsess'
    rw [hcat]
    rcases h.cases hsess' with ⟨session, hsess, hnext⟩ | ⟨hnone, hnew, -⟩
    · obtain ⟨hledger, hcount⟩ := hledgers.sessions id session hsess
      exact ⟨hnext.ledger hledger, hcount.trans hnext.retiredLocationCount.symm⟩
    · refine ⟨hnew.ledger, ?_⟩
      rw [hnew.retiredLocationCount]
      refine (attributedLocationCount_zero hledgers fun session hsess => ?_).2
      cases hnone.symm.trans hsess
  live := hcat ▸ hledgers.live
  attributed := by
    rw [hcat]
    intro id hid
    obtain ⟨session, hsess, hsucc⟩ := hledgers.attributed id hid
    obtain ⟨_, hsess', hnext⟩ := h.kept id session hsess
    obtain rfl := hnext.terminal (by rw [hsucc]; rfl)
    exact ⟨_, hsess', hsucc⟩

theorem completedWorld_sessions {published : ScanCatalog}
    (hsess : w.sessions[id]? = some session) (other : ScanSessionId) :
    (w.completedWorld id session published).sessions[other]? =
      if other = id then
        some (succeededRow session (session.completionCandidates published.identity).length)
      else w.sessions[other]? :=
  getElem?_set_at hsess other

theorem completed_ledgers {published : ScanCatalog} {env : PublishEnv}
    {summary : ScanCatalog.PublicationSummary} (hsess : w.sessions[id]? = some session)
    (hrun : session.status = .running)
    (hpub : w.catalog.publishSessionEvidence env session.storageRootId session.observations =
      .ok (summary, published)) (hledgers : Ledgers w) :
    Ledgers (w.completedWorld id session published) := by
  obtain ⟨hsame, hlive⟩ :=
    (ScanCatalog.publishSessionEvidence_ok hpub).1.attributed hledgers.live
  have hother : ∀ found, w.sessions[id]? = some found → found.status ≠ .succeeded := by
    intro _ hfound
    obtain rfl := some_unique hsess hfound
    rw [hrun]
    decide
  have hnone := (attributedLocationCount_zero hledgers hother).1
  rw [← hsame] at hnone
  refine ⟨?_, ?_, hlive.reconciled, ?_⟩
  · intro first second row row' hrow hrow' hroot hact hact'
    rw [completedWorld_sessions hsess] at hrow hrow'
    split at hrow
    · cases hrow
      cases hact
    · split at hrow'
      · cases hrow'
        cases hact'
      · exact hledgers.oneActive first second row row' hrow hrow' hroot hact hact'
  · intro other row hrow
    have hcount : (session.retireCompletionCandidates id
        published.identity).attributedLocationCount other =
        if other = id then (session.completionCandidates published.identity).length
        else published.identity.attributedLocationCount other :=
      attributedLocationCount_reconciled hlive hnone other
    rw [completedWorld_sessions hsess] at hrow
    split at hrow
    next heq =>
      cases hrow
      rw [if_pos heq] at hcount
      exact ⟨(hledgers.sessions id session hsess).1.succeeded _, hcount⟩
    next hne =>
    obtain ⟨hledger, hbef⟩ := hledgers.sessions other row hrow
    have hkept : published.identity.attributedLocationCount other =
        w.catalog.identity.attributedLocationCount other := by
      rw [attributedLocationCount_eq, attributedLocationCount_eq, hsame]
    rw [if_neg hne, hkept, hbef] at hcount
    exact ⟨hledger, hcount⟩
  · intro other hother
    rw [completedWorld_sessions hsess]
    split
    · exact ⟨_, rfl, rfl⟩
    next hne =>
    rcases attributed_reconciled hother with heq | hold
    · exact absurd heq hne
    · exact hledgers.attributed other (hsame ▸ hold)

/-- **Every call keeps the tables in agreement.** -/
theorem step_ledgers (h : w.step e = some w') (hledgers : Ledgers w) : Ledgers w' := by
  cases step_moves h with
  | sessions hnext hcat => exact hnext.ledgers hcat hledgers
  | @identity c _ _ hident =>
    obtain ⟨hsame, hlive⟩ := Changes.attributed (call_changes hident) hledgers.live
    refine ⟨hledgers.oneActive, fun id session hsess => ?_, hlive, ?_⟩
    · obtain ⟨hledger, hcount⟩ := hledgers.sessions id session hsess
      refine ⟨hledger, ?_⟩
      rw [attributedLocationCount_eq, hsame, ← attributedLocationCount_eq, hcount]
    · rw [hsame]
      exact hledgers.attributed
  | completed hsess hrun hpub =>
    exact completed_ledgers hsess hrun hpub hledgers

theorem run_ledgers {roots : List StorageRootId} (h : Run step always (initial roots) events w) :
    Ledgers w :=
  h.invariant (I := Ledgers) (fun hledgers _ hstep => step_ledgers hstep hledgers)
    (initial_ledgers roots)

theorem step_terminal (h : w.step e = some w') (hsess : w.sessions[id]? = some session)
    (hover : session.status.isActive = false) : w'.sessions[id]? = some session := by
  cases step_moves h with
  | sessions hnext =>
    obtain ⟨_, hsess', hrow⟩ := hnext.kept id session hsess
    rw [hsess', hrow.terminal hover]
  | identity => exact hsess
  | @completed _ _ _ _ hrun hstat =>
    rw [completedWorld_sessions hrun]
    split
    next heq =>
      subst heq
      obtain rfl := some_unique hsess hrun
      rw [hstat] at hover
      cases hover
    · exact hsess

/-- A session that is over never changes. -/
theorem run_terminal (h : Run step always w events w') (hsess : w.sessions[id]? = some session)
    (hover : session.status.isActive = false) : w'.sessions[id]? = some session :=
  h.invariant (I := fun u => u.sessions[id]? = some session)
    (fun hu _ hstep => step_terminal hstep hu hover) hsess

end Steps

/-! ## Submitting a batch again -/

section Replay
variable {w w₀ w₁ : ScanWorld} {env env' : ScanEnv} {id : ScanSessionId} {session : ScanSession}
  {node node' : NodeId} {incarnation incarnation' : NodeIncarnationId} {sequence : Nat}
  {batch batch' : ScanObservationBatch} {now now' : Instant} {row : AcceptedBatch}
  {outcome : ScanBatchOutcome} {events : List Event}

theorem prepareBatch_of_encodedLength (h : env'.encodedLength = env.encodedLength) :
    prepareBatch env' batch = prepareBatch env batch := by
  unfold prepareBatch
  rw [h]

/-- Whatever is submitted under the number of an accepted batch changes nothing. -/
theorem acceptedBatch_snd (hrow : session.batches[sequence]? = some row) {w' : ScanWorld}
    (h : w.acceptedBatch env id session sequence batch now = .ok (outcome, w')) : w' = w := by
  cases (acceptedBatch_ok h).2 with
  | replayed => rfl
  | appended hnew => cases hnew.symm.trans hrow

/-- The batch is in the ledger, under the hash and with the counts of its answer. -/
def Recorded (w : ScanWorld) (id : ScanSessionId) (node : NodeId) (sequence : Nat) (hash : String)
    (outcome : ScanBatchOutcome) : Prop :=
  ∃ session row, w.sessions[id]? = some session ∧ session.ownerNodeId = node ∧
    session.batches[sequence]? = some row ∧ row.requestHash = hash ∧
    outcome = ⟨id, sequence, row.observations.length, row.cumulativeObservationCount⟩

theorem Recorded.run {hash : String} (h : Recorded w₀ id node sequence hash outcome)
    (hrun : Run step always w₀ events w) : Recorded w id node sequence hash outcome := by
  obtain ⟨session, row, hsess, hnode, hrow, hhash, hout⟩ := h
  obtain ⟨session', hsess', hlater⟩ := (run_sessions hrun).kept id session hsess
  exact ⟨session', row, hsess', hlater.owner.trans hnode,
    getElem?_of_isPrefix hlater.batches hrow, hhash, hout⟩

theorem recorded_of_accept (hledgers : Ledgers w₀)
    (h : w₀.acceptScanObservationBatch env id node incarnation sequence batch now =
      (.ok outcome, w₁)) : Recorded w₁ id node sequence batch.requestHash outcome := by
  obtain ⟨-, -, _, howned, hacc⟩ := acceptScanObservationBatch_ok h
  simp only [ownedScanSession, bind_ok, find_ok, require_ok, return_ok] at howned
  obtain ⟨_, hsess, _, hnode, rfl⟩ := howned
  have hledger := (hledgers.sessions id _ hsess).1
  cases hacc with
  | @replayed row _ hrow hrepl =>
    by_cases hhash : row.requestHash = batch.requestHash
    · refine ⟨_, row, hsess, hnode, hrow, hhash, ?_⟩
      rw [hledger.replayBatch_ok hrow id hhash] at hrepl
      exact (Except.ok.inj hrepl).symm
    · rw [hledger.replayBatch_conflict hrow id hhash] at hrepl
      cases hrepl
  | appended _ _ hseq =>
    refine ⟨_, ⟨batch, _⟩, getElem?_set_here hsess, hnode, ?_, rfl, rfl⟩
    rw [← hseq, ← hledger.numbered]
    exact getElem?_concat_length

/-- The answer for a batch that is below the next one. -/
theorem accept_below (hval : validateBatchInput sequence batch = .ok ())
    (howned : w.ownedScanSession id node = .ok session) (hbelow : sequence < session.nextSequence) :
    w.acceptScanObservationBatch env id node incarnation sequence batch now =
      (((w.acceptedBatch env id session sequence batch now).map (·.1)),
        (w.settle ((w.acceptedBatch env id session sequence batch now).map (·.2))).2) := by
  simp only [acceptScanObservationBatch, hval, howned, if_pos hbelow]
  cases w.acceptedBatch env id session sequence batch now <;> rfl

/-- A call under the number of an accepted batch, by whomever. -/
theorem accept_recorded (hledgers : Ledgers w) {hash : String}
    (h : Recorded w id node sequence hash outcome) :
    (w.acceptScanObservationBatch env' id node' incarnation' sequence batch' now').2 = w ∧
      (batch'.requestHash ≠ hash → ∃ error,
        (w.acceptScanObservationBatch env' id node' incarnation' sequence batch' now').1 =
          .error error) := by
  obtain ⟨session, _, hsess, -, hrow, rfl, -⟩ := h
  have hledger := (hledgers.sessions id session hsess).1
  cases hval : validateBatchInput sequence batch' with
  | error error =>
    simp only [acceptScanObservationBatch, hval]
    exact ⟨trivial, fun _ => ⟨error, rfl⟩⟩
  | ok =>
    cases howned : w.ownedScanSession id node' with
    | error error =>
      simp only [acceptScanObservationBatch, hval, howned]
      exact ⟨trivial, fun _ => ⟨error, rfl⟩⟩
    | ok found =>
      obtain rfl := some_unique hsess (ownedScanSession_ok howned)
      have hbelow : sequence < session.nextSequence := by
        rw [← hledger.numbered]
        exact lt_length hrow
      rw [accept_below hval howned hbelow]
      cases hacc : w.acceptedBatch env' id session sequence batch' now' with
      | error error => exact ⟨rfl, fun _ => ⟨error, rfl⟩⟩
      | ok result =>
        obtain ⟨_, _⟩ := result
        refine ⟨acceptedBatch_snd hrow hacc, fun hhash => ?_⟩
        -- another hash has not passed
        cases (acceptedBatch_ok hacc).2 with
        | @replayed _ _ hfound hrepl =>
          obtain rfl := some_unique hrow hfound
          rw [hledger.replayBatch_conflict hrow id (Ne.symm hhash)] at hrepl
          cases hrepl
        | appended hnew => cases hnew.symm.trans hrow

/-- The owner submits it again. -/
theorem accept_again (hledgers : Ledgers w)
    (h : Recorded w id node sequence batch.requestHash outcome)
    (hval : validateBatchInput sequence batch = .ok ()) (hprep : prepareBatch env batch = .ok ()) :
    w.acceptScanObservationBatch env id node incarnation sequence batch now = (.ok outcome, w) := by
  obtain ⟨session, row, hsess, hnode, hrow, hhash, rfl⟩ := h
  have hledger := (hledgers.sessions id session hsess).1
  have howned : w.ownedScanSession id node = .ok session := by
    simp only [ownedScanSession, bind_ok, find_ok, require_ok]
    exact ⟨session, hsess, (), hnode, rfl⟩
  have hbelow : sequence < session.nextSequence := by
    rw [← hledger.numbered]
    exact lt_length hrow
  have hacc : w.acceptedBatch env id session sequence batch now =
      .ok (⟨id, sequence, row.observations.length, row.cumulativeObservationCount⟩, w) := by
    unfold acceptedBatch
    rw [hrow]
    simp only [bind_ok]
    exact ⟨(), hprep, _, hledger.replayBatch_ok hrow id hhash, rfl⟩
  rw [accept_below hval howned hbelow, hacc]
  rfl

/-- **The ledger of the sessions.**  For every sequence of calls: a root has at most one active
session; the batches of a session are numbered without a gap, and their cumulative counts are
the running sums; a batch that was accepted is answered again in the same way, whatever has
happened since, and another batch under its number is refused; a session that is over stays as
it is; and only what has succeeded has retired locations, as many as it says. -/
theorem sessions_ledger {roots : List StorageRootId}
    (h : Run step always (initial roots) events w) :
    w.OneActive ∧
    (∀ (id : ScanSessionId) (session : ScanSession), w.sessions[id]? = some session →
      session.Ledger ∧
        w.catalog.identity.attributedLocationCount id = session.retiredLocationCount) ∧
    (∀ row ∈ w.catalog.identity.locations, ∀ id, row.retiredByScanSession = some id →
      row.retired = true ∧
        ∃ session, w.sessions[id]? = some session ∧ session.status = .succeeded) ∧
    (∀ (id : ScanSessionId) (session : ScanSession) later w', w.sessions[id]? = some session →
      session.status.isActive = false → Run step always w later w' →
      w'.sessions[id]? = some session) ∧
    ∀ env id node incarnation sequence batch now outcome w₁ later w',
      w.acceptScanObservationBatch env id node incarnation sequence batch now =
        (.ok outcome, w₁) → Run step always w₁ later w' →
      (∀ env' incarnation' now', env'.encodedLength = env.encodedLength →
        w'.acceptScanObservationBatch env' id node incarnation' sequence batch now' =
          (.ok outcome, w')) ∧
      ∀ env' node' incarnation' batch' now',
        (w'.acceptScanObservationBatch env' id node' incarnation' sequence batch' now').2 = w' ∧
        (batch'.requestHash ≠ batch.requestHash → ∃ error,
          (w'.acceptScanObservationBatch env' id node' incarnation' sequence batch' now').1 =
            .error error) := by
  have hledgers := run_ledgers h
  refine ⟨hledgers.oneActive, hledgers.sessions, ?_, fun id _ _ _ hsession hover hrun =>
    run_terminal hrun hsession hover, ?_⟩
  · intro row hrow id hnamed
    refine ⟨?_, hledgers.attributed id (mem_attributed.mpr ⟨row, hrow, hnamed⟩)⟩
    by_contra hlive
    have hnone := hledgers.live row hrow (Bool.eq_false_of_not_eq_true hlive)
    cases hnone.symm.trans hnamed
  · intro env id node incarnation sequence batch now _ w₁ _ _ haccept hrun
    have hstep : w.step ⟨env, now, .accept id node incarnation sequence batch⟩ = some w₁ :=
      congrArg (fun answer => some (Prod.snd answer)) haccept
    have hledgers' := hrun.invariant (I := Ledgers)
      (fun hu _ hnext => step_ledgers hnext hu) (step_ledgers hstep hledgers)
    have hrecorded := (recorded_of_accept hledgers haccept).run hrun
    obtain ⟨hvalid, hprepared, -⟩ := acceptScanObservationBatch_ok haccept
    constructor
    · intro _ _ _ hencoded
      exact accept_again hledgers' hrecorded hvalid
        ((prepareBatch_of_encodedLength hencoded).trans hprepared)
    · intro _ _ _ _ _
      exact accept_recorded hledgers' hrecorded

end Replay

/-! ### A retry after the end -/

def seen : ScanObservationBatch where
  requestHash := "0000000000000000000000000000000000000000000000000000000000000000"
  observations := [⟨"library/b.mkv", "inode:2", 1, 0, 0, none⟩]

def submitted : Event := ⟨quietScan, 2, .accept 0 0 0 0 seen⟩

/-- The file that was there before has not been seen. -/
def completedAfterOne : Event := ⟨quietScan, 3, .complete 0 0 0 (some 0) 1⟩

/-- Another incarnation of the node submits the batch once more. -/
theorem retried_batch_answered :
    (after [ingested, requested, started, submitted,
        completedAfterOne]).acceptScanObservationBatch quietScan 0 0 7 0 seen 9 =
      (.ok ⟨0, 0, 1, 1⟩, after [ingested, requested, started, submitted, completedAfterOne]) ∧
    (after [ingested, requested, started, submitted,
      completedAfterOne]).catalog.identity.attributedLocationCount 0 = 1 := by
  have hrun : Run step always (initial [0]) [ingested, requested, started]
      (after [ingested, requested, started]) :=
    .cons trivial rfl (.cons trivial rfl (.cons trivial rfl (.nil _)))
  have haccept : (after [ingested, requested, started]).acceptScanObservationBatch quietScan
      0 0 0 0 seen 2 =
      (.ok ⟨0, 0, 1, 1⟩, after [ingested, requested, started, submitted]) := rfl
  have hlater : Run step always (after [ingested, requested, started, submitted])
      [completedAfterOne] (after [ingested, requested, started, submitted, completedAfterOne]) :=
    .cons trivial rfl (.nil _)
  have hledger := (sessions_ledger hrun).2.2.2.2 _ _ _ _ _ _ _ _ _ _ _ haccept hlater
  exact ⟨hledger.1 quietScan 7 9 rfl, by decide +kernel⟩

end ScanWorld

end Voom
