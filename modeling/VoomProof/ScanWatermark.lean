import VoomProof.ScanSessions

/-!
# Locations that are newer than a scan

A scan that has started may walk past a directory before a file is put there. So that the
completion does not take such a file for absent, it leaves alone every location with an id above
the highest one at the start: a row inserted later has a higher id. But a row may also get
another address in place. The promotion of an artifact does that
(`update_file_location_address_in_tx`), and then a row with an old id has an address that the
walk may have missed.

`retired_newer_iff` says that this is the only way: a location that a completion retires has
an address newer than the start exactly if its row was moved in place since then.
-/

namespace Voom
open Fallible ListUpdate Runs List Option Bool

/-! ## Addresses stay with their rows -/

namespace IdentityStore

section Addresses
variable {s s' : IdentityStore} {id : FileLocationId} {row : FileLocation}
  {lock : LeaseScope → Option (CommitId × LeaseScope)}

/-- **Only an address update gives a row another address, and only to the row it names.** -/
theorem call_address {c : Call} (h : s.call lock c = .ok s') (hrow : s.locations[id]? = some row) :
    ∃ row', s'.locations[id]? = some row' ∧ (row'.address = row.address ∨
      ∃ expectedEpoch root locator,
        c = .updateFileLocationAddress id expectedEpoch root locator) := by
  rcases call_writes h with hwrites | ⟨_, expectedEpoch, root, locator, rfl⟩
  · obtain ⟨row', hrow', haddr⟩ := hwrites.addresses id row hrow
    exact ⟨row', hrow', .inl haddr⟩
  simp only [call, updateFileLocationAddress, bind_ok, return_ok] at h
  obtain ⟨_, hfind, _, -, rfl⟩ := h
  rw [setLocation, getElem?_set_at (findLive_ok hfind).1]
  split
  next heq => exact ⟨_, rfl, .inr ⟨expectedEpoch, root, locator, by rw [heq]⟩⟩
  · exact ⟨row, hrow, .inl rfl⟩

end Addresses

end IdentityStore

/-! ## The mark -/

variable {root : StorageRootId} {locator : String}

theorem IdentityStore.highWatermark_lt {s : IdentityStore} {mark : FileLocationId}
    (h : s.highWatermark root = some mark) : mark < s.locations.length := by
  obtain ⟨⟨_, _⟩, hlive, rfl⟩ := mem_map.mp (max?_mem h)
  have hrow := mk_mem_zipIdx_iff_getElem?.mp (mem_filter.mp hlive).1
  exact lt_length hrow

theorem IdentityStore.le_highWatermark {s : IdentityStore} {id : FileLocationId}
    {row : FileLocation} (hrow : s.locations[id]? = some row) (hlive : row.retired = false)
    (haddr : row.address = .rooted root locator) :
    ∃ mark, s.highWatermark root = some mark ∧ id ≤ mark := by
  have hmem : id ∈ (s.locations.zipIdx.filter fun entry =>
      !entry.1.retired && entry.1.address.inRoot root).map (·.2) := by
    refine mem_map.mpr ⟨(row, id), mem_filter.mpr ⟨mk_mem_zipIdx_iff_getElem?.mpr hrow, ?_⟩, rfl⟩
    simp [hlive, haddr, FileLocationAddress.inRoot]
  cases hmax : s.highWatermark root with
  | none =>
    have hnil := max?_eq_none_iff.mp hmax
    exact absurd (hnil ▸ hmem) not_mem_nil
  | some mark => exact ⟨mark, rfl, (max?_eq_some_iff.mp hmax).2 id hmem⟩

namespace ScanSession
variable {session : ScanSession} {sessionId : ScanSessionId} {id : FileLocationId}
  {row : FileLocation} {s : IdentityStore}

theorem retireCompletionCandidates_getElem? :
    (session.retireCompletionCandidates sessionId s).locations[id]? =
      s.locations[id]?.map (session.reconcile sessionId id) :=
  getElem?_mapIdx

theorem reconcile_address : (session.reconcile sessionId id row).address = row.address := by
  unfold reconcile
  split <;> rfl

theorem isCandidate_iff : session.isCandidate id row = true ↔
    ∃ locator mark, row.address = .rooted session.storageRootId locator ∧
      session.locationHighWatermarkId = some mark ∧ row.retired = false ∧ id ≤ mark ∧
      session.observed locator = false := by
  unfold isCandidate
  split
  next locator mark haddr hmark =>
    simp only [haddr, hmark, and_eq_true, not_eq_true', decide_eq_true_eq]
    constructor
    · rintro ⟨⟨⟨rfl, hlive⟩, hle⟩, hunseen⟩
      exact ⟨locator, mark, rfl, rfl, hlive, hle, hunseen⟩
    · rintro ⟨_, _, heq, heq', hlive, hle, hunseen⟩
      cases heq
      cases heq'
      exact ⟨⟨⟨rfl, hlive⟩, hle⟩, hunseen⟩
  next hother =>
  constructor
  · intro h
    cases h
  · rintro ⟨_, _, haddr, hmark, -⟩
    exact absurd hmark (hother _ _ _ haddr)

/-- The rows that retirement leaves live are those that were, but for its candidates. -/
theorem retire_live_iff :
    ((session.retireCompletionCandidates sessionId s).locations[id]? = some row ∧
        row.retired = false) ↔
      s.locations[id]? = some row ∧ row.retired = false ∧ session.isCandidate id row = false := by
  rw [retireCompletionCandidates_getElem?, map_eq_some_iff]
  constructor
  · rintro ⟨⟨before, hbef, rfl⟩, hlive⟩
    by_cases hcand : session.isCandidate id before = true
    · rw [reconcile, if_pos hcand] at hlive
      cases hlive
    · rw [reconcile, if_neg hcand] at hlive ⊢
      exact ⟨hbef, hlive, eq_false_of_not_eq_true hcand⟩
  · rintro ⟨hrow, hlive, hcand⟩
    refine ⟨⟨row, hrow, ?_⟩, hlive⟩
    rw [reconcile, hcand]
    rfl

theorem isCandidate_of_observed (haddr : row.address = .rooted root locator)
    (hobs : session.observed locator = true) : session.isCandidate id row = false := by
  refine eq_false_of_not_eq_true fun hcand => ?_
  obtain ⟨_, -, haddr', -, -, -, hunseen⟩ := isCandidate_iff.mp hcand
  cases haddr.symm.trans haddr'
  cases hobs.symm.trans hunseen

theorem observed_of_mem {observation : ScanObservation} (h : observation ∈ session.observations) :
    session.observed observation.providerRelativeLocator = true :=
  any_eq_true.mpr ⟨observation, h, by simp⟩

end ScanSession

namespace ScanWorld
variable {w w' w₀ w₁ w₂ w₃ : ScanWorld} {e : Event} {events : List Event} {id : FileLocationId}
  {row : FileLocation} {session : ScanSession} {summary : ScanCatalog.PublicationSummary}
  {published : ScanCatalog}

def location (w : ScanWorld) (id : FileLocationId) : Option FileLocation :=
  w.catalog.identity.locations[id]?

def addressOf (w : ScanWorld) (id : FileLocationId) : Option FileLocationAddress :=
  (w.location id).map (·.address)

/-- A step leaves the address of a row alone, unless it is an address update of the row. -/
theorem step_address (h : w.step e = some w') (hrow : w.location id = some row) :
    ∃ row', w'.location id = some row' ∧
      (row'.address = row.address ∨ ∃ expectedEpoch root locator,
        e.call = .identity (.updateFileLocationAddress id expectedEpoch root locator)) := by
  cases step_moves h with
  | sessions _ hcat =>
    refine ⟨row, ?_, .inl rfl⟩
    rw [location, hcat]
    exact hrow
  | identity hcall hident =>
    obtain ⟨row', hrow', haddr⟩ := IdentityStore.call_address hident hrow
    refine ⟨row', hrow', haddr.imp (fun h => h) ?_⟩
    rintro ⟨expectedEpoch, root, locator, rfl⟩
    exact ⟨expectedEpoch, root, locator, hcall⟩
  | @completed sessionId session _ published _ _ hpub =>
    have hgrows := (ScanCatalog.publishSessionEvidence_ok hpub).1.grows
    refine ⟨session.reconcile sessionId id row, ?_, .inl ScanSession.reconcile_address⟩
    change (session.retireCompletionCandidates sessionId published.identity).locations[id]? = _
    rw [ScanSession.retireCompletionCandidates_getElem?, hgrows.location hrow]
    rfl

theorem run_location (h : Run step always w events w') (hrow : w.location id = some row) :
    ∃ row', w'.location id = some row' := by
  refine h.invariant (I := fun u => ∃ row', u.location id = some row') ?_ ⟨row, hrow⟩
  rintro u e _ ⟨_, hfound⟩ - hstep
  obtain ⟨row', hrow', -⟩ := step_address hstep hfound
  exact ⟨row', hrow'⟩

theorem run_sessions (h : Run step always w events w') : SessionsLater w w' := by
  refine h.invariant (I := fun u => SessionsLater w u) ?_ (.refl w)
  intro u e _ hu _ hstep
  refine hu.trans ?_
  cases step_moves hstep with
  | sessions hnext => exact hnext.later
  | identity => exact (SessionsLater.refl u).of_eq rfl
  | @completed _ session _ published hsess =>
    have hended : session.Later (succeededRow session
        (session.completionCandidates published.identity).length) :=
      ⟨rfl, rfl, by simp [succeededRow], fun _ => ⟨by simp [succeededRow], rfl⟩, prefix_rfl⟩
    exact (setSession_later hsess hended).of_eq rfl

/-- Whatever has been requested and not started is as it was requested. -/
theorem run_fresh {roots : List StorageRootId} (h : Run step always (initial roots) events w)
    {id : ScanSessionId} (hsess : w.sessions[id]? = some session)
    (hwait : session.status = .requested) : session.Fresh :=
  (run_sessions h).fresh id session (Nat.zero_le id) hsess hwait

/-! ## The completion of a session -/

/-- At some point of the session the row had another address than at its end, or none. -/
def NewerAddress (w₁ : ScanWorld) (events : List Event) (w₂ : ScanWorld) (id : FileLocationId) :
    Prop :=
  ∃ before after u, events = before ++ after ∧ Run step always w₁ before u ∧
    Run step always u after w₂ ∧ u.addressOf id ≠ w₂.addressOf id

/-- During the session an address update has given the row another address. -/
def MovedInPlace (w₁ : ScanWorld) (events : List Event) (w₂ : ScanWorld) (id : FileLocationId) :
    Prop :=
  ∃ before e after u u', events = before ++ e :: after ∧ Run step always w₁ before u ∧
    u.step e = some u' ∧ Run step always u' after w₂ ∧ u'.addressOf id ≠ u.addressOf id ∧
    ∃ expectedEpoch root locator,
      e.call = .identity (.updateFileLocationAddress id expectedEpoch root locator)

/-- The row is retired after the call and was not before. -/
def Retires (w w' : ScanWorld) (id : FileLocationId) : Prop :=
  (w'.location id).map (·.retired) = some true ∧ (w.location id).map (·.retired) ≠ some true

instance (id : FileLocationId) : Decidable (Retires w w' id) := inferInstanceAs (Decidable (_ ∧ _))

/-- A live location that a session, started now, has not seen is retired by it. -/
theorem retires_of_unseen {sessionId : ScanSessionId} {env : PublishEnv}
    (hpub : w.catalog.publishSessionEvidence env session.storageRootId session.observations =
      .ok (summary, published))
    (hmark : session.locationHighWatermarkId =
      w.catalog.identity.highWatermark session.storageRootId)
    (hrow : w.location id = some row) (hlive : row.retired = false)
    (haddr : row.address = .rooted session.storageRootId locator)
    (hunseen : session.observed locator = false) :
    Retires w (w.completedWorld sessionId session published) id := by
  have hgrows := (ScanCatalog.publishSessionEvidence_ok hpub).1.grows
  obtain ⟨mark, hhigh, hle⟩ := IdentityStore.le_highWatermark hrow hlive haddr
  have hcand := ScanSession.isCandidate_iff.mpr
    ⟨locator, mark, haddr, hmark.trans hhigh, hlive, hle, hunseen⟩
  constructor
  · change ((session.retireCompletionCandidates sessionId published.identity).locations[id]?).map _
      = _
    rw [ScanSession.retireCompletionCandidates_getElem?, hgrows.location hrow, map_some,
      map_some, ScanSession.reconcile, if_pos hcand]
  · rw [hrow, map_some, hlive]
    simp

/-- What a completion retires is a candidate. -/
theorem candidate_of_retires {sessionId : ScanSessionId} {env : PublishEnv}
    (hpub : w.catalog.publishSessionEvidence env session.storageRootId session.observations =
      .ok (summary, published))
    (h : Retires w (w.completedWorld sessionId session published) id) :
    ∃ row, published.identity.locations[id]? = some row ∧ session.isCandidate id row = true := by
  obtain ⟨hadds, -⟩ := ScanCatalog.publishSessionEvidence_ok hpub
  obtain ⟨hafter, hbef⟩ := h
  obtain ⟨_, hrow', hret⟩ := map_eq_some_iff.mp hafter
  change (session.retireCompletionCandidates sessionId published.identity).locations[id]? = _
    at hrow'
  rw [ScanSession.retireCompletionCandidates_getElem?] at hrow'
  obtain ⟨row, hrow, rfl⟩ := map_eq_some_iff.mp hrow'
  refine ⟨row, hrow, ?_⟩
  by_contra hnot
  rw [ScanSession.reconcile, if_neg hnot] at hret
  rcases Nat.lt_or_ge id w.catalog.identity.locations.length with hold | hnew
  · have hsame := hadds.grows.location (getElem?_eq_getElem hold)
    obtain rfl := some_unique hsame hrow
    refine hbef ?_
    rw [location, getElem?_eq_getElem hold, map_some, hret]
  · rw [(hadds.located id row hrow hnew).1] at hret
    cases hret

section Theorem
variable {env env₀ : ScanEnv} {sessionId : ScanSessionId} {node node₀ : NodeId}
  {incarnation incarnation₀ : NodeIncarnationId} {lastSequence : Option Nat}
  {observationCount : Nat} {now now₀ : Instant} {id : FileLocationId}

/-- The mark of a running session is that of its start. -/
theorem started_mark {session : ScanSession}
    (hstart : w₀.startScanSession env₀ sessionId node₀ incarnation₀ now₀ = (.ok (), w₁))
    (hrun : Run step always w₁ events w₂) (hsess : w₂.sessions[sessionId]? = some session) :
    w₁.catalog = w₀.catalog ∧ session.locationHighWatermarkId =
      w₀.catalog.identity.highWatermark session.storageRootId := by
  obtain ⟨requested, hreq, -, hstarted⟩ := onOwned_ok hstart
  simp only [bind_ok, return_ok] at hstarted
  obtain ⟨_, -, rfl⟩ := hstarted
  have hset := List.getElem?_set_self (a := startedRow w₀.catalog.identity requested incarnation₀
    now₀) (lt_length hreq)
  obtain ⟨_, hsess', hlater⟩ := (run_sessions hrun).kept _ _ hset
  obtain rfl := some_unique hsess hsess'
  obtain ⟨-, hmark⟩ := hlater.mark (by simp [startedRow])
  refine ⟨rfl, ?_⟩
  rw [hmark, hlater.root]
  rfl

/-- **A location that a completion retires has an address newer than the start of the session
exactly if its row was moved in place since then.** -/
theorem retired_newer_iff
    (hstart : w₀.startScanSession env₀ sessionId node₀ incarnation₀ now₀ = (.ok (), w₁))
    (hrun : Run step always w₁ events w₂)
    (hcomplete : w₂.completeScanSession env sessionId node incarnation lastSequence
      observationCount now = (.ok (), w₃))
    (hretires : Retires w₂ w₃ id) :
    NewerAddress w₁ events w₂ id ↔ MovedInPlace w₁ events w₂ id := by
  obtain ⟨_, hsession, -, hfinish⟩ := completeScanSession_ok hcomplete
  obtain ⟨_, _, hpublish, rfl⟩ := finishCompletion_ok hfinish
  obtain ⟨_, _, hcandidate⟩ := candidate_of_retires hpublish hretires
  obtain ⟨-, _, -, hhigh, -, hle, -⟩ := ScanSession.isCandidate_iff.mp hcandidate
  -- the mark is still the one of the start, so the row was there then
  obtain ⟨hcatalog, hmark⟩ := started_mark hstart hrun hsession
  have hthere : id < w₁.catalog.identity.locations.length := by
    rw [hcatalog]
    exact Nat.lt_of_le_of_lt hle (IdentityStore.highWatermark_lt (hmark.symm.trans hhigh))
  have hfirst : w₁.location id = some _ := getElem?_eq_getElem hthere
  constructor
  · rintro ⟨before, _, u, rfl, hbefore, hafter, hne⟩
    obtain ⟨between, e, rest, v, v', rfl, hbetween, -, hstep, hrest, hchange⟩ :=
      hafter.exists_step (f := fun w => w.addressOf id) hne
    have hreach := hbefore.append hbetween
    obtain ⟨_, hfound⟩ := run_location hreach hfirst
    obtain ⟨_, hfound', haddress⟩ := step_address hstep hfound
    refine ⟨before ++ between, e, rest, v, v', by simp, hreach, hstep, hrest, hchange, ?_⟩
    rcases haddress with hsame | hmoved
    · refine absurd ?_ hchange
      rw [addressOf, addressOf, hfound, hfound', map_some, map_some, hsame]
    · exact hmoved
  · rintro ⟨before, e, after, u, u', rfl, hbefore, hstep, hafter, hchange, -⟩
    -- the addresses before and after the step differ, so one of them is not the last
    by_cases hlast : u'.addressOf id = w₂.addressOf id
    · refine ⟨before, e :: after, u, rfl, hbefore, .cons trivial hstep hafter, ?_⟩
      rw [← hlast]
      exact Ne.symm hchange
    · exact ⟨before ++ [e], after, u', by simp, hbefore.append (.cons trivial hstep (.nil u')),
        hafter, hlast⟩

end Theorem

/-! ### A promotion during a scan -/

/-- One root, at the node that scans it, and no commit in flight. -/
def quietScan : ScanEnv where
  root id := if id = 0 then some ⟨0, some 0, true, ""⟩ else none
  lock _ := none
  reconciliationLock _ := none
  artifactIntentLock _ := none
  incarnationOf _ _ := true
  activeIncarnation _ _ := true
  encodedLength _ := 0

def ingested : Event :=
  ⟨quietScan, 0, .identity (.recordDiscoveredFile ⟨0, "staging/a.mkv", "h", 1, none⟩ none)⟩

def requested : Event := ⟨quietScan, 0, .request 0 60⟩

def started : Event := ⟨quietScan, 1, .start 0 0 0⟩

/-- The walk is over, and then the artifact is moved into the library. -/
def promoted : Event :=
  ⟨quietScan, 2, .identity (.updateFileLocationAddress 0 0 0 "library/a.mkv")⟩

def completed : Event := ⟨quietScan, 3, .complete 0 0 0 none 0⟩

/-- The world after the events. -/
def after (events : List Event) : ScanWorld :=
  events.foldl (fun w e => (w.reply e).2) (initial [0])

theorem promotion_moved_in_place :
    Retires (after [ingested, requested, started, promoted])
      (after [ingested, requested, started, promoted, completed]) 0 ∧
    MovedInPlace (after [ingested, requested, started]) [promoted]
      (after [ingested, requested, started, promoted]) 0 := by
  have hrun : Run step always (after [ingested, requested, started]) [promoted]
      (after [ingested, requested, started, promoted]) := .cons trivial rfl (.nil _)
  have hretires : Retires (after [ingested, requested, started, promoted])
      (after [ingested, requested, started, promoted, completed]) 0 := by decide +kernel
  have hnewer : NewerAddress (after [ingested, requested, started]) [promoted]
      (after [ingested, requested, started, promoted]) 0 :=
    ⟨[], [promoted], _, rfl, .nil _, hrun, by decide +kernel⟩
  have hstart : (after [ingested, requested]).startScanSession quietScan 0 0 0 1 =
      (.ok (), after [ingested, requested, started]) := rfl
  have hcomplete : (after [ingested, requested, started, promoted]).completeScanSession quietScan
      0 0 0 none 0 3 = (.ok (), after [ingested, requested, started, promoted, completed]) := rfl
  exact ⟨hretires, (retired_newer_iff hstart hrun hcomplete hretires).mp hnewer⟩

/-- The file is in the library, and its location is retired as absent. -/
theorem promoted_location_retired :
    NewerAddress (after [ingested, requested, started]) [promoted]
      (after [ingested, requested, started, promoted]) 0 ∧
    (after [ingested, requested, started, promoted]).addressOf 0 =
      some (.rooted 0 "library/a.mkv") ∧
    ((after [ingested, requested, started, promoted]).reply completed).1.isOk = true ∧
    Retires (after [ingested, requested, started, promoted])
      (after [ingested, requested, started, promoted, completed]) 0 :=
  ⟨⟨[], [promoted], _, rfl, .nil _, .cons trivial rfl (.nil _), by decide +kernel⟩,
    by decide +kernel, by decide +kernel, by decide +kernel⟩

end ScanWorld

end Voom
