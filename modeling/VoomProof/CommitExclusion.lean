import VoomProof.CommitGate
import VoomProof.Runs

/-!
# What the commit safety gate excludes

`Change` says what one call of the gate or of the lease table can do to the store, and two
things follow in every run. Intents in flight exclude each other: `Exclusive` keeps the
member rows of each equal to its closure, and the closures apart. And while an intent is
authorized, users of its rows stay away (`Quiet`), as long as no heartbeat brings a lease on
one of them back after it was due (`timely`).
-/

namespace Voom
open List
namespace GateStore
open Fallible ListUpdate

variable {Proposal : Type} {reason : UseLeaseReleaseReason}

/-! ## What a call can do -/

/-- No intent in flight has the scope as a member. -/
def Free (s : GateStore Proposal) (scope : LeaseScope) : Prop :=
  ∀ id row, s.intents[id]? = some row → row.state.inFlight = true → (id, scope) ∉ s.members

/-- Everything a call can do, heartbeats apart. -/
inductive Change (now : Instant) (s : GateStore Proposal) : GateStore Proposal → Prop where
  | nothing : Change now s s
  | prepared (row : IntentRow Proposal) (hpending : row.state = .pending)
      (hfree : ∀ scope ∈ row.closure.scopes, s.Free scope) :
      Change now s { s with
        intents := s.intents ++ [row]
        members := s.members ++ row.closure.scopes.map (s.intents.length, ·) }
  | refused {row : IntentRow Proposal} (hstate : row.state.inFlight = false) :
      Change now s { s with intents := s.intents ++ [row] }
  | authorized {commitId : CommitId} {row : IntentRow Proposal} (row' : IntentRow Proposal)
      (hrow : s.intents[commitId]? = some row) (hpending : row.state = .pending)
      (hstate : row'.state = .authorized) (hscopes : row'.closure.scopes = row.closure.scopes)
      (hquiet : ∀ lease ∈ s.leases, lease.blocks now = true → lease.scope ∉ row'.closure.scopes) :
      Change now s (s.setIntent commitId row')
  | closed {commitId : CommitId} {row row' : IntentRow Proposal}
      (hrow : s.intents[commitId]? = some row) (hstate : row'.state.inFlight = false) :
      Change now s (s.setIntent commitId row')
  | leased (input : NewUseLease) (hfree : s.Free input.scope)
      (httl : ∀ ttl ∈ input.ttl, 0 < ttl) :
      Change now s { s with leases := s.leases ++ [newUseLease input] }
  | ended (picked : UseLeaseId → Bool) (reason : UseLeaseReleaseReason) :
      Change now s (s.endLeases picked reason)

/-- A heartbeat of a live lease. -/
inductive Renews (now : Instant) (s : GateStore Proposal) (leaseId : UseLeaseId) :
    GateStore Proposal → Prop where
  | intro {lease : UseLease} {expiresAt : Instant} (hlease : s.leases[leaseId]? = some lease)
      (hlive : lease.releaseReason = none) (httl : lease.ttlBound = true)
      (hexpires : lease.expiresAt = some expiresAt) :
      Renews now s leaseId
        { s with leases := s.leases.set leaseId (renewed lease expiresAt now) }

/-- What a call does to the intents: nothing, a new one, or the next epoch of one.  The rows
of a new one that is pending are there. -/
inductive IntentMove (hasRow : LeaseScope → Bool) (s s' : GateStore Proposal) : Prop where
  | kept (h : s'.intents = s.intents)
  | added (row : IntentRow Proposal)
      (hrows : row.state = .pending → ∀ scope ∈ row.closureInitial.scopes, hasRow scope = true)
      (h : s'.intents = s.intents ++ [row])
  | moved {commitId : CommitId} {row row' : IntentRow Proposal}
      (hrow : s.intents[commitId]? = some row) (hepoch : row'.epoch = row.epoch + 1)
      (hstate : row'.state ≠ .pending) (h : s'.intents = s.intents.set commitId row')

/-- A change of the store, and of its intents. -/
structure Does (now : Instant) (hasRow : LeaseScope → Bool) (s s' : GateStore Proposal) : Prop where
  change : Change now s s'
  intents : IntentMove hasRow s s'

theorem Does.nothing {now : Instant} {hasRow : LeaseScope → Bool} {s : GateStore Proposal} :
    Does now hasRow s s :=
  ⟨.nothing, .kept rfl⟩

section Locks
variable {s : GateStore Proposal} {scope : LeaseScope} {closure : AffectedScopeClosure}
  {now : Instant}

theorem free_of_consult (h : s.consultPendingCommitLock scope = none) : s.Free scope := by
  intro id row hrow hst hmem
  rw [consultPendingCommitLock, Option.map_eq_none_iff, find?_eq_none] at h
  refine h (row, id) (mk_mem_zipIdx_iff_getElem?.mpr hrow) ?_
  simp [hst, hmem]

theorem mem_fineToCoarse : scope ∈ closure.fineToCoarse ↔ scope ∈ closure.scopes := by
  simp only [AffectedScopeClosure.fineToCoarse, AffectedScopeClosure.scopes,
    AffectedScopeClosure.scopesOf, mem_append]
  tauto

theorem free_of_overlap (h : s.firstPendingCommitOverlap closure = none) :
    ∀ scope ∈ closure.scopes, s.Free scope := by
  intro scope hscope
  rw [firstPendingCommitOverlap, findSome?_eq_none_iff] at h
  exact free_of_consult (h scope (mem_fineToCoarse.mpr hscope))

theorem no_blocking_of_overlap (h : s.firstBlockingOverlap closure now = none) :
    ∀ lease ∈ s.leases, lease.blocks now = true → lease.scope ∉ closure.scopes := by
  intro lease hlease hblocks hscope
  rw [firstBlockingOverlap, head?_eq_none_iff, blockingLeaseRows, filterMap_eq_nil_iff] at h
  obtain ⟨id, hid⟩ := getElem?_of_mem hlease
  have hnone := h (lease, id) (mk_mem_zipIdx_iff_getElem?.mpr hid)
  dsimp only at hnone
  rw [if_pos ⟨hblocks, hscope⟩] at hnone
  cases hnone

end Locks

/-! ### Member rows -/

section Members
variable {view : GateView Proposal} {commitId : CommitId}
  {members members' : List (CommitId × LeaseScope)}
  {c other initial authorized : AffectedScopeClosure}

theorem foldlM_insertMember {scopes : List LeaseScope}
    (h : scopes.foldlM (insertMember view commitId) members = .ok members') :
    members' = members ++ scopes.map (commitId, ·) := by
  induction scopes generalizing members with
  | nil => cases h; simp
  | cons _ _ ih =>
    rw [foldlM_cons, bind_ok] at h
    obtain ⟨_, hone, hrest⟩ := h
    simp only [insertMember, bind_ok, return_ok] at hone
    obtain ⟨-, -, rfl⟩ := hone
    rw [ih hrest]
    simp

/-- A closure that has not changed has the same members. -/
theorem eq_of_delta_isEmpty (h : (c.idMemberDelta other).isEmpty = true) :
    other.fileAssets = c.fileAssets ∧ other.bundles = c.bundles ∧
      other.fileVersions = c.fileVersions ∧ other.fileLocations = c.fileLocations := by
  simp only [ClosureMemberDelta.isEmpty, Bool.and_eq_true] at h
  obtain ⟨⟨⟨⟨⟨⟨⟨hassets, hbundles⟩, hvers⟩, hlocs⟩, hassets'⟩, hbundles'⟩, hvers'⟩, hlocs'⟩ := h
  exact ⟨SortedSet.eq_of_difference_isEmpty hassets hassets',
    SortedSet.eq_of_difference_isEmpty hbundles hbundles',
    SortedSet.eq_of_difference_isEmpty hvers hvers',
    SortedSet.eq_of_difference_isEmpty hlocs hlocs'⟩

theorem scopes_of_delta_isEmpty (h : (c.idMemberDelta other).isEmpty = true) :
    other.scopes = c.scopes := by
  obtain ⟨hassets, hbundles, hvers, hlocs⟩ := eq_of_delta_isEmpty h
  rw [AffectedScopeClosure.scopes, hassets, hbundles, hvers, hlocs]
  rfl

theorem isEmpty_iff_elems {α : Type} [LinearOrder α] {s : SortedSet α} :
    s.isEmpty = true ↔ s.elems = [] := isEmpty_iff

/-- With nothing to remove and nothing to insert, the member rows stay. -/
theorem reconcile_of_delta_isEmpty (hdelta : (initial.idMemberDelta authorized).isEmpty = true)
    (h : reconcileScopeMembers view commitId initial authorized members = .ok members') :
    members' = members := by
  simp only [ClosureMemberDelta.isEmpty, Bool.and_eq_true, isEmpty_iff_elems] at hdelta
  obtain ⟨⟨⟨⟨⟨⟨⟨ha, hb⟩, hv⟩, hl⟩, ha'⟩, hb'⟩, hv'⟩, hl'⟩ := hdelta
  simp only [reconcileScopeMembers, AffectedScopeClosure.scopesOf, ha, hb, hv, hl, ha', hb', hv',
    hl', map_nil, append_nil, not_mem_nil, and_false, not_false_eq_true,
    decide_true, filter_true, foldlM_nil, return_ok] at h
  exact h.symm

end Members

/-! ### The gate -/

section Gate
variable {view : GateView Proposal} {s s' : GateStore Proposal} {now : Instant}
  {hasRow : LeaseScope → Bool} {row : IntentRow Proposal} {commitId : CommitId}

theorem runPhaseAGate_pass {input : DestructiveCommit Proposal} {walk : GateWalk}
    (h : s.runPhaseAGate view input now = .ok (.ok walk)) :
    ∀ scope ∈ walk.closure.scopes, s.Free scope := by
  simp only [runPhaseAGate, bind_ok] at h
  obtain ⟨walked, -, h⟩ := h
  rcases walked with _ | _
  · cases h
  dsimp only at h
  split at h
  · cases h
  rw [bind_ok] at h
  obtain ⟨_, -, h⟩ := h
  split at h
  · cases h
  split at h
  · cases h
  next hfree =>
    cases h
    exact free_of_overlap hfree

theorem prepare_does (input : DestructiveCommit Proposal) :
    Does now view.hasRow s (s.prepare view input now).2 := by
  unfold prepare
  split
  · exact .nothing
  · refine ⟨.refused rfl, .added _ (fun hpend => ?_) rfl⟩
    cases hpend
  next walk hwalk =>
  split
  · exact .nothing
  next hrec =>
  simp only [recordIntent, bind_ok] at hrec
  obtain ⟨_, hmems, -, -, hrec⟩ := hrec
  cases hrec
  refine ⟨?_, .added _ (fun _ scope hscope => ?_) rfl⟩
  · rw [foldlM_insertMember hmems]
    exact .prepared (pendingRow input walk.closure) rfl (runPhaseAGate_pass hwalk)
  · -- a member whose row is missing is not inserted
    obtain ⟨_, _, hins⟩ := foldlM_ok_mem hmems scope hscope
    simp only [insertMember, bind_ok, require_ok] at hins
    obtain ⟨-, hthere, -⟩ := hins
    exact hthere

theorem runPhaseBGate_pass {walk : GateWalk} (h : s.runPhaseBGate view row now = .ok (.ok walk)) :
    view.walk row.target .authorize (bypassSet row.overrideToken) = .ok (.ok walk.closure) ∧
      (row.closureInitial.idMemberDelta walk.closure).isEmpty = true ∧
      ∀ lease ∈ s.leases, lease.blocks now = true → lease.scope ∉ walk.closure.scopes := by
  simp only [runPhaseBGate, bind_ok] at h
  obtain ⟨walked, hwalk, h⟩ := h
  rcases walked with abort | _
  · cases abort <;> cases h
  dsimp only at h
  split at h
  · cases h
  next hdelta =>
  split at h
  · cases h
  next hquiet =>
  rw [bind_ok] at h
  obtain ⟨_, -, h⟩ := h
  split at h
  · cases h
  · cases h
    exact ⟨hwalk, by simpa using hdelta, no_blocking_of_overlap hquiet⟩

theorem readPendingIntent_spec (h : s.readPendingIntent commitId = .ok row) :
    s.intents[commitId]? = some row ∧ row.state = .pending := by
  simp only [readPendingIntent, bind_ok, find_ok, require_ok, return_ok] at h
  obtain ⟨_, hrow, -, hpend, rfl⟩ := h
  exact ⟨hrow, hpend⟩

theorem closure_of_pending (h : row.state = .pending) : row.closure = row.closureInitial := by
  unfold IntentRow.closure
  rw [h]

theorem authorize_does {outcome : AuthorizeOutcome}
    (h : s.authorize view commitId now = .ok (outcome, s')) : Does now hasRow s s' := by
  simp only [authorize, bind_ok] at h
  obtain ⟨row, hread, gate, hgate, h⟩ := h
  obtain ⟨hrow, hpend⟩ := readPendingIntent_spec hread
  rcases gate with _ | walk
  · simp only [bind_ok] at h
    obtain ⟨-, -, h⟩ := h
    cases h
    exact ⟨.closed hrow rfl, .moved hrow rfl (by simp [abortedRow]) rfl⟩
  · obtain ⟨-, hdelta, hquiet⟩ := runPhaseBGate_pass hgate
    simp only [finalizePhaseB, bind_ok] at h
    obtain ⟨_, hmems, -, -, h⟩ := h
    rw [reconcile_of_delta_isEmpty hdelta hmems] at h
    cases h
    refine ⟨.authorized (authorizedRow view row walk.closure) hrow hpend rfl ?_ hquiet,
      .moved hrow rfl (by simp [authorizedRow]) rfl⟩
    rw [closure_of_pending hpend]
    exact scopes_of_delta_isEmpty hdelta

theorem readAuthorizedIntent_spec {epoch : Nat} {intent : AuthorizedIntent Proposal}
    (h : s.readAuthorizedIntent commitId epoch = .ok intent) :
    s.intents[commitId]? = some intent.row := by
  simp only [readAuthorizedIntent, bind_ok, find_ok, return_ok] at h
  obtain ⟨_, hrow, -, -, -, -, _, -, _, -, rfl⟩ := h
  exact hrow

/-- A finalized intent is no longer in flight and has its next epoch, whatever came of it. -/
theorem finalizeRow_ended (intent : AuthorizedIntent Proposal) (permit : CommitPermit)
    (outcome : MutationOutcome) :
    (s.finalizeRow view intent permit now outcome).1.state.inFlight = false ∧
      (s.finalizeRow view intent permit now outcome).1.epoch = intent.row.epoch + 1 := by
  cases outcome with
  | notPerformed => exact ⟨rfl, rfl⟩
  | applied =>
    unfold finalizeRow
    dsimp only
    split
    next hdone =>
      simp only [finalizeAppliedInner, bind_ok] at hdone
      obtain ⟨recheck, -, hdone⟩ := hdone
      rcases recheck with _ | ⟨_, _, _⟩
      · simp only [bind_ok, return_ok] at hdone
        obtain ⟨-, -, -, -, rfl⟩ := hdone
        exact ⟨rfl, rfl⟩
      · simp only [bind_ok, return_ok] at hdone
        obtain ⟨-, -, rfl⟩ := hdone
        exact ⟨rfl, rfl⟩
    · exact ⟨rfl, rfl⟩

theorem finalize_does {permit : CommitPermit} {outcome : MutationOutcome}
    {result : FinalizeOutcome} (h : s.finalize view permit outcome now = .ok (result, s')) :
    Does now hasRow s s' := by
  simp only [finalize, bind_ok] at h
  obtain ⟨intent, hread, -, -, h⟩ := h
  cases h
  have hrow := readAuthorizedIntent_spec hread
  have hended : (s.finalizeRow view intent permit now outcome).1.state.inFlight = false :=
    (finalizeRow_ended intent permit outcome).1
  refine ⟨.closed hrow hended, .moved hrow (finalizeRow_ended intent permit outcome).2 ?_ rfl⟩
  intro hpend
  rw [hpend] at hended
  cases hended

theorem abort_does {reason : AbortReason} (h : s.abort commitId reason = .ok s') :
    Does now hasRow s s' := by
  simp only [abort, bind_ok, return_ok] at h
  obtain ⟨_, -, _, hread, rfl⟩ := h
  have hrow := (readPendingIntent_spec hread).1
  exact ⟨.closed hrow rfl, .moved hrow rfl (by simp [abortedRow]) rfl⟩

end Gate

/-! ### Leases -/

section Leases
variable {s s' : GateStore Proposal} {now : Instant} {hasRow : LeaseScope → Bool}
  {leaseId : UseLeaseId}

/-- A lease that is granted for a time is granted for a positive one. -/
theorem validateAcquireInput_ttl {input : NewUseLease} {u : Unit}
    (h : validateAcquireInput input = .ok u) : ∀ ttl ∈ input.ttl, 0 < ttl := by
  intro _ httl
  unfold validateAcquireInput at h
  rw [Option.mem_def.mp httl] at h
  split at h
  · cases h
  next hnone => cases hnone
  · cases h
  next hsome _ =>
  cases hsome
  split at h
  · cases h
  next hpos => exact Int.not_le.mp hpos

theorem acquire_does {view : LeaseView} {input : NewUseLease}
    (h : s.acquire view input = .ok s') : Does now hasRow s s' := by
  simp only [acquire, bind_ok] at h
  obtain ⟨_, hval, _, -, -, -, h⟩ := h
  split at h
  · cases h
  next hfree =>
  split at h
  · cases h
  · cases h
    exact ⟨.leased input (free_of_consult hfree) (validateAcquireInput_ttl hval), .kept rfl⟩

theorem heartbeat_renews (h : s.heartbeat leaseId now = .ok s') : Renews now s leaseId s' := by
  simp only [heartbeat, bind_ok, find_ok, require_ok, return_ok] at h
  obtain ⟨_, hlease, -, hlive, -, httl, _, hexp, rfl⟩ := h
  exact .intro hlease hlive httl hexp

theorem endLease_does (h : s.endLease leaseId reason = .ok s') : Does now hasRow s s' := by
  simp only [endLease, bind_ok, return_ok] at h
  obtain ⟨_, -, -, -, rfl⟩ := h
  exact ⟨.ended _ reason, .kept rfl⟩

theorem release_does (h : s.release leaseId reason = .ok s') : Does now hasRow s s' := by
  simp only [release, bind_ok] at h
  obtain ⟨-, -, h⟩ := h
  exact endLease_does h

theorem recoverStaleIssuer_does (h : s.recoverStaleIssuer leaseId = .ok s') :
    Does now hasRow s s' := by
  simp only [recoverStaleIssuer, bind_ok, return_ok] at h
  obtain ⟨_, -, -, -, -, -, rfl⟩ := h
  exact ⟨.ended _ .issuerLost, .kept rfl⟩

theorem orRolledBack_does {result : Except VoomError (GateStore Proposal)}
    (h : ∀ s', result = .ok s' → Does now hasRow s s') :
    Does now hasRow s (s.orRolledBack result) := by
  cases result with
  | error e => exact .nothing
  | ok s' => exact h s' rfl

end Leases

/-- The rows that a new intent is checked against. -/
def GateCall.rows (hasRow : LeaseScope → Bool) : GateCall Proposal → LeaseScope → Bool
  | .prepare view _ => view.hasRow
  | _ => hasRow

/-- Every call is a change or a heartbeat. -/
theorem call_cases (s : GateStore Proposal) (now : Instant) (hasRow : LeaseScope → Bool)
    (c : GateCall Proposal) : Does now (c.rows hasRow) s (s.call now c) ∨
      ∃ leaseId, c = .heartbeat leaseId ∧ Renews now s leaseId (s.call now c) := by
  cases c with
  | prepare _ input => exact .inl (prepare_does input)
  | authorize _ =>
    refine .inl (orRolledBack_does fun s' h => ?_)
    obtain ⟨_, h⟩ := map_snd_ok h
    exact authorize_does h
  | finalize =>
    refine .inl (orRolledBack_does fun _ h => ?_)
    obtain ⟨_, h⟩ := map_snd_ok h
    exact finalize_does h
  | abort _ => exact .inl (orRolledBack_does fun _ h => abort_does h)
  | acquire =>
    exact .inl (orRolledBack_does fun _ h => acquire_does h)
  | heartbeat leaseId =>
    rw [call]
    cases hbeat : s.heartbeat leaseId now with
    | error e => exact .inl .nothing
    | ok => exact .inr ⟨leaseId, rfl, heartbeat_renews hbeat⟩
  | release => exact .inl (orRolledBack_does fun _ h => release_does h)
  | forceRelease => exact .inl (orRolledBack_does fun _ h => endLease_does h)
  | recoverStaleIssuer =>
    exact .inl (orRolledBack_does fun _ h => recoverStaleIssuer_does h)
  | expireDue => exact .inl ⟨.ended _ .expired, .kept rfl⟩

/-! ## Intents in flight -/

/-- The scopes stored for an intent. -/
def memberRows (s : GateStore Proposal) (commitId : CommitId) : List LeaseScope :=
  (s.members.filter (·.1 = commitId)).map (·.2)

/-- The member rows of an intent in flight are its closure, and no two such intents have a
scope in common. -/
structure Exclusive (s : GateStore Proposal) : Prop where
  rows : ∀ {id : CommitId} {row : IntentRow Proposal}, s.intents[id]? = some row →
    row.state.inFlight = true → s.memberRows id = row.closure.scopes
  apart : ∀ {id id' : CommitId} {row row' : IntentRow Proposal}, s.intents[id]? = some row →
    s.intents[id']? = some row' → id ≠ id' → row.state.inFlight = true →
    row'.state.inFlight = true → ∀ scope ∈ row.closure.scopes, scope ∉ row'.closure.scopes
  bounded : ∀ member ∈ s.members, member.1 < s.intents.length

section Exclusion
variable {s s' : GateStore Proposal} {now : Instant} {commitId : CommitId}
  {row : IntentRow Proposal}

theorem exclusive_empty (clock : Instant) : (empty clock : GateStore Proposal).Exclusive where
  rows h := nomatch h
  apart h := nomatch h
  bounded _ h := nomatch h

theorem mem_memberRows {scope : LeaseScope} :
    scope ∈ s.memberRows commitId ↔ (commitId, scope) ∈ s.members := by
  simp [memberRows]

section
variable (hs : s.Exclusive)
include hs

/-- A scope that is free is in no closure in flight. -/
theorem Exclusive.not_mem_of_free {scope : LeaseScope} (hfree : s.Free scope)
    (hrow : s.intents[commitId]? = some row) (hst : row.state.inFlight = true) :
    scope ∉ row.closure.scopes := by
  rw [← hs.rows hrow hst, mem_memberRows]
  exact hfree commitId row hrow hst

/-- Calls of the lease table leave intents and members alone. -/
theorem Exclusive.of_same (hintents : s'.intents = s.intents) (hmems : s'.members = s.members) :
    s'.Exclusive where
  rows := by
    intro _ r hr
    rw [memberRows, hmems]
    exact hs.rows (hintents ▸ hr)
  apart := by
    rw [hintents]
    exact hs.apart
  bounded := by
    rw [hintents, hmems]
    exact hs.bounded

theorem Exclusive.refused (hst : row.state.inFlight = false) :
    ({ s with intents := s.intents ++ [row] } : GateStore Proposal).Exclusive := by
  have hold {id : CommitId} {r : IntentRow Proposal} (hr : (s.intents ++ [row])[id]? = some r)
      (hflight : r.state.inFlight = true) : s.intents[id]? = some r := by
    rcases getElem?_concat_cases hr with hold | ⟨-, rfl⟩
    · exact hold
    · rw [hst] at hflight
      cases hflight
  refine ⟨fun hr hflight => hs.rows (hold hr hflight) hflight, fun hr hr' hne hflight hflight' =>
    hs.apart (hold hr hflight) (hold hr' hflight') hne hflight hflight', fun member hmem => ?_⟩
  rw [length_append]
  exact Nat.lt_add_right _ (hs.bounded member hmem)

/-- The member rows after those of a new intent are written. -/
theorem Exclusive.memberRows_prepared (scopes : List LeaseScope)
    (intents : List (IntentRow Proposal)) (id : CommitId) :
    ({ s with
        intents := intents
        members := s.members ++ scopes.map (s.intents.length, ·) } : GateStore Proposal).memberRows
      id = if id = s.intents.length then scopes else s.memberRows id := by
  simp only [memberRows, filter_append]
  split
  next heq =>
    subst heq
    have hold : s.members.filter (·.1 = s.intents.length) = [] := by
      refine filter_eq_nil_iff.mpr fun member hmem => ?_
      simpa using Nat.ne_of_lt (hs.bounded member hmem)
    rw [hold]
    simp [filter_map]
  next hne =>
  have hnew : (scopes.map ((s.intents.length, ·) : LeaseScope → CommitId × LeaseScope)).filter
      (·.1 = id) = [] := by
    refine filter_eq_nil_iff.mpr fun _ hmem => ?_
    obtain ⟨_, -, rfl⟩ := mem_map.mp hmem
    simpa using Ne.symm hne
  rw [hnew]
  simp

theorem Exclusive.prepared (hfree : ∀ scope ∈ row.closure.scopes, s.Free scope) :
    ({ s with
      intents := s.intents ++ [row]
      members := s.members ++ row.closure.scopes.map (s.intents.length, ·) } :
      GateStore Proposal).Exclusive where
  rows := by
    intro _ r hr hflight
    rw [hs.memberRows_prepared]
    rcases getElem?_concat_cases hr with hold | ⟨rfl, rfl⟩
    · rw [if_neg (Nat.ne_of_lt (lt_length hold))]
      exact hs.rows hold hflight
    · exact if_pos rfl
  apart := by
    intro _ _ r _ hr hr' hne hflight hflight' scope hscope hscope'
    rcases getElem?_concat_cases hr with hold | ⟨rfl, rfl⟩
    · rcases getElem?_concat_cases hr' with hold' | ⟨-, rfl⟩
      · exact hs.apart hold hold' hne hflight hflight' scope hscope hscope'
      · exact hs.not_mem_of_free (hfree scope hscope') hold hflight hscope
    · rcases getElem?_concat_cases hr' with hold' | ⟨rfl, -⟩
      · exact hs.not_mem_of_free (hfree scope hscope) hold' hflight' hscope'
      · exact hne rfl
  bounded member hmem := by
    rw [length_append]
    rcases mem_append.mp hmem with hold | hnew
    · exact Nat.lt_add_right _ (hs.bounded member hold)
    · obtain ⟨_, -, rfl⟩ := mem_map.mp hnew
      exact Nat.lt_add_one _

/-- An intent that is rewritten keeps its scopes as long as it is in flight. -/
theorem Exclusive.set {row' : IntentRow Proposal} (hrow : s.intents[commitId]? = some row)
    (hkeep : row'.state.inFlight = true →
      row.state.inFlight = true ∧ row'.closure.scopes = row.closure.scopes) :
    (s.setIntent commitId row').Exclusive := by
  -- what a row in flight says now, the row at its place said before
  have hbef : ∀ (id : CommitId) (r : IntentRow Proposal),
      (s.setIntent commitId row').intents[id]? = some r → r.state.inFlight = true →
      ∃ r₀ : IntentRow Proposal, s.intents[id]? = some r₀ ∧ r₀.state.inFlight = true ∧
        r.closure.scopes = r₀.closure.scopes := by
    intro _ r hr hflight
    rcases getElem?_set_cases hrow hr with ⟨rfl, rfl⟩ | ⟨-, hr⟩
    · exact ⟨row, hrow, hkeep hflight⟩
    · exact ⟨r, hr, hflight, rfl⟩
  constructor
  · intro id r hr hflight
    obtain ⟨_, hr₀, hflight₀, hscopes⟩ := hbef id r hr hflight
    rw [hscopes]
    exact hs.rows hr₀ hflight₀
  · intro id id' r r' hr hr' hne hflight hflight'
    obtain ⟨_, hr₀, hflight₀, hscopes⟩ := hbef id r hr hflight
    obtain ⟨_, hr₀', hflight₀', hscopes'⟩ := hbef id' r' hr' hflight'
    rw [hscopes, hscopes']
    exact hs.apart hr₀ hr₀' hne hflight₀ hflight₀'
  · intro member hmem
    rw [setIntent, length_set]
    exact hs.bounded member hmem

theorem Exclusive.change (h : Change now s s') : s'.Exclusive := by
  cases h with
  | nothing => exact hs
  | prepared _ _ hfree => exact hs.prepared hfree
  | refused hst => exact hs.refused hst
  | authorized _ hrow hpend _ hscopes =>
    exact hs.set hrow fun _ => ⟨by rw [hpend]; rfl, hscopes⟩
  | closed hrow hst =>
    refine hs.set hrow fun hflight => ?_
    rw [hst] at hflight
    cases hflight
  | leased | ended => exact hs.of_same rfl rfl

end

theorem Renews.intents_eq {leaseId : UseLeaseId} (h : Renews now s leaseId s') :
    s'.intents = s.intents := by
  cases h
  rfl

theorem Renews.members_eq {leaseId : UseLeaseId} (h : Renews now s leaseId s') :
    s'.members = s.members := by
  cases h
  rfl

theorem Exclusive.step {e : GateEvent Proposal} (hs : s.Exclusive) (h : s.step e = some s') :
    s'.Exclusive := by
  cases h
  rcases call_cases s e.now (fun _ => true) e.call with hdoes | ⟨_, -, hrenews⟩
  · exact (hs.change hdoes.change).of_same rfl rfl
  · exact hs.of_same hrenews.intents_eq hrenews.members_eq

end Exclusion

open Runs

/-- **Destructive commits exclude each other.**  Whatever calls are made, with whatever
closures, two intents in flight have no member in common, and the member rows of an intent in
flight are the scopes of its closure. -/
theorem intents_exclude_each_other {clock : Instant} {es : List (GateEvent Proposal)}
    {s : GateStore Proposal} (h : Run step always (empty clock) es s) {id : CommitId}
    {row : IntentRow Proposal} (hrow : s.intents[id]? = some row)
    (hstate : row.state.inFlight = true) :
    s.memberRows id = row.closure.scopes ∧
      ∀ id' row', s.intents[id']? = some row' → id ≠ id' → row'.state.inFlight = true →
        ∀ scope ∈ row.closure.scopes, scope ∉ row'.closure.scopes := by
  have hexclusive : s.Exclusive :=
    h.invariant (fun hs _ hstep => hs.step hstep) (exclusive_empty clock)
  exact ⟨hexclusive.rows hrow hstate, fun _ _ hrow' hne hstate' =>
    hexclusive.apart hrow hrow' hne hstate hstate'⟩

/-! ### Two commits on one disk -/

/-- Three locations of three files, none of which has another alias. -/
def threeFiles : IdentityTables where
  location id := if id ∈ [1, 2, 3] then some ⟨id + 10, false⟩ else none
  version id := if id ∈ [11, 12, 13] then some (id + 10) else none
  liveLocations id := [id - 10]
  bundles _ := []

def threeFilesView : GateView Unit where
  walk := buildClosure threeFiles fun _ => .ok []
  revalidate _ := .ok []
  hasRow _ := true
  rowEpoch _ _ := some 0
  dispatch _ _ := .ok ()
  appendEvent := .ok ()

def deletion (id : FileLocationId) : DestructiveCommit Unit := ⟨.deleteFileLocation id, [], none⟩

def closureOfOne : AffectedScopeClosure := ⟨.ofList [21], .ofList [11], .ofList [1], ∅, []⟩

/-- The second attempt to delete the first location is refused. -/
def twoDeletions : List (GateEvent Unit) :=
  [⟨1, .prepare threeFilesView (deletion 1)⟩, ⟨2, .prepare threeFilesView (deletion 2)⟩,
    ⟨3, .prepare threeFilesView (deletion 1)⟩]

theorem twoDeletions_apart :
    ∃ s : GateStore Unit, Run step always (empty 0) twoDeletions s ∧
      s.memberRows 0 = [.asset 21, .version 11, .location 1] := by
  have hexists : ∃ s : GateStore Unit, Run step always (empty 0) twoDeletions s ∧
      s.intents[0]? = some (pendingRow (deletion 1) closureOfOne) :=
    exists_run step always (by decide)
  obtain ⟨s, hrun, hrow⟩ := hexists
  exact ⟨s, hrun, (intents_exclude_each_other hrun hrow rfl).1⟩

/-! ## Permits and users -/

/-- The lease is due after `t`, or never. -/
def UnexpiredAt (lease : UseLease) (t : Instant) : Prop := ∀ e ∈ lease.expiresAt, t < e

/-- From the last call on, no user of a row that an authorized intent is about holds a
blocking lease that is not due. -/
def Undisturbed (s : GateStore Proposal) : Prop :=
  ∀ (id : CommitId) (row : IntentRow Proposal), s.intents[id]? = some row →
    row.state = .authorized → ∀ lease ∈ s.leases, lease.releaseReason = none →
    lease.blockingMode = .blocking → lease.scope ∈ row.closure.scopes →
    ∀ t, s.clock ≤ t → ¬ UnexpiredAt lease t

/-- The event is no heartbeat of a blocking lease that is due already and on a row of an
authorized intent. -/
def timely (s : GateStore Proposal) (e : GateEvent Proposal) : Bool :=
  match e.call with
  | .heartbeat leaseId =>
      (s.leases[leaseId]?).all fun lease =>
        !(lease.releaseReason.isNone && lease.ttlBound && lease.blockingMode = .blocking &&
            lease.expiresAt.any (· < e.now)) ||
          s.intents.all fun row => row.state ≠ .authorized || lease.scope ∉ row.closure.scopes
  | _ => true

/-- Leases on the rows of an authorized intent were due before the last call. -/
structure Quiet (s : GateStore Proposal) : Prop where
  exclusive : s.Exclusive
  due : ∀ {id : CommitId} {row : IntentRow Proposal}, s.intents[id]? = some row →
    row.state = .authorized → ∀ lease ∈ s.leases, lease.releaseReason = none →
    lease.blockingMode = .blocking → lease.scope ∈ row.closure.scopes →
    ∃ e, lease.expiresAt = some e ∧ e < s.clock
  /-- A lease is granted for a positive time. -/
  positive : ∀ lease ∈ s.leases, ∀ e ∈ lease.expiresAt,
    0 < e - lease.lastHeartbeatAt.getD lease.acquiredAt

section Permits
variable {s s' : GateStore Proposal} {now : Instant} {e : GateEvent Proposal} {leaseId : UseLeaseId}

theorem quiet_empty (clock : Instant) : (empty clock : GateStore Proposal).Quiet where
  exclusive := exclusive_empty clock
  due h := nomatch h
  positive _ h := nomatch h

theorem Quiet.undisturbed (hs : s.Quiet) : s.Undisturbed := by
  intro _ _ hrow hst lease hlease hlive hmode hscope t ht hunexpired
  obtain ⟨e, hexp, hdue⟩ := hs.due hrow hst lease hlease hlive hmode hscope
  exact absurd (hunexpired e hexp) (Int.not_lt.mpr (Int.le_trans (Int.le_of_lt hdue) ht))

/-- A lease that does not count for the gate is due, released or advisory. -/
theorem due_of_not_blocks {lease : UseLease} (h : ¬ lease.blocks now = true)
    (hlive : lease.releaseReason = none) (hmode : lease.blockingMode = .blocking) :
    ∃ e, lease.expiresAt = some e ∧ e < now := by
  simp only [UseLease.blocks, hlive, hmode, Option.isNone_none, Bool.true_and, decide_true,
    Bool.and_true, Bool.or_eq_true, not_or] at h
  cases hexp : lease.expiresAt with
  | none => simp [hexp] at h
  | some e => exact ⟨e, rfl, by simpa [hexp] using h.2⟩

/-- The leases after some have ended. -/
theorem mem_endLeases {picked : UseLeaseId → Bool} {lease : UseLease}
    (h : lease ∈ (s.endLeases picked reason).leases) :
    ∃ old ∈ s.leases, lease = old ∨ lease = { old with releaseReason := some reason } := by
  obtain ⟨_, hid⟩ := getElem?_of_mem h
  rw [endLeases, getElem?_mapIdx] at hid
  obtain ⟨old, hold, rfl⟩ := Option.map_eq_some_iff.mp hid
  refine ⟨old, mem_of_getElem? hold, ?_⟩
  split
  · exact .inr rfl
  · exact .inl rfl

theorem inFlight_of_authorized {row : IntentRow Proposal} (h : row.state = .authorized) :
    row.state.inFlight = true := by rw [h]; rfl

/-- Only `authorize` makes an intent authorized, and only `acquire` adds a lease. -/
theorem Quiet.change (hs : s.Quiet) (hclock : s.clock ≤ now) (h : Change now s s') :
    ({ s' with clock := now } : GateStore Proposal).Quiet := by
  have hdue : ∀ {id : CommitId} {row : IntentRow Proposal}, s.intents[id]? = some row →
      row.state = .authorized → ∀ lease ∈ s.leases, lease.releaseReason = none →
      lease.blockingMode = .blocking → lease.scope ∈ row.closure.scopes →
      ∃ e, lease.expiresAt = some e ∧ e < now := by
    intro _ _ hrow hst lease hlease hlive hmode hscope
    obtain ⟨e, hexp, hlt⟩ := hs.due hrow hst lease hlease hlive hmode hscope
    exact ⟨e, hexp, Int.lt_of_lt_of_le hlt hclock⟩
  have hexcl : ({ s' with clock := now } : GateStore Proposal).Exclusive :=
    (hs.exclusive.change h).of_same rfl rfl
  cases h with
  | nothing => exact ⟨hexcl, hdue, hs.positive⟩
  | prepared _ hpend =>
    refine ⟨hexcl, fun hrow hst => ?_, hs.positive⟩
    rcases getElem?_concat_cases hrow with hold | ⟨-, rfl⟩
    · exact hdue hold hst
    · rw [hpend] at hst
      cases hst
  | refused hout =>
    refine ⟨hexcl, fun hrow hst => ?_, hs.positive⟩
    rcases getElem?_concat_cases hrow with hold | ⟨-, rfl⟩
    · exact hdue hold hst
    · rw [inFlight_of_authorized hst] at hout
      cases hout
  | @authorized _ _ _ hrow _ _ _ hquiet =>
    refine ⟨hexcl, fun {id r} hr hst => ?_, hs.positive⟩
    intro lease hlease hlive hmode hscope
    rcases getElem?_set_cases hrow hr with ⟨rfl, rfl⟩ | ⟨-, hr⟩
    · exact due_of_not_blocks (fun hblocks => hquiet lease hlease hblocks hscope) hlive hmode
    · exact hdue hr hst lease hlease hlive hmode hscope
  | @closed _ _ _ hrow hout =>
    refine ⟨hexcl, fun {id r} hr hst => ?_, hs.positive⟩
    rcases getElem?_set_cases hrow hr with ⟨rfl, rfl⟩ | ⟨-, hr⟩
    · rw [inFlight_of_authorized hst] at hout
      cases hout
    · exact hdue hr hst
  | leased _ hfree httl =>
    refine ⟨hexcl, fun hrow hst lease hlease => ?_, fun lease hlease => ?_⟩
    · rcases mem_append.mp hlease with hold | hnew
      · exact hdue hrow hst lease hold
      · intro _ _ hscope
        rw [mem_singleton.mp hnew] at hscope
        exact absurd hscope (hs.exclusive.not_mem_of_free hfree hrow (inFlight_of_authorized hst))
    · rcases mem_append.mp hlease with hold | hnew
      · exact hs.positive lease hold
      intro e he
      rw [mem_singleton.mp hnew] at he ⊢
      obtain ⟨ttl, httl', rfl⟩ := Option.map_eq_some_iff.mp (Option.mem_def.mp he)
      simp only [newUseLease, Option.getD_none]
      rw [Int.add_comm, Int.add_sub_cancel]
      exact httl ttl httl'
  | ended =>
    refine ⟨hexcl, fun hrow hst lease hlease hlive => ?_, fun lease hlease => ?_⟩
    · obtain ⟨_, hold, rfl | hended⟩ := mem_endLeases hlease
      · exact hdue hrow hst lease hold hlive
      · rw [hended] at hlive
        cases hlive
    · obtain ⟨old, hold, rfl | hended⟩ := mem_endLeases hlease
      · exact hs.positive lease hold
      · rw [hended]
        exact hs.positive old hold

theorem timely_heartbeat_iff : s.timely ⟨now, .heartbeat leaseId⟩ = true ↔
      ∀ {lease : UseLease}, s.leases[leaseId]? = some lease → lease.releaseReason = none →
        lease.ttlBound = true → lease.blockingMode = .blocking →
        ∀ {e : Instant}, lease.expiresAt = some e → e < now →
        ∀ row ∈ s.intents, row.state = .authorized → lease.scope ∉ row.closure.scopes := by
  cases hlease : s.leases[leaseId]? with
  | none => simp [timely, hlease]
  | some lease =>
    cases hexp : lease.expiresAt with
    | none => simp [timely, hlease, hexp]
    | some e => simp [timely, hlease, hexp, or_iff_not_imp_left]

/-- A heartbeat in time keeps users away. -/
theorem Quiet.renewed (hs : s.Quiet) (hclock : s.clock ≤ now) (h : Renews now s leaseId s')
    (htimely : s.timely ⟨now, .heartbeat leaseId⟩ = true) :
    ({ s' with clock := now } : GateStore Proposal).Quiet := by
  have hexcl : ({ s' with clock := now } : GateStore Proposal).Exclusive :=
    hs.exclusive.of_same h.intents_eq h.members_eq
  obtain @⟨old, expiresAt, hold, hlive, httl, hexp⟩ := h
  have hmem : old ∈ s.leases := mem_of_getElem? hold
  refine ⟨hexcl, fun {id row} hrow hst lease hlease hlive' hmode hscope => ?_,
    fun lease hlease => ?_⟩
  · rcases mem_or_eq_of_mem_set hlease with hlease | rfl
    · obtain ⟨e, he, hlt⟩ := hs.due hrow hst lease hlease hlive' hmode hscope
      exact ⟨e, he, Int.lt_of_lt_of_le hlt hclock⟩
    · -- the lease was due before this heartbeat, so the heartbeat is not in time
      exfalso
      obtain ⟨e, he, hlt⟩ := hs.due hrow hst old hmem hlive hmode hscope
      have hdue : e < now := Int.lt_of_lt_of_le hlt hclock
      exact timely_heartbeat_iff.mp htimely hold hlive httl hmode he hdue row
        (mem_of_getElem? hrow) hst hscope
  · rcases mem_or_eq_of_mem_set hlease with hlease | rfl
    · exact hs.positive lease hlease
    intro e he
    cases he
    simp only [GateStore.renewed, Option.getD_some]
    rw [Int.add_comm, Int.add_sub_cancel]
    exact hs.positive old hmem expiresAt hexp

/-- A heartbeat that is not in time brings a user back. -/
theorem not_undisturbed_of_late (hs : s.Quiet)
    (hlate : s.timely ⟨now, .heartbeat leaseId⟩ = false) :
    ¬ ({ s.call now (.heartbeat leaseId) with clock := now } : GateStore Proposal).Undisturbed := by
  intro hundisturbed
  rw [← Bool.not_eq_true, timely_heartbeat_iff] at hlate
  push Not at hlate
  obtain ⟨lease, hlease, hlive, httl, hmode, e, hexp, _, row, hrow, hst, hscope⟩ := hlate
  have hbeat : s.heartbeat leaseId now =
      .ok { s with leases := s.leases.set leaseId (GateStore.renewed lease e now) } := by
    unfold heartbeat
    rw [bind_of_find hlease, bind_of_require hlive, bind_of_require httl, bind_of_find hexp]
    rfl
  obtain ⟨id, hid⟩ := getElem?_of_mem hrow
  rw [call, hbeat] at hundisturbed
  refine hundisturbed id row hid hst (GateStore.renewed lease e now) ?_ hlive hmode hscope now
    (Int.le_refl _) fun _ he' => ?_
  · exact List.mem_set (lt_length hlease) _
  · cases he'
    have hpos := hs.positive lease (mem_of_getElem? hlease) e hexp
    exact Int.lt_add_of_pos_right _ hpos

theorem Quiet.step (hs : s.Quiet) (hclock : s.clock ≤ e.now) (htimely : s.timely e = true)
    (h : s.step e = some s') : s'.Quiet := by
  cases h
  obtain ⟨now, c⟩ := e
  rcases call_cases s now (fun _ => true) c with hdoes | ⟨_, rfl, hrenews⟩
  · exact hs.change hclock hdoes.change
  · exact hs.renewed hclock hrenews htimely

/-- One step: users stay away exactly when the event is in time. -/
theorem Quiet.step_iff (hs : s.Quiet) (hclock : s.clock ≤ e.now) :
    (∀ s', s.step e = some s' → s'.Undisturbed) ↔ s.timely e = true := by
  constructor
  · intro h
    by_contra hlate
    obtain ⟨_, call⟩ := e
    cases call with
    | heartbeat =>
      exact not_undisturbed_of_late hs (Bool.not_eq_true _ ▸ hlate) (h _ rfl)
    | _ => exact hlate rfl
  · intro htimely _ hstep
    exact (hs.step hclock htimely hstep).undisturbed

/-- **Users stay away from a permit's rows exactly when heartbeats are in time.**  With a clock
that never goes back, every call of a run leaves the rows of authorized intents undisturbed if
and only if none of its calls is a heartbeat of a blocking lease on such a row that was due
already. -/
theorem users_stay_away_iff {clock : Instant} {es : List (GateEvent Proposal)} :
    Run step (fun s e => s.clock ≤ e.now ∧ ∀ s', s.step e = some s' → s'.Undisturbed)
        (empty clock) es s ↔
      Run step (fun s e => s.clock ≤ e.now ∧ s.timely e = true) (empty clock) es s := by
  constructor <;> intro h <;>
    refine h.imp (I := Quiet) (fun hs hok hstep => ?_) (fun hs hok => ?_) (quiet_empty clock)
  · exact hs.step hok.1 ((hs.step_iff hok.1).mp hok.2) hstep
  · exact ⟨hok.1, (hs.step_iff hok.1).mp hok.2⟩
  · exact hs.step hok.1 hok.2 hstep
  · exact ⟨hok.1, (hs.step_iff hok.1).mpr hok.2⟩

/-- The player's lease is kept alive before the deletion is prepared, and after the permit one on
another file is. -/
def timelyHeartbeats : List (GateEvent Unit) :=
  [⟨0, .acquire ⟨fun _ => some false, fun _ => none⟩ .playback (.location 1) .blocking (some 10)⟩,
    ⟨5, .heartbeat 0⟩, ⟨20, .prepare threeFilesView (deletion 1)⟩,
    ⟨21, .authorize threeFilesView 0⟩,
    ⟨22, .acquire ⟨fun _ => some false, fun _ => none⟩ .playback (.location 2) .blocking (some 10)⟩,
    ⟨30, .heartbeat 1⟩]

theorem timelyHeartbeats_undisturbed :
    ∃ s : GateStore Unit,
      Run step (fun s e => s.clock ≤ e.now ∧ ∀ s', s.step e = some s' → s'.Undisturbed) (empty 0)
        timelyHeartbeats s ∧
      (s.leases.length = 2 ∧ s.intents.map (·.state) = [.authorized]) := by
  have hexec : ∃ s : GateStore Unit,
      Run step (fun s e => s.clock ≤ e.now ∧ s.timely e = true) (empty 0) timelyHeartbeats s ∧
        (s.leases.length = 2 ∧ s.intents.map (·.state) = [.authorized]) :=
    exists_run step _ (by decide)
  obtain ⟨s, hrun, hstate⟩ := hexec
  exact ⟨s, users_stay_away_iff.mpr hrun, hstate⟩

/-- A player's lease is due before the deletion of its file is prepared, and its next
heartbeat comes after the permit. -/
def lateHeartbeat : List (GateEvent Unit) :=
  [⟨0, .acquire ⟨fun _ => some false, fun _ => none⟩ .playback (.location 1) .blocking (some 10)⟩,
    ⟨20, .prepare threeFilesView (deletion 1)⟩, ⟨21, .authorize threeFilesView 0⟩,
    ⟨22, .heartbeat 0⟩]

def revivedLease : UseLease where
  kind := .playback
  scope := .location 1
  blockingMode := .blocking
  ttlBound := true
  acquiredAt := 0
  expiresAt := some 32
  lastHeartbeatAt := some 22
  releaseReason := none

theorem lateHeartbeat_disturbs :
    ∃ s : GateStore Unit, Run step (fun s e => s.clock ≤ e.now) (empty 0) lateHeartbeat s ∧
      ¬ s.Undisturbed := by
  have hexists : ∃ s : GateStore Unit,
      Run step (fun s e => s.clock ≤ e.now) (empty 0) lateHeartbeat s ∧
        (s.intents[0]? = some (authorizedRow threeFilesView (pendingRow (deletion 1) closureOfOne)
            closureOfOne) ∧
          s.leases = [revivedLease] ∧ s.clock = 22) :=
    exists_run step _ (by decide)
  obtain ⟨s, hrun, hrow, hleases, hclock⟩ := hexists
  refine ⟨s, hrun, fun h => ?_⟩
  have hmem : revivedLease ∈ s.leases := by rw [hleases]; exact mem_singleton_self _
  refine h 0 _ hrow rfl revivedLease hmem rfl rfl (by decide) 22 (Int.le_of_eq hclock) ?_
  intro e he
  cases he
  decide

end Permits

end GateStore
end Voom
