import VoomProof.CommitFinalize

/-!
# Finalizing after nothing has changed

`finalize` makes most of the checks of `authorize` again. If the identity tables, the leases and
the alias resolver's answers have not changed, they come out the same, with two exceptions.
`authorize` may go on over a resolver that cannot be reached, when the commit came with a token
for that; `finalize` does not honor the token a second time. And only `finalize` writes the new
location, so a proposal that cannot be written is found out then. `finalize_completes_iff` says
that there is nothing else.
-/

namespace Voom
open Fallible ListUpdate Runs GateStore List

/-! ## Rows of pending intents -/

/-- The rows that a pending intent is about are there. -/
def GateWorld.Rowed (w : GateWorld) : Prop :=
  ∀ (id : CommitId) (row : IntentRow FileLocationProposal), w.gate.intents[id]? = some row →
    row.state = .pending → ∀ scope ∈ row.closureInitial.scopes, w.identity.hasRow scope = true

variable {s s' : IdentityStore} {id retired : FileLocationId}

theorem IdentityStore.Extends.hasRow (h : s.Extends s') {scope : LeaseScope}
    (hrow : s.hasRow scope = true) : s'.hasRow scope = true := by
  cases scope with
  | asset => exact decide_eq_true (Nat.lt_of_lt_of_le (of_decide_eq_true hrow) h.assets)
  | bundle => exact decide_eq_true (Nat.lt_of_lt_of_le (of_decide_eq_true hrow) h.bundles)
  | version => exact decide_eq_true (Nat.lt_of_lt_of_le (of_decide_eq_true hrow) h.versions)
  | location => exact decide_eq_true (Nat.lt_of_lt_of_le (of_decide_eq_true hrow) h.locations)

namespace GateWorld

theorem Rowed.step {w w' : GateWorld} {e : Event} (hw : w.Rowed) (h : w.step e = some w') :
    w'.Rowed := by
  have hext := step_extends h
  intro id row hrow hpend scope hscope
  cases step_move h with
  | kept hsame => exact hext.hasRow (hw id row (hsame ▸ hrow) hpend scope hscope)
  | added _ hrows hadded =>
    rw [hadded] at hrow
    rcases getElem?_concat_cases hrow with hold | ⟨-, rfl⟩
    · exact hext.hasRow (hw id row hold hpend scope hscope)
    · exact hext.hasRow (hrows hpend scope hscope)
  | @moved commitId _ _ hold _ hst hset =>
    rw [hset] at hrow
    by_cases hid : id = commitId
    · subst hid
      rw [getElem?_set_here hold] at hrow
      exact absurd (Option.some.inj hrow ▸ hpend) hst
    · rw [getElem?_set_ne (Ne.symm hid)] at hrow
      exact hext.hasRow (hw id row hrow hpend scope hscope)

theorem rowed_of_run {clock : Instant} {identity : IdentityStore} {w : GateWorld}
    {events : List Event} (h : Run step always ⟨.empty clock, identity⟩ events w) : w.Rowed := by
  refine h.invariant (I := Rowed) (fun hs _ hstep => hs.step hstep) ?_
  intro _ _ hrow
  cases hrow

end GateWorld

/-! ## The walk -/

/-- The closure of a target on a version. -/
def closureOn (tables : IdentityTables) (versionId : FileVersionId) (assetId : FileAssetId)
    (external : List FileLocationId) (warnings : List String) : AffectedScopeClosure where
  fileAssets := .ofList [assetId]
  fileVersions := .ofList [versionId]
  fileLocations := (SortedSet.ofList (tables.liveLocations versionId)).extend external
  bundles := .ofList (tables.bundles assetId)
  resolutionWarnings := warnings

section Walk
variable {Proposal : Type} {tables : IdentityTables}
  {aliases : FileVersionId → Except AliasResolutionError (List FileLocationId)}
  {target : CommitTarget Proposal} {bypass : List BypassKind} {closure : AffectedScopeClosure}

/-- What the walk of `authorize` comes to, when it comes to a closure. -/
theorem buildClosure_ok
    (h : buildClosure tables aliases target .authorize bypass = .ok (.ok closure)) :
    ∃ location assetId, tables.location target.retired = some location ∧
      tables.version location.fileVersionId = some assetId ∧
      ((∃ external, aliases location.fileVersionId = .ok external ∧
          closure = closureOn tables location.fileVersionId assetId external []) ∨
        ∃ message, aliases location.fileVersionId = .error (.unreachable message) ∧
          .closureIncomplete ∈ bypass ∧
          closure = closureOn tables location.fileVersionId assetId []
            [s!"force-path bypass honored: {message}"]) := by
  unfold buildClosure at h
  split at h
  · cases h
  next location hloc =>
  rw [if_neg (by simp)] at h
  split at h
  · cases h
  next assetId hver =>
  refine ⟨location, assetId, hloc, hver, ?_⟩
  dsimp only at h
  split at h
  next external haliases =>
    cases h
    exact .inl ⟨external, haliases, rfl⟩
  next message haliases =>
    split at h
    next hbypass =>
      cases h
      exact .inr ⟨message, haliases, hbypass, rfl⟩
    · cases h
  · cases h

/-- A resolver that answers is asked the same way with and without a token. -/
theorem buildClosure_of_external {location : FileLocationRow} {assetId : FileAssetId}
    {external : List FileLocationId} (hloc : tables.location target.retired = some location)
    (hver : tables.version location.fileVersionId = some assetId)
    (haliases : aliases location.fileVersionId = .ok external) (bypass : List BypassKind) :
    buildClosure tables aliases target .authorize bypass =
      .ok (.ok (closureOn tables location.fileVersionId assetId external [])) := by
  simp only [buildClosure, hloc, hver, haliases, reduceCtorEq]
  rfl

end Walk

/-! ## Nothing has changed -/

section Unchanged
variable {closure : AffectedScopeClosure} {kind : TargetMemberKind} {Proposal : Type}
  {view : GateView Proposal}

theorem mem_scopes {scope : LeaseScope} : scope ∈ closure.scopes ↔ match scope with
    | .asset id => id ∈ closure.fileAssets.elems
    | .bundle id => id ∈ closure.bundles.elems
    | .version id => id ∈ closure.fileVersions.elems
    | .location id => id ∈ closure.fileLocations.elems := by
  cases scope <;> simp [AffectedScopeClosure.scopes, AffectedScopeClosure.scopesOf]

/-- Members that are there already change nothing. -/
theorem mergeObserved_of_mem {observed : Option AffectedScopeClosure}
    (h : ∀ o ∈ observed, ∀ scope ∈ o.scopes, scope ∈ closure.scopes) :
    closure.mergeObserved observed = closure := by
  cases observed with
  | none => rfl
  | some o =>
    have hmem := h o rfl
    have hassets : ∀ id ∈ o.fileAssets.elems, id ∈ closure.fileAssets.elems := fun id hid =>
      mem_scopes.mp (hmem (.asset id) (mem_scopes.mpr hid))
    have hbundles : ∀ id ∈ o.bundles.elems, id ∈ closure.bundles.elems := fun id hid =>
      mem_scopes.mp (hmem (.bundle id) (mem_scopes.mpr hid))
    have hvers : ∀ id ∈ o.fileVersions.elems, id ∈ closure.fileVersions.elems := fun id hid =>
      mem_scopes.mp (hmem (.version id) (mem_scopes.mpr hid))
    have hlocs : ∀ id ∈ o.fileLocations.elems, id ∈ closure.fileLocations.elems :=
      fun id hid => mem_scopes.mp (hmem (.location id) (mem_scopes.mpr hid))
    simp only [AffectedScopeClosure.mergeObserved, SortedSet.extend_of_mem hassets,
      SortedSet.extend_of_mem hbundles, SortedSet.extend_of_mem hvers,
      SortedSet.extend_of_mem hlocs]

theorem idMemberDelta_self (closure : AffectedScopeClosure) :
    (closure.idMemberDelta closure).isEmpty = true := by
  simp [ClosureMemberDelta.isEmpty, AffectedScopeClosure.idMemberDelta,
    SortedSet.difference_isEmpty]

/-- The scope of a member. -/
def memberScope : TargetMemberKind × Nat → LeaseScope
  | (.fileAsset, id) => .asset id
  | (.fileVersion, id) => .version id
  | (.fileLocation, id) => .location id
  | (.bundle, id) => .bundle id

theorem memberScope_mem {id : Nat} (h : (kind, id) ∈ snapshotMembers closure) :
    memberScope (kind, id) ∈ closure.scopes := by
  simp only [snapshotMembers, mem_append, mem_map] at h
  rw [mem_scopes]
  rcases h with ((⟨_, hid, rfl, rfl⟩ | ⟨_, hid, rfl, rfl⟩) | ⟨_, hid, rfl, rfl⟩) |
    ⟨_, hid, rfl, rfl⟩ <;> exact hid

theorem mem_snapshotMembers_location :
    (.fileLocation, id) ∈ snapshotMembers closure ↔ id ∈ closure.fileLocations.elems := by
  simp [snapshotMembers]

theorem IdentityStore.rowEpoch_of_hasRow {id : Nat} (h : s.hasRow (memberScope (kind, id)) = true) :
    ∃ epoch, s.rowEpoch kind id = some epoch := by
  refine Option.isSome_iff_exists.mp (rowEpoch_isSome_iff.mpr ?_)
  cases kind <;> exact of_decide_eq_true h

theorem mem_snapshot {id epoch : Nat} (hmem : (kind, id) ∈ snapshotMembers closure)
    (hepoch : view.rowEpoch kind id = some epoch) :
    ⟨kind, id, epoch⟩ ∈ snapshotTargetRowEpochs view closure := by
  refine mem_filterMap.mpr ⟨(kind, id), hmem, ?_⟩
  simp only [hepoch, Option.map_some]

/-- What looks for a member in its own snapshot finds its epoch. -/
theorem epoch_of_find {triples : List TargetRowEpochTriple}
    (hsub : ∀ t, t ∈ triples ↔ t ∈ snapshotTargetRowEpochs view closure) {id epoch : Nat}
    (hmem : (kind, id) ∈ snapshotMembers closure) (hepoch : view.rowEpoch kind id = some epoch) :
    triples.find? (fun t => t.kind = kind && t.id = id) = some ⟨kind, id, epoch⟩ := by
  have hthere := (hsub _).mpr (mem_snapshot hmem hepoch)
  obtain ⟨found, hfound⟩ : ∃ found, triples.find? (fun t => t.kind = kind && t.id = id) =
      some found :=
    Option.isSome_iff_exists.mp (find?_isSome.mpr ⟨⟨kind, id, epoch⟩, hthere, by simp⟩)
  have hkey := find?_some hfound
  simp only [Bool.and_eq_true, decide_eq_true_eq] at hkey
  obtain ⟨rfl, rfl⟩ := hkey
  have hsame := rowEpoch_of_snapshot ((hsub _).mp (mem_of_find?_eq_some hfound))
  rw [hfound]
  obtain rfl := some_unique hepoch hsame
  rfl

/-- Epochs compared with themselves do not drift. -/
theorem no_drift_of_rows (h : ∀ kind id, (kind, id) ∈ snapshotMembers closure →
      ∃ epoch, view.rowEpoch kind id = some epoch) :
    perMemberEpochDrift view closure (snapshotTargetRowEpochs view closure) = .ok [] := by
  refine bind_ok.mpr ⟨(snapshotMembers closure).map fun m =>
    ⟨m.1, m.2, (view.rowEpoch m.1 m.2).getD 0, (view.rowEpoch m.1 m.2).getD 0⟩, mapM_ok ?_, ?_⟩
  · rintro ⟨kind, id⟩ hmem
    obtain ⟨_, hepoch⟩ := h kind id hmem
    dsimp only
    rw [bind_of_find (epoch_of_find (fun t => mem_reverse) hmem hepoch), hepoch]
    rfl
  · refine return_ok.mpr (filter_eq_nil_iff.mpr ?_)
    intro _ hdrift
    obtain ⟨m, -, rfl⟩ := mem_map.mp hdrift
    simp

theorem firstBlockingOverlap_eq_none {s : GateStore Proposal} {now : Instant}
    (h : ∀ lease ∈ s.leases, lease.blocks now = true → lease.scope ∉ closure.scopes) :
    s.firstBlockingOverlap closure now = none := by
  rw [firstBlockingOverlap, head?_eq_none_iff, blockingLeaseRows, filterMap_eq_nil_iff]
  rintro ⟨lease, _⟩ hmem
  have hlease := mem_of_getElem? (mk_mem_zipIdx_iff_getElem?.mp hmem)
  exact if_neg fun hboth => h lease hlease hboth.1 hboth.2

end Unchanged

/-! ## The mutation -/

/-- No live location but this one has the address. -/
def IdentityStore.FreeBut (s : IdentityStore) (id : FileLocationId)
    (address : FileLocationAddress) : Prop :=
  ∀ (other : FileLocationId) (row : FileLocation), s.locations[other]? = some row →
    row.retired = false → row.address = address → other = id

/-- The target is live, and its replacement has a root and an address for itself. -/
structure Writable (identity : IdentityStore) (target : CommitTarget FileLocationProposal)
    (location : FileLocation) : Prop where
  found : identity.locations[target.retired]? = some location
  live : location.retired = false
  proposal : ∀ new ∈ target.proposal?, new.storageRootId ∈ identity.roots ∧
    identity.FreeBut target.retired (.rooted new.storageRootId new.providerRelativeLocator)

section Mutation
variable {identity identity' : IdentityStore} {snapshot : List TargetRowEpochTriple}
  {target : CommitTarget FileLocationProposal} {location : FileLocation}

theorem liveAt_retired_iff {address : FileLocationAddress}
    (hrow : identity.locations[id]? = some location) :
    (identity.setLocation id (IdentityStore.retiredLocation location)).liveAt address = false ↔
      identity.FreeBut id address := by
  simp only [IdentityStore.liveAt, IdentityStore.setLocation, any_eq_false,
    Bool.and_eq_true, Bool.not_eq_true', decide_eq_true_eq, not_and]
  constructor
  · intro h other row hother hlive haddr
    by_contra hne
    refine h row (mem_of_getElem? (i := other) ?_) hlive haddr
    rw [getElem?_set_ne (Ne.symm hne), hother]
  · intro h row hmem hlive haddr
    obtain ⟨other, hother⟩ := getElem?_of_mem hmem
    by_cases hid : other = id
    · subst hid
      rw [getElem?_set_here hrow] at hother
      obtain rfl := Option.some.inj hother
      cases hlive
    · rw [getElem?_set_ne (Ne.symm hid)] at hother
      exact hid (h other row hother hlive haddr)

theorem expectedEpochFor_of_find {kind : TargetMemberKind} {id epoch : Nat}
    (h : snapshot.find? (fun t => t.kind = kind && t.id = id) = some ⟨kind, id, epoch⟩) :
    expectedEpochFor snapshot kind id = .ok epoch := by
  rw [expectedEpochFor, bind_of_find h]
  rfl

theorem findLive_of_live {refused : VoomError} (hrow : identity.locations[id]? = some location)
    (hlive : location.retired = false) :
    identity.findLive id location.epoch refused = .ok location := by
  rw [IdentityStore.findLive, bind_of_find hrow, bind_of_require ⟨rfl, hlive⟩]
  rfl

theorem dispatchReplacement_isOk_iff {new : FileLocationProposal}
    (hrow : identity.locations[retired]? = some location)
    (hver : location.fileVersionId < identity.versions.length)
    (hexp : expectedEpochFor snapshot .fileLocation retired = .ok location.epoch) :
    (∃ identity', dispatchReplacement identity snapshot retired new = .ok identity') ↔
      location.retired = false ∧ new.storageRootId ∈ identity.roots ∧
        identity.FreeBut retired (.rooted new.storageRootId new.providerRelativeLocator) := by
  rw [dispatchReplacement, bind_of_ok hexp, bind_of_find hrow]
  constructor
  · rintro ⟨_, h⟩
    simp only [IdentityStore.replaceFileLocation, IdentityStore.insertFileLocation, bind_ok,
      require_ok] at h
    obtain ⟨_, ⟨_, -, _, -, _, -, _, hfound, _, ⟨-, hroot, hfree⟩, -⟩, -⟩ := h
    obtain ⟨hfound, -, hlive⟩ := IdentityStore.findLive_ok hfound
    obtain rfl := some_unique hrow hfound
    exact ⟨hlive, hroot, (liveAt_retired_iff hrow).mp hfree⟩
  · rintro ⟨hlive, hroot, hfree⟩
    rw [IdentityStore.replaceFileLocation, bind_of_find hrow, bind_of_require hlive,
      bind_of_require (show location.fileVersionId =
        (new.onVersion location.fileVersionId).fileVersionId from rfl),
      bind_of_ok (findLive_of_live hrow hlive),
      IdentityStore.insertFileLocation,
      bind_of_require ⟨hver, hroot, (liveAt_retired_iff hrow).mpr hfree⟩]
    exact ⟨_, rfl⟩

theorem dispatchDurableMutation_isOk_iff
    (hrow : identity.locations[target.retired]? = some location)
    (hver : location.fileVersionId < identity.versions.length) (hexp : location.retired = false →
      expectedEpochFor snapshot .fileLocation target.retired = .ok location.epoch) :
    (∃ identity', dispatchDurableMutation identity snapshot target = .ok identity') ↔
      Writable identity target location := by
  by_cases hlive : location.retired = false
  · have hexp := hexp hlive
    have hreplaced : ∀ new, target.proposal? = some new →
        dispatchDurableMutation identity snapshot target =
          dispatchReplacement identity snapshot target.retired new →
        ((∃ identity', dispatchDurableMutation identity snapshot target = .ok identity') ↔
          Writable identity target location) := by
      intro new hnew heq
      rw [heq, dispatchReplacement_isOk_iff hrow hver hexp]
      constructor
      · rintro ⟨-, hwritable⟩
        refine ⟨hrow, hlive, ?_⟩
        intro _ hother
        obtain rfl := some_unique hnew hother
        exact hwritable
      · intro h
        exact ⟨hlive, h.proposal new hnew⟩
    cases target with
    | deleteFileLocation id =>
      refine ⟨fun _ => ⟨hrow, hlive, ?_⟩, fun _ => ?_⟩
      · intro _ hnew
        cases hnew
      change expectedEpochFor snapshot .fileLocation id = _ at hexp
      change identity.locations[id]? = _ at hrow
      rw [dispatchDurableMutation, bind_of_ok hexp, IdentityStore.retireFileLocation,
        bind_of_ok (findLive_of_live hrow hlive)]
      exact ⟨_, rfl⟩
    | replaceFileLocation _ new | moveFileLocation _ new => exact hreplaced new rfl rfl
  · refine ⟨?_, fun h => absurd h.live hlive⟩
    rintro ⟨_, h⟩
    obtain ⟨_, hfound, hrowLive, -⟩ := (dispatchDurableMutation_performed h).retired
    obtain rfl := some_unique hrow hfound
    exact absurd hrowLive hlive

end Mutation

/-! ## The same decision again -/

namespace GateWorld

/-- The alias resolver answers for the version of the target. -/
def Answered (env : GateEnv) (location : FileLocation) : Prop :=
  ∃ external, env.aliases location.fileVersionId = .ok external

section Theorem
variable {env : GateEnv} {w₀ w₁ w : GateWorld} {permit : CommitPermit}
  {observed : Option AffectedScopeClosure} {now now₀ clock : Instant} {commitId : CommitId}
  {events : List Event} {identity : IdentityStore} {row : IntentRow FileLocationProposal}

theorem location_of_tables {found : FileLocationRow} (h : s.tables.location id = some found) :
    ∃ location, s.locations[id]? = some location ∧
      found = ⟨location.fileVersionId, location.retired⟩ := by
  obtain ⟨location, hloc, rfl⟩ := Option.map_eq_some_iff.mp h
  exact ⟨location, hloc, rfl⟩

theorem mem_live {location : FileLocation} (h : s.locations[id]? = some location)
    (hlive : location.retired = false) : id ∈ s.tables.liveLocations location.fileVersionId := by
  refine mem_map.mpr ⟨(location, id), mem_filter.mpr ⟨?_, ?_⟩, rfl⟩
  · exact mk_mem_zipIdx_iff_getElem?.mpr h
  · simp [hlive]

/-- What `authorize` has found out about the target of a permit. -/
structure Target (env : GateEnv) (identity : IdentityStore) (permit : CommitPermit)
    (target : CommitTarget FileLocationProposal) (location : FileLocation) : Prop where
  found : identity.locations[target.retired]? = some location
  version : location.fileVersionId < identity.versions.length
  member : location.retired = false → target.retired ∈ permit.closureAuthorized.fileLocations.elems
  walk : Answered env location →
    buildClosure identity.tables env.aliases target .authorize [] =
      .ok (.ok permit.closureAuthorized)

/-- The walk of `authorize` is the one of `finalize` if the resolver answers. -/
theorem target_of_walk {target : CommitTarget FileLocationProposal} {bypass : List BypassKind}
    (h : buildClosure identity.tables env.aliases target .authorize bypass =
      .ok (.ok permit.closureAuthorized)) :
    ∃ location, Target env identity permit target location := by
  obtain ⟨_, assetId, hfound, hver, hclosure⟩ := buildClosure_ok h
  obtain ⟨location, hloc, rfl⟩ := location_of_tables hfound
  obtain ⟨_, hthere, -⟩ := Option.map_eq_some_iff.mp hver
  refine ⟨location, hloc, lt_length hthere, ?_, ?_⟩
  · intro hlive
    have hmem := mem_live hloc hlive
    have hwithin : ∀ external warnings, target.retired ∈ (closureOn identity.tables
        location.fileVersionId assetId external warnings).fileLocations.elems := by
      intro _ _
      exact SortedSet.mem_extend.mpr (.inl (SortedSet.mem_ofList.mpr hmem))
    rcases hclosure with ⟨_, -, heq⟩ | ⟨_, -, -, heq⟩ <;>
      exact heq ▸ hwithin _ _
  · rintro ⟨_, haliases⟩
    rw [buildClosure_of_external hfound hver haliases] at h ⊢
    exact h

theorem finalize_of_passes {intent : AuthorizedIntent FileLocationProposal}
    {closureFinal : AffectedScopeClosure} {identity' : IdentityStore}
    (hread : w.gate.readAuthorizedIntent permit.commitId permit.epoch = .ok intent)
    (happ : env.appendEvent = .ok ())
    (hpasses : Passes env w intent permit observed now closureFinal)
    (hdisp : dispatchDurableMutation w.identity intent.targetRowEpochs intent.row.target =
      .ok identity') :
    ∃ outcome w', w.finalize env permit (.applied observed) now = .ok (.completed outcome, w') := by
  have hin : w.finalizeAppliedInner env intent permit observed now =
      .ok ⟨completedRow intent.row, identity', closureFinal, .allowed⟩ := by
    rw [GateWorld.finalizeAppliedInner, bind_of_ok (runPhaseCTripWires_pass_iff.mpr hpasses)]
    dsimp only
    rw [bind_of_ok hdisp, bind_of_ok happ]
    rfl
  rw [GateWorld.finalize, bind_of_ok hread]
  simp only [finalizeIntent, finalizeApplied, hin]
  exact ⟨_, _, rfl⟩

/-- **When nothing has changed, an authorized commit is completed exactly if the resolver
answers and the mutation can be written.** -/
theorem finalize_completes_iff
    (hrun : Run step always ⟨.empty clock, identity⟩ events w₀)
    (hauthorized : w₀.authorize env commitId now₀ = .ok (.authorized permit, w₁))
    (hidentity : w.identity = w₁.identity)
    (hintent : w.gate.intents[permit.commitId]? = w₁.gate.intents[permit.commitId]?)
    (hrow : w₁.gate.intents[permit.commitId]? = some row)
    (hleases : ∀ lease ∈ w.gate.leases, lease.blocks now = true →
      lease.scope ∉ permit.closureAuthorized.scopes)
    (hobserved : ∀ o ∈ observed, ∀ scope ∈ o.scopes, scope ∈ permit.closureAuthorized.scopes) :
    (∃ outcome w', w.finalize env permit (.applied observed) now = .ok (.completed outcome, w')) ↔
      ∃ location, Answered env location ∧ Writable w.identity row.target location := by
  obtain ⟨hgate, hsame⟩ := authorize_ok hauthorized
  obtain ⟨-, before, hgranted⟩ := authorize_granted hgate
  obtain ⟨gate, identity'⟩ := w
  obtain rfl : identity' = w₀.identity := hidentity.trans hsame
  rw [hgranted.intents, getElem?_set_here hgranted.found] at hrow hintent
  obtain rfl := Option.some.inj hrow
  have hread := readAuthorizedIntent_ok hintent rfl rfl rfl
  change gate.readAuthorizedIntent permit.commitId (before.epoch + 1) = _ at hread
  rw [← hgranted.epoch] at hread
  obtain ⟨hwalk, hdelta, -⟩ := runPhaseBGate_pass hgranted.gate
  obtain ⟨location, htarget⟩ := target_of_walk hwalk
  -- the rows of the closure were there when the intent was prepared
  have hrows : ∀ kind id, (kind, id) ∈ snapshotMembers permit.closureAuthorized →
      ∃ epoch, w₀.identity.rowEpoch kind id = some epoch := by
    intro _ _ hmem
    refine IdentityStore.rowEpoch_of_hasRow
      (rowed_of_run hrun _ _ hgranted.found hgranted.pending _ ?_)
    rw [← scopes_of_delta_isEmpty hdelta]
    exact memberScope_mem hmem
  have hdispatch : (∃ identity', dispatchDurableMutation w₀.identity
      (snapshotTargetRowEpochs (env.view w₀.identity) permit.closureAuthorized) before.target =
        .ok identity') ↔ Writable w₀.identity before.target location := by
    refine dispatchDurableMutation_isOk_iff htarget.found htarget.version ?_
    intro hlive
    have hmem := mem_snapshotMembers_location.mpr (htarget.member hlive)
    refine expectedEpochFor_of_find (epoch_of_find (fun t => Iff.rfl) hmem ?_)
    exact congrArg (Option.map FileLocation.epoch) htarget.found
  constructor
  · rintro ⟨_, _, hfinal⟩
    obtain ⟨_, _, hread', hends, hanswer, -⟩ := finalize_applied_ok hfinal
    obtain rfl := ok_unique hread hread'
    cases hends with
    | @performed _ identity' hpasses hdone =>
      obtain ⟨walked, hwalked, -⟩ := hpasses.walked
      obtain ⟨found, _, hfound, -, hclosure⟩ := buildClosure_ok hwalked
      obtain ⟨_, hlocation', rfl⟩ := location_of_tables hfound
      obtain rfl := some_unique htarget.found hlocation'
      refine ⟨location, ?_, hdispatch.mp ⟨identity', hdone⟩⟩
      -- without a token, only an answer of the resolver gives a closure
      rcases hclosure with ⟨external, haliases, -⟩ | ⟨_, -, hbypass, -⟩
      · exact ⟨external, haliases⟩
      · exact absurd hbypass not_mem_nil
    | @kept _ _ result hrefuses =>
      cases result <;> first | exact absurd rfl hrefuses.1 | cases hanswer
  · rintro ⟨_, hanswered, hwritable⟩
    obtain rfl := some_unique htarget.found hwritable.found
    obtain ⟨_, hdone⟩ := hdispatch.mpr hwritable
    have hmerged := mergeObserved_of_mem hobserved
    refine finalize_of_passes hread hgranted.appended
      (Passes.mk ⟨_, ?_, hmerged.symm⟩ ?_ ?_ ?_) hdone
    · exact htarget.walk hanswered
    · exact no_drift_of_rows hrows
    · exact idMemberDelta_self _
    · exact firstBlockingOverlap_eq_none hleases

end Theorem

theorem moveFirst_written : ∃ permit w₁ row,
    (prepared quietEnv moveFirst).authorize quietEnv 0 1 = .ok (.authorized permit, w₁) ∧
    w₁.gate.intents[permit.commitId]? = some row ∧
    ∃ location, Answered quietEnv location ∧ Writable w₁.identity row.target location := by
  obtain ⟨permit, w₁, answer, w', hauthorized, hfinalized, hdone⟩ := exists_finalized isCompleted
    quietEnv id (prepared quietEnv moveFirst) 1 2 (by decide +kernel)
  have hrun : Run step always ⟨.empty 0, linkedFile⟩ [⟨0, .prepare quietEnv moveFirst⟩]
      (prepared quietEnv moveFirst) := .cons trivial rfl (.nil _)
  obtain ⟨hgate, -⟩ := authorize_ok hauthorized
  obtain ⟨-, before, hgranted⟩ := authorize_granted hgate
  have hrow := List.getElem?_set_self (a := authorizedRow (quietEnv.view linkedFile) before
    permit.closureAuthorized) (lt_length hgranted.found)
  have hquiet : w₁.gate.leases = [] := hgranted.leases
  cases answer with
  | completed outcome =>
    refine ⟨permit, w₁, _, hauthorized, hgranted.intents ▸ hrow, ?_⟩
    refine (finalize_completes_iff hrun hauthorized rfl rfl (hgranted.intents ▸ hrow) ?_ ?_).mp
      ⟨outcome, w', hfinalized⟩
    · intro _ hlease
      rw [hquiet] at hlease
      cases hlease
    · intro o ho
      cases ho
  | cancelledAfterAuthorize => cases hdone
  | blocked => cases hdone

/-! ### Commits that are authorized and not completed -/

/-- The alias resolver cannot be reached. -/
def unreachableEnv : GateEnv := { quietEnv with aliases := fun _ => .error (.unreachable "nfs") }

/-- Move the first location, whatever the resolver says. -/
def forceFirst : DestructiveCommit FileLocationProposal :=
  { moveFirst with overrideToken := some ⟨"op", "outage", [.closureIncomplete]⟩ }

/-- Move the first location to where the second one is. -/
def moveOntoSecond : DestructiveCommit FileLocationProposal :=
  ⟨.moveFileLocation 0 ⟨0, "b.mkv", none⟩, [], none⟩

def isMutationFailed : FinalizeOutcome → Bool
  | .blocked outcome => match outcome.result with
    | .blockedByMutationFailed _ => true
    | _ => false
  | _ => false

/-- Authorized, and right afterwards refused with a failed mutation. -/
def AuthorizedInVain (env : GateEnv) (input : DestructiveCommit FileLocationProposal) : Prop :=
  ∃ permit w₁ answer w', (prepared env input).authorize env 0 1 = .ok (.authorized permit, w₁) ∧
    w₁.finalize env permit (.applied none) 2 = .ok (answer, w') ∧ isMutationFailed answer = true

theorem authorized_in_vain :
    AuthorizedInVain unreachableEnv forceFirst ∧ AuthorizedInVain quietEnv moveOntoSecond :=
  ⟨exists_finalized isMutationFailed unreachableEnv id _ 1 2 (by decide +kernel),
    exists_finalized isMutationFailed quietEnv id _ 1 2 (by decide +kernel)⟩

end GateWorld

end Voom
