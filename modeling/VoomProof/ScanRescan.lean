import VoomProof.ScanWatermark

/-!
# Scanning twice

A second scan of a library that has not changed should change nothing: publication finds every
file at its address, and there is nothing to retire. But the two halves of a completion differ
in what counts as seen. Publication writes a location for every sidecar that the evidence of a
file names; retirement asks whether the locator has an observation of its own. `rescan_noop_iff`
says that a second scan is a no-op exactly when both agree: every sidecar has an observation,
and so has every location that others have added while the first scan was running.
-/

namespace Voom
open Fallible Runs List

/-! ## Publishing again what is known -/

variable {known : ScannedMatch}

namespace IdentityStore
variable {s s' : IdentityStore} {root : StorageRootId} {env : PublishEnv}

theorem persistSidecar_again {bundleId : BundleId} {sidecar : PublishedSidecar}
    (huniq : s.UniqueLive) (hknown : s.SidecarKnown root bundleId sidecar)
    (h : s.persistSidecar env bundleId root sidecar = .ok s') : s' = s := by
  obtain ⟨_, hholds, -, -, hmem⟩ := hknown
  rw [persistSidecar, findLiveScannedAddress_of_holds huniq hholds] at h
  simp only [requireSidecarMembership, hmem, bind_ok, return_ok] at h
  obtain ⟨_, -, _, -, rfl⟩ := h
  rfl

theorem resolveOrCreatePrimaryBundle_again {locator path : String} {bundleId found : BundleId}
    (hholds : s.HoldsAt root locator known)
    (hmem : s.getMemberByFileAsset known.fileAssetId =
      some ⟨bundleId, known.fileAssetId, .primaryVideo⟩)
    (h : s.resolveOrCreatePrimaryBundle known.fileVersionId path = .ok (found, s')) :
    found = bundleId ∧ s' = s := by
  obtain ⟨version, hver, -, hasset, -⟩ := hholds.version
  simp only [resolveOrCreatePrimaryBundle, primaryBundleForFileVersion, bind_ok, find_ok] at h
  obtain ⟨⟨_, _⟩, ⟨_, hver', _, -, hbundle⟩, h⟩ := h
  obtain rfl := some_unique hver hver'
  rw [hasset, hmem] at hbundle
  simp only [bind_ok] at hbundle
  obtain ⟨_, -, heq⟩ := hbundle
  cases heq
  cases h
  exact ⟨rfl, rfl⟩

theorem persistBundleSidecars_again {locator path : String} {sidecars : List PublishedSidecar}
    (huniq : s.UniqueLive) (hholds : s.HoldsAt root locator known)
    (hknown : sidecars ≠ [] → ∃ bundleId, s.getMemberByFileAsset known.fileAssetId =
        some ⟨bundleId, known.fileAssetId, .primaryVideo⟩ ∧
      ∀ sidecar ∈ sidecars, s.SidecarKnown root bundleId sidecar)
    (h : s.persistBundleSidecars env known.fileVersionId path root sidecars = .ok s') : s' = s := by
  unfold persistBundleSidecars at h
  split at h
  · cases h
    rfl
  next hne =>
  obtain ⟨_, hmember, hall⟩ := hknown hne
  simp only [bind_ok] at h
  obtain ⟨⟨_, t⟩, hbundle, hfold⟩ := h
  obtain ⟨rfl, rfl⟩ := resolveOrCreatePrimaryBundle_again hholds hmember hbundle
  refine foldlM_invariant_mem (P := fun u => u = t) ?_ hfold rfl
  rintro sidecar hmem u _ hstep rfl
  exact persistSidecar_again huniq (hall sidecar hmem) hstep

end IdentityStore

namespace ScanCatalog
open IdentityStore

variable {c c' : ScanCatalog} {env : PublishEnv} {root : StorageRootId} {locator : String}
  {evidence : ScanObservationEvidence}

theorem publishOne_again {hardlink : Bool} (huniq : c.identity.UniqueLive)
    (hknows : Knows c.identity root locator evidence)
    (h : c.publishOne env root locator evidence = .ok (hardlink, c')) :
    c'.identity = c.identity := by
  obtain ⟨_, hholds, _, _, hbundle⟩ := hknows
  simp only [publishOne, resolveIdentity, resolveSameAddress,
    findLiveScannedAddress_of_holds huniq hholds, bind_ok, return_ok] at h
  obtain ⟨⟨_, _, _⟩, ⟨_, ⟨_, -, rfl⟩, hres⟩, _, -, sidecars, hsides, _, hpersist, heq⟩ := h
  cases heq
  cases hres
  refine persistBundleSidecars_again huniq hholds (fun hne => ?_) hpersist
  have hne' : evidence.sidecars ≠ [] := by
    rintro hnil
    rw [hnil] at hsides
    cases hsides
    exact hne rfl
  obtain ⟨bundleId, hmember, hall⟩ := hbundle hne'
  refine ⟨bundleId, hmember, fun published hin => ?_⟩
  obtain ⟨sidecar, hmem, hpub⟩ := (mapM_ok_mem hsides).2 published hin
  obtain ⟨_, hpub', hknown⟩ := hall sidecar hmem
  cases hpub.symm.trans hpub'
  exact hknown

/-- **Publishing again what is known changes no identity.** -/
theorem publishSessionEvidence_again {observations : List ScanObservation}
    {summary : PublicationSummary} (huniq : c.identity.UniqueLive)
    (hknows : ∀ observation ∈ observations, ∀ evidence ∈ observation.evidence,
      Knows c.identity root observation.providerRelativeLocator evidence)
    (h : c.publishSessionEvidence env root observations = .ok (summary, c')) :
    c'.identity = c.identity := by
  refine foldlM_invariant_mem (P := fun so => so.2.identity = c.identity) ?_ h rfl
  intro observation hmem _ _ hstep hsame
  unfold publishNext at hstep
  split at hstep
  · cases hstep
    exact hsame
  next evidence hsome =>
  simp only [bind_ok, return_ok] at hstep
  obtain ⟨⟨_, _⟩, hpub, rfl⟩ := hstep
  have hagain := publishOne_again (hsame ▸ huniq) (hsame ▸ hknows observation hmem evidence hsome)
    hpub
  exact hagain.trans hsame

end ScanCatalog

/-! ## What a completion leaves -/

/-- Every live location of the root has an observation. -/
def ScanSession.AllSeen (session : ScanSession) (s : IdentityStore) : Prop :=
  ∀ (id : FileLocationId) (row : FileLocation) (locator : String), s.locations[id]? = some row →
    row.retired = false → row.address = .rooted session.storageRootId locator →
    session.observed locator = true

namespace IdentityStore
variable {s : IdentityStore} {root : StorageRootId} {session : ScanSession}
  {sessionId : ScanSessionId} {id : FileLocationId} {row : FileLocation} {locator : String}

theorem HoldsAt.reconciled (h : s.HoldsAt root locator known)
    (hobs : session.observed locator = true) :
    (session.retireCompletionCandidates sessionId s).HoldsAt root locator known := by
  obtain ⟨⟨row, hrow, hlive, haddr, hver⟩, hvers⟩ := h
  obtain ⟨hrow', -⟩ := ScanSession.retire_live_iff.mpr
    ⟨hrow, hlive, ScanSession.isCandidate_of_observed haddr hobs⟩
  exact ⟨⟨row, hrow', hlive, haddr, hver⟩, hvers⟩

theorem UniqueLive.reconciled (h : s.UniqueLive) :
    (session.retireCompletionCandidates sessionId s).UniqueLive := by
  intro i j a b hi hj ha hb hsame
  obtain ⟨hi', -, -⟩ := ScanSession.retire_live_iff.mp ⟨hi, ha⟩
  obtain ⟨hj', -, -⟩ := ScanSession.retire_live_iff.mp ⟨hj, hb⟩
  exact h i j a b hi' hj' ha hb hsame

/-- Nothing is retired where everything has been seen. -/
theorem retire_of_allSeen (h : session.AllSeen s) :
    session.retireCompletionCandidates sessionId s = s := by
  have hlocs : s.locations.mapIdx (session.reconcile sessionId) = s.locations := by
    refine ext_getElem? fun id => ?_
    rw [getElem?_mapIdx]
    cases hrow : s.locations[id]? with
    | none => rfl
    | some row =>
      by_cases hcand : session.isCandidate id row = true
      · obtain ⟨locator, -, haddr, -, hlive, -, hunseen⟩ :=
          ScanSession.isCandidate_iff.mp hcand
        cases (h id row locator hrow hlive haddr).symm.trans hunseen
      · rw [Option.map_some, ScanSession.reconcile, if_neg hcand]
  rw [ScanSession.retireCompletionCandidates, hlocs]

/-! ### Unique addresses -/

/-- A live row may be retired, or moved to a free address. -/
theorem UniqueLive.set {row' : FileLocation} (h : s.UniqueLive) (hrow : s.locations[id]? = some row)
    (hlive : row.retired = false)
    (hfree : row'.retired = true ∨ row'.address = row.address ∨ s.liveAt row'.address = false) :
    (s.setLocation id row').UniqueLive := by
  -- no other live row is at the address of the new one
  have hother : ∀ (j : FileLocationId) (b : FileLocation), j ≠ id → s.locations[j]? = some b →
      b.retired = false → row'.retired = false → b.address ≠ row'.address := by
    intro j b hne hj hb hnew hsame
    rcases hfree with hret | hkept | hfree
    · cases hnew.symm.trans hret
    · exact hne (h j id b row hj hrow hb hlive (hsame.trans hkept))
    · simp only [liveAt, any_eq_false, Bool.and_eq_true, Bool.not_eq_true', decide_eq_true_eq,
        not_and] at hfree
      exact hfree b (mem_of_getElem? hj) hb hsame
  intro i j a b hi hj ha hb hsame
  rw [setLocation, ListUpdate.getElem?_set_at hrow] at hi hj
  split at hi <;> split at hj
  next hi' hj' => exact hi'.trans hj'.symm
  next hi' hj' =>
    cases hi
    exact absurd hsame.symm (hother j b hj' hj hb ha)
  next hi' _ =>
    cases hj
    exact absurd hsame (hother i a hi' hi ha hb)
  · exact h i j a b hi hj ha hb hsame

theorem Change.uniqueLive {s' : IdentityStore} (h : Change s s') (huniq : s.UniqueLive) :
    s'.UniqueLive := by
  cases h with
  | located _ _ _ hfree => exact huniq.concat hfree
  | retired hrow hlive => exact huniq.set hrow hlive (.inl rfl)
  | moved _ _ hrow hlive _ _ hfree =>
    exact huniq.set hrow hlive (.inr (hfree.imp_left Eq.symm))
  | _ => exact huniq

theorem Changes.uniqueLive {s' : IdentityStore} (h : Changes s s') (huniq : s.UniqueLive) :
    s'.UniqueLive := by
  induction h with
  | refl => exact huniq
  | tail _ hchange ih => exact hchange.uniqueLive ih

/-! ### What is expected of a scan -/

/-- Exactly one live location at the address, on a live version with these bytes. -/
def OneLive (s : IdentityStore) (root : StorageRootId) (locator contentHash : String)
    (sizeBytes : Nat) : Prop :=
  ∃ known, s.HoldsAt root locator known ∧ known.contentHash = contentHash ∧
    known.sizeBytes = sizeBytes ∧ ∀ (id : FileLocationId) (row : FileLocation),
      s.locations[id]? = some row → row.retired = false → row.address = .rooted root locator →
      id = known.fileLocationId

theorem HoldsAt.oneLive (huniq : s.UniqueLive) (h : s.HoldsAt root locator known) :
    s.OneLive root locator known.contentHash known.sizeBytes := by
  refine ⟨known, h, rfl, rfl, fun id row hrow hlive haddr => ?_⟩
  obtain ⟨row', hrow', hlive', haddr', -⟩ := h.location
  exact huniq id _ row row' hrow hrow' hlive hlive' (haddr.trans haddr'.symm)

/-- Every observation with evidence and every sidecar of it is there. -/
def Placed (s : IdentityStore) (session : ScanSession) : Prop :=
  ∀ observation ∈ session.observations, ∀ evidence ∈ observation.evidence,
    s.OneLive session.storageRootId observation.providerRelativeLocator evidence.contentHash
        evidence.sizeBytes ∧
      ∀ sidecar ∈ evidence.sidecars, s.OneLive session.storageRootId
        sidecar.providerRelativeLocator ("blake3:" ++ sidecar.blake3Hex) sidecar.sizeBytes

end IdentityStore

/-- Every sidecar has an observation of its own. -/
def ScanSession.SidecarsSeen (session : ScanSession) : Prop :=
  ∀ observation ∈ session.observations, ∀ evidence ∈ observation.evidence,
    ∀ sidecar ∈ evidence.sidecars, session.observed sidecar.providerRelativeLocator = true

/-- So has every live location of the root above the mark. -/
def ScanSession.NewcomersSeen (session : ScanSession) (s : IdentityStore) : Prop :=
  ∀ (id : FileLocationId) (row : FileLocation) (locator : String), s.locations[id]? = some row →
    row.retired = false → row.address = .rooted session.storageRootId locator →
    (∀ mark, session.locationHighWatermarkId = some mark → mark < id) →
    session.observed locator = true

namespace ScanSession
open IdentityStore ScanCatalog
variable {session session' : ScanSession} {sessionId : ScanSessionId} {s : IdentityStore}

theorem AllSeen.of_eq (h : session.AllSeen s)
    (hroot : session'.storageRootId = session.storageRootId)
    (hobs : session'.observations = session.observations) : session'.AllSeen s := by
  intro id row locator hrow hlive haddr
  rw [observed, hobs]
  exact h id row locator hrow hlive (hroot ▸ haddr)

/-- What publication knows is known after retirement, if every sidecar has been seen. -/
theorem knows_reconciled (hseen : session.SidecarsSeen) {observation : ScanObservation}
    (hmem : observation ∈ session.observations) {evidence : ScanObservationEvidence}
    (hev : evidence ∈ observation.evidence)
    (h : Knows s session.storageRootId observation.providerRelativeLocator evidence) :
    Knows (session.retireCompletionCandidates sessionId s) session.storageRootId
      observation.providerRelativeLocator evidence := by
  obtain ⟨known, hholds, hhash, hsize, hbundle⟩ := h
  refine ⟨known, hholds.reconciled (observed_of_mem hmem), hhash, hsize, fun hne => ?_⟩
  obtain ⟨bundleId, hmember, hall⟩ := hbundle hne
  refine ⟨bundleId, hmember, fun sidecar hin => ?_⟩
  obtain ⟨published, hpub, other, hother, hrest⟩ := hall sidecar hin
  have hobs := hseen observation hmem evidence hev sidecar hin
  rw [← (sidecarFromEvidence_ok hpub).1] at hobs
  exact ⟨published, hpub, other, hother.reconciled hobs, hrest⟩

theorem placed_of_knows (huniq : s.UniqueLive)
    (hknows : ∀ observation ∈ session.observations, ∀ evidence ∈ observation.evidence,
      Knows s session.storageRootId observation.providerRelativeLocator evidence) :
    s.Placed session := by
  intro observation hmem evidence hev
  obtain ⟨_, hholds, hhash, hsize, hbundle⟩ := hknows observation hmem evidence hev
  refine ⟨hhash ▸ hsize ▸ hholds.oneLive huniq, fun sidecar hin => ?_⟩
  obtain ⟨_, -, hall⟩ := hbundle (ne_nil_of_mem hin)
  obtain ⟨_, hpub, _, hother, hhash', hsize', -⟩ := hall sidecar hin
  obtain ⟨hloc, hcont, hbytes⟩ := sidecarFromEvidence_ok hpub
  rw [← hloc, ← hcont, ← hbytes, ← hhash', ← hsize']
  exact hother.oneLive huniq

/-- A place that publication writes to has been seen. -/
theorem observed_of_named (hseen : session.SidecarsSeen) {locator : String}
    (h : locator ∈ namedByAll session.observations) : session.observed locator = true := by
  obtain ⟨observation, hmem, hnamed⟩ := mem_flatMap.mp h
  obtain ⟨evidence, hev, hnamed⟩ := mem_flatMap.mp hnamed
  rw [Option.mem_toList] at hev
  rcases mem_cons.mp hnamed with rfl | hsidecar
  · exact observed_of_mem hmem
  · obtain ⟨sidecar, hin, rfl⟩ := mem_map.mp hsidecar
    exact hseen observation hmem evidence hev sidecar hin

/-- After a completion every live location of the root has been seen, if the sidecars and the
newcomers have. -/
theorem allSeen_reconciled {published : IdentityStore} (hseen : session.SidecarsSeen)
    (hnew : session.NewcomersSeen s)
    (hadds : Adds session.storageRootId (namedByAll session.observations) s published) :
    session.AllSeen (session.retireCompletionCandidates sessionId published) := by
  intro id row locator hrow hlive haddr
  obtain ⟨hrow, -, hcand⟩ := ScanSession.retire_live_iff.mp ⟨hrow, hlive⟩
  rcases Nat.lt_or_ge id s.locations.length with hold | hlater
  · have hsame := hadds.grows.location (getElem?_eq_getElem hold)
    obtain rfl := some_unique hsame hrow
    by_contra hunseen
    refine hunseen (hnew id _ locator (getElem?_eq_getElem hold) hlive haddr ?_)
    intro mark hmark
    by_contra hle
    have := isCandidate_iff.mpr ⟨locator, mark, haddr, hmark, hlive, Nat.le_of_not_lt hle,
      Bool.eq_false_of_not_eq_true hunseen⟩
    cases hcand.symm.trans this
  · obtain ⟨-, _, hnamed, haddr'⟩ := hadds.located id row hrow hlater
    cases haddr.symm.trans haddr'
    exact observed_of_named hseen hnamed

end ScanSession

/-! ## Two scans -/

namespace ScanWorld
open IdentityStore ScanCatalog

/-- No reachable catalog has two live rows at one address. -/
theorem run_uniqueLive {roots : List StorageRootId} {events : List Event} {w : ScanWorld}
    (h : Run step always (initial roots) events w) : w.catalog.identity.UniqueLive := by
  refine h.invariant (I := fun w => w.catalog.identity.UniqueLive) ?_ ?_
  · intro u e _ hu _ hstep
    cases step_moves hstep with
    | sessions _ hcat => exact hcat ▸ hu
    | identity _ hident => exact Changes.uniqueLive (call_changes hident) hu
    | completed _ _ hpub =>
      exact ((publishSessionEvidence_ok hpub).1.unique hu).reconciled
  · intro i j a b hi
    cases hi

/-- No asset, version, location or member has been created, and no location retired. -/
structure NoOp (w w' : ScanWorld) : Prop where
  assets : w'.catalog.identity.assets.length = w.catalog.identity.assets.length
  versions : w'.catalog.identity.versions.length = w.catalog.identity.versions.length
  locations : w'.catalog.identity.locations.length = w.catalog.identity.locations.length
  members : w'.catalog.identity.members.length = w.catalog.identity.members.length
  retired : ∀ id, ¬ Retires w w' id

section Theorem
variable {w w' u u' v v' : ScanWorld} {first second : ScanSessionId}
  {session session' : ScanSession} {env env' env'' : ScanEnv} {node node' node'' : NodeId}
  {incarnation incarnation' incarnation'' : NodeIncarnationId} {last last' : Option Nat}
  {count count' : Nat} {now now' now'' : Instant} {events : List Event}

/-- **Scanning again is a no-op exactly if every sidecar, and every location that was added
while the first scan was running, has an observation of its own.** -/
theorem rescan_noop_iff (hunique : w.catalog.identity.UniqueLive)
    (hfound : w.sessions[first]? = some session)
    (hfirst : w.completeScanSession env first node incarnation last count now = (.ok (), w'))
    (hsame : u.catalog = w'.catalog)
    (hstart : u.startScanSession env' second node' incarnation' now' = (.ok (), u'))
    (hduring : Run step always u' events v) (hsame' : v.catalog = w'.catalog)
    (hfound' : v.sessions[second]? = some session')
    (hroot : session'.storageRootId = session.storageRootId)
    (hobservations : session'.observations = session.observations)
    (hsecond : v.completeScanSession env'' second node'' incarnation'' last' count' now'' =
      (.ok (), v')) :
    (NoOp v v' ∧ w'.catalog.identity.Placed session ∧ v'.catalog.identity.Placed session) ↔
      session.SidecarsSeen ∧ session.NewcomersSeen w.catalog.identity := by
  obtain ⟨_, hfound₁, -, hfinish⟩ := completeScanSession_ok hfirst
  obtain rfl := some_unique hfound hfound₁
  obtain ⟨_, published, hpublish, rfl⟩ := finishCompletion_ok hfinish
  obtain ⟨_, hfound₂, -, hfinish'⟩ := completeScanSession_ok hsecond
  obtain rfl := some_unique hfound' hfound₂
  obtain ⟨_, published', hpublish', rfl⟩ := finishCompletion_ok hfinish'
  obtain ⟨-, hmark⟩ := started_mark hstart hduring hfound'
  rw [hsame, ← hsame'] at hmark
  obtain ⟨hadds, hknows⟩ := publishSessionEvidence_ok hpublish
  -- the tables between the two scans
  have hidentity : v.catalog.identity =
      session.retireCompletionCandidates first published.identity := by
    rw [hsame']
    rfl
  constructor
  · rintro ⟨hnoop, hplaced, -⟩
    have hall : session.AllSeen (session.retireCompletionCandidates first published.identity) := by
      intro id _ _ hrow hlive haddress
      by_contra hunseen
      rw [← hidentity] at hrow
      refine hnoop.retired id (retires_of_unseen hpublish' hmark hrow hlive
        (hroot.symm ▸ haddress) ?_)
      rw [ScanSession.observed, hobservations]
      exact Bool.eq_false_of_not_eq_true hunseen
    constructor
    · intro observation hmem evidence hevidence sidecar hin
      obtain ⟨_, hholds, -⟩ := (hplaced observation hmem evidence hevidence).2 sidecar hin
      obtain ⟨row, hrow, hlive, haddress, -⟩ := hholds.location
      exact hall _ row _ hrow hlive haddress
    · intro id row locator hrow hlive haddress habove
      have hkept : session.isCandidate id row = false := by
        refine Bool.eq_false_of_not_eq_true fun hcandidate => ?_
        obtain ⟨-, mark, -, hhigh, -, hle, -⟩ := ScanSession.isCandidate_iff.mp hcandidate
        exact absurd (habove mark hhigh) (Nat.not_lt.mpr hle)
      obtain ⟨hrow', -⟩ := ScanSession.retire_live_iff.mpr ⟨hadds.grows.location hrow, hlive, hkept⟩
      exact hall id row locator hrow' hlive haddress
  · rintro ⟨hseen, hnew⟩
    have hunique' : (session.retireCompletionCandidates first published.identity).UniqueLive :=
      (hadds.unique hunique).reconciled
    have hknows' : ∀ observation ∈ session.observations, ∀ evidence ∈ observation.evidence,
        Knows (session.retireCompletionCandidates first published.identity) session.storageRootId
          observation.providerRelativeLocator evidence :=
      fun observation hmem evidence hevidence => ScanSession.knows_reconciled hseen hmem hevidence
        (hknows observation hmem evidence hevidence)
    have hplaced := ScanSession.placed_of_knows hunique' hknows'
    rw [hroot, hobservations] at hpublish'
    have hagain :=
      publishSessionEvidence_again (hidentity ▸ hunique') (hidentity ▸ hknows') hpublish'
    have hall : session.AllSeen (session.retireCompletionCandidates first published.identity) :=
      ScanSession.allSeen_reconciled hseen hnew hadds
    have hfinal : (v.completedWorld second session' published').catalog.identity =
        session.retireCompletionCandidates first published.identity := by
      change session'.retireCompletionCandidates second published'.identity = _
      rw [hagain, hidentity, retire_of_allSeen (hall.of_eq hroot hobservations)]
    have hunchanged := hfinal.trans hidentity.symm
    refine ⟨?_, hplaced, hfinal ▸ hplaced⟩
    constructor
    · rw [hunchanged]
    · rw [hunchanged]
    · rw [hunchanged]
    · rw [hunchanged]
    · rintro _ ⟨hafter, hbefore⟩
      rw [location, hunchanged] at hafter
      exact hbefore hafter

end Theorem

/-! ### A film with a subtitle -/

def zeros : String := "0000000000000000000000000000000000000000000000000000000000000000"

def film : ScanObservation where
  providerRelativeLocator := "a.mkv"
  providerObjectIdentity := "inode-1"
  sizeBytes := 1
  stabilityStartedAt := 0
  stabilityConfirmedAt := 0
  evidence := some {
    contentHash := "blake3:" ++ zeros
    sizeBytes := 1
    fileKey := none
    sidecars := [⟨"a.srt", "external_subtitle", zeros, 1⟩]
    probeSnapshot := .null }

/-- The subtitle, observed as a file of its own. -/
def subtitle : ScanObservation := ⟨"a.srt", "inode-2", 1, 0, 0, none⟩

/-- A session up to its completion. -/
def scanning (id : ScanSessionId) (observations : List ScanObservation) : List Event :=
  [⟨quietScan, 0, .request 0 60⟩, ⟨quietScan, 1, .start id 0 0⟩,
    ⟨quietScan, 2, .accept id 0 0 0 ⟨zeros, observations⟩⟩]

def finishing (id : ScanSessionId) (observations : List ScanObservation) : Event :=
  ⟨quietScan, 3, .complete id 0 0 (some 0) observations.length⟩

/-- The second scan up to its completion, with the first one before it. -/
def rescanning (observations : List ScanObservation) : List Event :=
  scanning 0 observations ++ finishing 0 observations :: scanning 1 observations

/-- What the two scans of both files have in common. -/
def bothFiles : List ScanObservation := [film, subtitle]

theorem rescan_of_observed_subtitle :
    NoOp (after (rescanning bothFiles))
      (after (rescanning bothFiles ++ [finishing 1 bothFiles])) := by
  have hrun : Run step always (initial [0]) (scanning 0 bothFiles) (after (scanning 0 bothFiles)) :=
    .cons trivial rfl (.cons trivial rfl (.cons trivial rfl (.nil _)))
  have hfirst : (after (scanning 0 bothFiles)).completeScanSession quietScan 0 0 0 (some 0) 2 3 =
      (.ok (), after (scanning 0 bothFiles ++ [finishing 0 bothFiles])) := rfl
  have hsame : (after (scanning 0 bothFiles ++ [finishing 0 bothFiles, requested])).catalog =
      (after (scanning 0 bothFiles ++ [finishing 0 bothFiles])).catalog := rfl
  have hstart :
      (after (scanning 0 bothFiles ++ [finishing 0 bothFiles, requested])).startScanSession
      quietScan 1 0 0 1 = (.ok (), after (scanning 0 bothFiles ++
        finishing 0 bothFiles :: (scanning 1 bothFiles).take 2)) := rfl
  have hduring : Run step always (after (scanning 0 bothFiles ++
      finishing 0 bothFiles :: (scanning 1 bothFiles).take 2)) ((scanning 1 bothFiles).drop 2)
      (after (rescanning bothFiles)) := .cons trivial rfl (.nil _)
  have hsecond : (after (rescanning bothFiles)).completeScanSession quietScan 1 0 0 (some 0) 2 3 =
      (.ok (), after (rescanning bothFiles ++ [finishing 1 bothFiles])) := rfl
  have hfound : (after (scanning 0 bothFiles)).sessions[0]? = some _ := rfl
  have hfound' : (after (rescanning bothFiles)).sessions[1]? = some _ := rfl
  refine ((rescan_noop_iff (run_uniqueLive hrun) hfound hfirst hsame hstart hduring rfl hfound' rfl
    rfl hsecond).mpr ⟨?_, ?_⟩).1
  · unfold ScanSession.SidecarsSeen
    decide +kernel
  · intro _ _ _ hrow
    cases hrow

theorem subtitle_retired_by_second_scan :
    ((after (scanning 0 [film])).reply (finishing 0 [film])).1.isOk = true ∧
    (after (rescanning [film])).catalog.identity =
      (after (scanning 0 [film] ++ [finishing 0 [film]])).catalog.identity ∧
    ((after (rescanning [film])).reply (finishing 1 [film])).1.isOk = true ∧
    Retires (after (rescanning [film])) (after (rescanning [film] ++ [finishing 1 [film]])) 1 := by
  decide +kernel

end ScanWorld
end Voom
