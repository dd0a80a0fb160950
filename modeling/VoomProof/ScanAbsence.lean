import VoomProof.ScanPump

/-!
# What a scan takes for absent

A scan retires the locations it has not observed, and it observes the candidates of its walk.
The walk, however, passes over more than what is not there: a directory it cannot read, a name
it cannot write down, everything below sixty-four directories, a sidecar, a file whose extension
is not on the list. By `retired_absent_iff` a session that succeeds has retired only what is
absent exactly when the walk takes every catalogued file in the tree for a primary file.
-/

namespace Voom
open Fallible Runs ScanWorld List

/-- The workers find a file absent only if it is. -/
def ScanWorkers.Truthful (workers : ScanWorkers) (tree : FsNode) : Prop :=
  ∀ locator, workers.Absent locator → ¬ ∃ stat, tree.HasFile "" locator stat

/-- None of the retired locations of the root has a file in the tree. -/
def RetiredAbsent (root : StorageRootId) (tree : FsNode) (w w' : ScanWorld) : Prop :=
  ∀ (id : FileLocationId) (row : FileLocation) (locator : String), Retires w w' id →
    w.location id = some row → row.address = .rooted root locator →
    ¬ ∃ stat, tree.HasFile "" locator stat

/-- Every file of the tree that has a live location is a primary file that the walk comes by. -/
def CataloguedListed (root : StorageRootId) (request : WalkRequest) (entries : List FsEntry)
    (w : ScanWorld) : Prop :=
  ∀ (id : FileLocationId) (row : FileLocation) (locator : String),
    w.location id = some row → row.retired = false → row.address = .rooted root locator →
    (∃ stat, FsNode.HasFile "" (.directory entries) locator stat) →
    ∃ stat, Listed request.faults maxWalkDepth "" entries locator stat ∧
      IsPrimary request.allowlist locator stat

section Theorem
variable {context : ScanPumpContext} {workers : ScanWorkers} {request : WalkRequest}
  {entries : List FsEntry} {walked : Walker} {ready : List WalkCandidate} {w w' : ScanWorld}

/-- What the session has observed are the primary files that the walk has come by. -/
theorem PumpRun.observed_listed_iff (run : PumpRun context workers ready w w')
    (hwalk : scanRoot request (.directory entries) = some walked)
    (hready : ready.Perm walked.candidates)
    (htruthful : workers.Truthful (.directory entries)) {locator : String} :
    run.session.observed locator = true ↔
      ∃ stat, Listed request.faults maxWalkDepth "" entries locator stat ∧
        IsPrimary request.allowlist locator stat := by
  rw [← scanRoot_primary_iff hwalk, run.observed_iff]
  · simp only [hready.mem_iff]
  · intro candidate hcand habsent
    -- the walk has seen the file, and it is still there
    obtain ⟨stat, hlist, -⟩ := (scanRoot_primary_iff hwalk).mp
      ⟨candidate, hready.mem_iff.mp hcand, rfl⟩
    exact htruthful _ habsent ⟨stat, hlist.hasFile⟩

/-- **A session that succeeds has retired only absent files exactly if every catalogued file
that is in the tree is a primary file that the walk comes by.** -/
theorem retired_absent_iff {requested : ScanSession}
    (hfound : w.sessions[context.session]? = some requested)
    (hfresh : requested.status = .requested → requested.Fresh)
    (hwalk : scanRoot request (.directory entries) = some walked)
    (hready : ready.Perm walked.candidates)
    (htruthful : workers.Truthful (.directory entries))
    (hpump : runPump context workers ready w = .ok w') :
    RetiredAbsent requested.storageRootId (.directory entries) w w' ↔
      CataloguedListed requested.storageRootId request entries w := by
  obtain ⟨run⟩ := runPump_ok hpump (fun _ hsession => by
    obtain rfl := some_unique hfound hsession
    exact hfresh)
  obtain rfl := some_unique hfound run.found
  have hlocation : ∀ id, run.before.location id = w.location id := by
    intro _
    rw [location, run.catalog]
    rfl
  constructor
  · intro habsent id row locator hrow hlive haddress hfile
    rw [← run.observed_listed_iff hwalk hready htruthful]
    by_contra hunseen
    refine habsent id row locator ?_ hrow haddress hfile
    have hretires : Retires run.before
        (run.before.completedWorld context.session run.session run.published) id :=
      retires_of_unseen run.publish run.mark ((hlocation id).trans hrow) hlive
        (run.root.symm ▸ haddress) (Bool.eq_false_of_not_eq_true hunseen)
    rw [← run.completed, Retires, hlocation] at hretires
    exact hretires
  · intro hlisted id row locator hretires hrow haddress hfile
    have hretires' : Retires run.before
        (run.before.completedWorld context.session run.session run.published) id := by
      rw [← run.completed, Retires, hlocation]
      exact hretires
    obtain ⟨_, hrow', hcandidate⟩ := candidate_of_retires run.publish hretires'
    have hgrows := (ScanCatalog.publishSessionEvidence_ok run.publish).1.grows
    obtain rfl := Option.some.inj ((hgrows.location ((hlocation id).trans hrow)).symm.trans hrow')
    obtain ⟨_, -, haddress', -, hlive, -, hunseen⟩ :=
      ScanSession.isCandidate_iff.mp hcandidate
    obtain ⟨-, rfl⟩ := FileLocationAddress.rooted.inj (haddress.symm.trans haddress')
    have hseen := (run.observed_listed_iff hwalk hready htruthful).mpr
      (hlisted id row locator hrow hlive haddress hfile)
    cases hseen.symm.trans hunseen

end Theorem

/-! ### A directory that cannot be read -/

/-- The directory of the films cannot be read. -/
def filmsUnreadable : WalkFaults := { noFaults with readDir := fun dir => dir = "films" }

def filmTree : List FsEntry :=
  [(some "films", .directory [(some "a.mkv", .file filmStat)])]

/-- Every file can be hashed, and none is media. -/
def plainWorkers : ScanWorkers where
  hash _ := .result ⟨"blake3:h", 1, 0, none, none, 0, 0⟩
  probe _ _ _ := .error .malformedMedia .other

def plainContext : ScanPumpContext where
  nodeId := 0
  incarnationId := 0
  session := 0
  probeHashReuse := false
  moment k := (quietScan, k + 1)
  requestHash _ := "0000000000000000000000000000000000000000000000000000000000000000"
  encodedLength _ := 0
  wireLength _ := 0

def filmIngested : Event :=
  ⟨quietScan, 0, .identity (.recordDiscoveredFile ⟨0, "films/a.mkv", "blake3:h", 1, none⟩ none)⟩

/-- The film is catalogued, and a scan of the root is requested. -/
def filmCatalogued : ScanWorld := after [filmIngested, requested]

/-- The session of the pump over the tree. -/
def scanned (faults : WalkFaults) : Except PumpFailure ScanWorld :=
  match scanRoot ⟨faults, []⟩ (.directory filmTree) with
  | none => .error ⟨.artifactUnavailable⟩
  | some walked => runPump plainContext plainWorkers walked.candidates filmCatalogued

theorem film_kept_when_read : ∃ w', scanned noFaults = .ok w' ∧
    RetiredAbsent 0 (.directory filmTree) filmCatalogued w' := by
  obtain ⟨w', hscanned, -⟩ : ∃ w', scanned noFaults = .ok w' ∧ ¬ Retires filmCatalogued w' 0 :=
    exists_ok (by decide +kernel)
  refine ⟨w', hscanned, ?_⟩
  unfold scanned at hscanned
  split at hscanned
  · cases hscanned
  next hwalk =>
  have hrun : Run step always (initial [0]) [filmIngested, requested] filmCatalogued :=
    .cons trivial rfl (.cons trivial rfl (.nil _))
  have hfound : filmCatalogued.sessions[plainContext.session]? = some _ := rfl
  have htruthful : plainWorkers.Truthful (.directory filmTree) := by
    rintro _ (habsent | ⟨_, _, habsent⟩) <;> cases habsent
  refine (retired_absent_iff hfound (run_fresh hrun hfound) hwalk (.refl _) htruthful
    hscanned).mpr ?_
  intro id _ locator hrow _ haddress _
  have hat : filmCatalogued.addressOf id = some (.rooted 0 locator) := by
    rw [addressOf, hrow, Option.map_some, haddress]
  obtain _ | id := id
  · cases hat
    exact ⟨filmStat, .inside rfl mem_cons_self rfl rfl
      (.entry rfl mem_cons_self rfl rfl rfl rfl), by decide +kernel, by decide +kernel,
      by decide +kernel⟩
  · cases hrow

/-- The film is in the tree, and its location is retired. -/
theorem film_retired_unread : (∃ w', scanned filmsUnreadable = .ok w' ∧
      filmCatalogued.addressOf 0 = some (.rooted 0 "films/a.mkv") ∧
      Retires filmCatalogued w' 0) ∧
    FsNode.HasFile "" (.directory filmTree) "films/a.mkv" filmStat :=
  ⟨exists_ok (by decide +kernel), .inside mem_cons_self (.entry mem_cons_self)⟩

end Voom
