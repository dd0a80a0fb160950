import VoomProof.ListUpdate
import VoomProof.PlannedNames
import VoomProof.Runs

/-!
# What the node agent deletes before it works

A crashed attempt may have left a file where a media ticket plans an output. So the agent
deletes whatever is at the planned outputs before it looks at the source (`resolve_plan` in
`voom-node-agent/src/media.rs`). It relies on the addresses being that ticket's own.

A `MediaWorld` is any set of unfinished tickets, each rendered as `PlannedOutputs` renders it,
with the live locations and the staged outputs that wait for a commit. The agents' attempts
change the files. Whether an attempt can take away what something else needs is decided by the
planned paths alone (`safe_iff_pathsApart`), and, where no storage root lies in another one, by
the addresses (`pathsApart_iff`). These are apart exactly if what the tickets are rendered from
keeps them apart (`distinct_iff_namedApart`); nothing else does.

A file is known by its path, and a storage root is bound to a canonical directory, written
without a slash at its end. Symbolic links below a root are left out: `rooted_path` refuses
them.
-/

namespace Voom
open Fallible Runs ListUpdate List Option

abbrev Bytes := List UInt8
abbrev Files := String → Option Bytes
abbrev StorageRoots := Nat → Option String

/-! ## The agent -/

def canonicalRoot (roots : StorageRoots) (storageRootId : Nat) : Except VoomError String :=
  find (roots storageRootId)
    (.config s!"no provider locator configured for storage root {storageRootId}")

def rootedPath (roots : StorageRoots) (address : Address) : Except VoomError String := do
  let text := address.locator.toList
  require (text ≠ [] ∧ text.head? ≠ some '/' ∧ '\\' ∉ text ∧
      RustPath.Component.parentDir ∉ RustPath.pathComponents text)
    (.config (s!"storage root {address.storageRootId} locator {address.locator.quote} must be a " ++
      "relative path with no '..', backslash, or empty components"))
  let root ← canonicalRoot roots address.storageRootId
  return root ++ "/" ++ address.locator

structure ResolvedPlan where
  source : String
  outputs : List String
  deriving DecidableEq

/-- The paths of an envelope; nothing is deleted unless all of them resolve. -/
def resolvePaths (roots : StorageRoots) (dispatch : MediaDispatch) :
    Except VoomError ResolvedPlan := do
  let source ← rootedPath roots dispatch.source
  let outputs ← dispatch.outputs.mapM (rootedPath roots)
  return ⟨source, outputs⟩

def removeFileIfExists (files : Files) (path : String) : Files :=
  fun p => if p = path then none else files p

/-- Whatever is at the planned outputs is deleted, in order. -/
def clearResidue (files : Files) (outputs : List String) : Files :=
  outputs.foldl removeFileIfExists files

inductive MediaOutcome
  | malformed (reason : String)
  | sourceMissing (reason : String)
  | sourceMismatch (expected observed : SourceFacts)
  | dispatched
  deriving DecidableEq

/-- The worker writes below the planned outputs: something, or nothing, at each. -/
def writeOutputs (files : Files) (outputs : List String) (written : List (Option Bytes)) : Files :=
  (outputs.zip written).foldl
    (fun files output => fun p => if p = output.1 then output.2 else files p) files

/-- The source is looked at only after the residue is cleared. -/
def mediaOutcome (facts : Bytes → SourceFacts) (roots : StorageRoots) (dispatch : MediaDispatch)
    (written : List (Option Bytes)) (files : Files) : MediaOutcome × Files :=
  match resolvePaths roots dispatch with
  | .error e => (.malformed s!"media dispatch resolution failed: {e.display}", files)
  | .ok plan =>
    let cleared := clearResidue files plan.outputs
    match cleared plan.source with
    | none => (.sourceMissing s!"media file is missing: {plan.source}", cleared)
    | some bytes =>
      match dispatch.expectedSourceFacts with
      | some expected =>
        if facts bytes = expected then
          (.dispatched, writeOutputs cleared plan.outputs written)
        else
          (.sourceMismatch expected (facts bytes), cleared)
      | none => (.dispatched, writeOutputs cleared plan.outputs written)

/-! ## Tickets -/

/-- Where a ticket comes from.  The backup child is made of an expansion child that was rendered
earlier, from the rows of that time. -/
inductive TicketOrigin
  | policy (operation : PolicyOperation) (source : PolicyFileSource)
  | expansion (paths : List String) (place : Nat) (operation : ExpansionOperation)
      (sourceFile : Option (Except VoomError SourceFacts)) (storageSource : Option (Nat × Nat))
  | backup (before : MediaCatalog) (paths : List String) (place : Nat)
      (operation : ExpansionOperation) (sourceFile : Option (Except VoomError SourceFacts))
      (storageSource : Option (Nat × Nat))

def branchOf (paths : List String) (place : Nat) : Except VoomError String := do
  let branchIds ← branchIdsFromPaths paths
  find branchIds[place]? (.internal "the scan has no such path")

def renderExpansion (catalog : MediaCatalog) (paths : List String) (place : Nat)
    (operation : ExpansionOperation) (sourceFile : Option (Except VoomError SourceFacts))
    (storageSource : Option (Nat × Nat)) : Except VoomError (Option MediaDispatch) := do
  let branchId ← branchOf paths place
  expansionEnvelope catalog operation ⟨branchId, sourceFile, storageSource⟩

def TicketOrigin.render (catalog : MediaCatalog) :
    TicketOrigin → Except VoomError (Option MediaDispatch)
  | .policy operation source => policyEnvelope catalog policyBranchId operation source
  | .expansion paths place operation sourceFile storageSource =>
    renderExpansion catalog paths place operation sourceFile storageSource
  | .backup before paths place operation sourceFile storageSource => do
    let branchId ← branchOf paths place
    let parent ← renderExpansion before paths place operation sourceFile storageSource
    let parent ← find parent (.internal "the parent has no envelope")
    backupChildEnvelope catalog branchId parent

/-- A ticket with the envelope that was rendered for it. -/
structure MediaTicket where
  jobId : JobId
  catalog : MediaCatalog
  origin : TicketOrigin
  dispatch : MediaDispatch
  rendered : origin.render catalog = .ok (some dispatch)

/-! ### What a ticket plans, from where it comes -/

def expansionNames (catalog : MediaCatalog) (paths : List String) (place : Nat)
    (operation : ExpansionOperation) (storageSource : Option (Nat × Nat)) : Option TicketNames := do
  let branchId ← (branchOf paths place).toOption
  let file ← storageSource.bind (locationAddress catalog ·.2)
  return stagedNames catalog branchId operation.products file

/-- A backup child reads the output of its parent. -/
def TicketOrigin.names (catalog : MediaCatalog) : TicketOrigin → Option TicketNames
  | .policy operation source =>
    (locationAddress catalog source.locationId).map
      (policyNames catalog source.fileVersionId operation)
  | .expansion paths place operation _ storageSource =>
    expansionNames catalog paths place operation storageSource
  | .backup before paths place operation _ storageSource => do
    let parent ← expansionNames before paths place operation storageSource
    let output ← parent.outputs.head?
    return ⟨output.address, [copyName catalog output]⟩

def MediaTicket.names (t : MediaTicket) : TicketNames :=
  (t.origin.names t.catalog).getD ⟨⟨0, ""⟩, []⟩

theorem renderExpansion_rendered {catalog : MediaCatalog} {paths : List String} {place : Nat}
    {operation : ExpansionOperation} {sourceFile : Option (Except VoomError SourceFacts)}
    {storageSource : Option (Nat × Nat)} {dispatch : MediaDispatch}
    (h : renderExpansion catalog paths place operation sourceFile storageSource =
      .ok (some dispatch)) :
    ∃ branchId file, branchOf paths place = .ok branchId ∧
      expansionNames catalog paths place operation storageSource =
        some (stagedNames catalog branchId operation.products file) ∧
      Rendered dispatch (stagedNames catalog branchId operation.products file) := by
  simp only [renderExpansion, bind_ok] at h
  obtain ⟨branchId, hbranch, h⟩ := h
  obtain ⟨file, hfile, hrendered⟩ := expansionEnvelope_rendered h
  refine ⟨branchId, file, hbranch, ?_, hrendered⟩
  rw [expansionNames, hbranch, hfile]
  rfl

/-- **A ticket has the addresses of its names.** -/
theorem MediaTicket.rendered_names (t : MediaTicket) : Rendered t.dispatch t.names := by
  obtain ⟨_, catalog, origin, dispatch, h⟩ := t
  suffices ∃ names, origin.names catalog = some names ∧ Rendered dispatch names by
    obtain ⟨names, hnames, hrendered⟩ := this
    rwa [MediaTicket.names, hnames]
  cases origin with
  | policy operation source =>
    obtain ⟨file, hfile, hrendered⟩ := policyEnvelope_rendered h
    exact ⟨_, by rw [TicketOrigin.names, hfile]; rfl, hrendered⟩
  | expansion =>
    obtain ⟨_, _, -, hnames, hrendered⟩ := renderExpansion_rendered h
    exact ⟨_, hnames, hrendered⟩
  | backup =>
    simp only [TicketOrigin.render, bind_ok, find_ok] at h
    obtain ⟨branchId, hbranch, _, hparent, parent, rfl, h⟩ := h
    obtain ⟨branchId', file, hbranch', hnames, hrendered⟩ := renderExpansion_rendered hparent
    obtain rfl := ok_unique hbranch hbranch'
    -- the parent has staged one output, which is in its branch
    obtain ⟨_, hstaged⟩ : ∃ output, parent.parentEnvelopeOutput = some output := by
      simp only [backupChildEnvelope, bind_ok, find_ok] at h
      exact ⟨h.choose, h.choose_spec.1⟩
    obtain ⟨output, houtputs, rfl⟩ := List.map_eq_singleton_iff.mp
      (hrendered.outputs.symm.trans (parentEnvelopeOutput_outputs hstaged))
    obtain ⟨product, -, rfl⟩ := List.map_eq_singleton_iff.mp houtputs
    refine ⟨_, ?_, backupChildEnvelope_rendered hstaged h⟩
    simp only [TicketOrigin.names, hnames, houtputs, Option.bind_eq_bind, Option.bind_some,
      List.head?_cons]
    rfl

/-- Unfinished tickets of any jobs, live locations and staged outputs that await a commit. -/
structure MediaWorld where
  tickets : List MediaTicket
  live : List Address
  awaiting : List Address

namespace MediaWorld
variable {w : MediaWorld} {roots : StorageRoots} {facts : Bytes → SourceFacts} {path : String}
  {dispatch : MediaDispatch} {a b : Address}

/-- What something other than the residue of the ticket needs. -/
def Needed (w : MediaWorld) (place : Nat) (a : Address) : Prop :=
  (∃ t, w.tickets[place]? = some t ∧ a = t.dispatch.source) ∨
  (∃ (other : Nat) (t : MediaTicket), other ≠ place ∧ w.tickets[other]? = some t ∧
    a ∈ t.dispatch.outputs) ∨
  a ∈ w.live ∨ a ∈ w.awaiting

/-- No ticket plans an output where something else is needed. -/
def Apart (w : MediaWorld) : Prop :=
  ∀ (place : Nat) (t : MediaTicket), w.tickets[place]? = some t →
    ∀ a ∈ t.dispatch.outputs, ¬ w.Needed place a

/-- The planned outputs of a ticket are pairwise distinct, and no one else's. -/
def Distinct (w : MediaWorld) : Prop :=
  (∀ t ∈ w.tickets, t.dispatch.outputs.Nodup) ∧ w.Apart

/-- **What tickets are rendered from keeps their outputs apart**: the outputs of a ticket, and
those of two tickets, differ in their root, their directory or their name, and none is where the
ticket reads or where a file is. -/
structure NamedApart (w : MediaWorld) : Prop where
  nodup : ∀ t ∈ w.tickets, t.names.outputs.Nodup
  source : ∀ t ∈ w.tickets, ∀ output ∈ t.names.outputs, output.address ≠ t.names.source
  tickets : w.tickets.Pairwise fun t t' => ∀ output ∈ t.names.outputs, output ∉ t'.names.outputs
  files : ∀ t ∈ w.tickets, ∀ output ∈ t.names.outputs,
    output.address ∉ w.live ∧ output.address ∉ w.awaiting

/-- No name has a slash. -/
def Plain (w : MediaWorld) : Prop :=
  ∀ t ∈ w.tickets, ∀ output ∈ t.names.outputs, '/' ∉ output.name.toList

/-- The same for the paths that the agent resolves. -/
def PathsApart (w : MediaWorld) (roots : StorageRoots) : Prop :=
  ∀ (place : Nat) (t : MediaTicket) plan, w.tickets[place]? = some t →
    resolvePaths roots t.dispatch = .ok plan →
    ∀ path ∈ plan.outputs, ∀ a, w.Needed place a → rootedPath roots a ≠ .ok path

/-! ## Attempts -/

/-- An agent works on a ticket, to its end or until it stops in the middle of clearing. -/
inductive Attempt
  | whole (place : Nat) (written : List (Option Bytes))
  | stopped (place cleared : Nat)

def Attempt.place : Attempt → Nat
  | .whole place _ => place
  | .stopped place _ => place

def step (facts : Bytes → SourceFacts) (roots : StorageRoots) (w : MediaWorld) (files : Files)
    (e : Attempt) : Option Files :=
  w.tickets[e.place]?.map fun t =>
    match e with
    | .whole _ written => (mediaOutcome facts roots t.dispatch written files).2
    | .stopped _ cleared =>
      match resolvePaths roots t.dispatch with
      | .ok plan => clearResidue files (plan.outputs.take cleared)
      | .error _ => files

/-- Whatever the files are, an attempt leaves alone what something else needs. -/
def Safe (facts : Bytes → SourceFacts) (roots : StorageRoots) (w : MediaWorld) : Prop :=
  ∀ files e files', step facts roots w files e = some files' →
    ∀ a path, w.Needed e.place a → rootedPath roots a = .ok path → files' path = files path

/-! ### What one attempt does -/

theorem clearResidue_apply (files : Files) (outputs : List String) (path : String) :
    clearResidue files outputs path = if path ∈ outputs then none else files path := by
  induction outputs generalizing files with
  | nil => rfl
  | cons output outputs ih =>
    rw [clearResidue, foldl_cons, ← clearResidue, ih]
    by_cases hmem : path ∈ outputs
    · simp [hmem]
    · by_cases hpath : path = output
      · simp [removeFileIfExists, hpath]
      · simp [removeFileIfExists, hpath]

theorem writeOutputs_apply {outputs : List String} (h : path ∉ outputs) (files : Files)
    (written : List (Option Bytes)) : writeOutputs files outputs written path = files path := by
  induction outputs generalizing files written with
  | nil => rfl
  | cons _ _ ih =>
    rw [mem_cons, not_or] at h
    cases written with
    | nil => rfl
    | cons =>
      rw [writeOutputs, zip_cons_cons, foldl_cons, ← writeOutputs, ih h.2]
      exact if_neg h.1

/-- An attempt touches the planned outputs of its ticket and nothing else. -/
theorem mediaOutcome_frame {plan : ResolvedPlan} (hplan : resolvePaths roots dispatch = .ok plan)
    (hpath : path ∉ plan.outputs) (written : List (Option Bytes)) (files : Files) :
    (mediaOutcome facts roots dispatch written files).2 path = files path := by
  have hclr : clearResidue files plan.outputs path = files path := by
    rw [clearResidue_apply, if_neg hpath]
  have hwrit := writeOutputs_apply hpath (clearResidue files plan.outputs) written
  rw [mediaOutcome, hplan]
  dsimp only
  split
  · exact hclr
  split
  · split
    · exact hwrit.trans hclr
    · exact hclr
  · exact hwrit.trans hclr

theorem step_frame {files files' : Files} {e : Attempt}
    (h : step facts roots w files e = some files') :
    ∃ t, w.tickets[e.place]? = some t ∧ ∀ path,
      (∀ plan, resolvePaths roots t.dispatch = .ok plan → path ∉ plan.outputs) →
        files' path = files path := by
  obtain ⟨t, ht, rfl⟩ := map_eq_some_iff.mp h
  refine ⟨t, ht, ?_⟩
  intro _ hpath
  cases hplan : resolvePaths roots t.dispatch with
  | error =>
    cases e with
    | whole => simp only [mediaOutcome, hplan]
    | stopped => rfl
  | ok plan =>
    cases e with
    | whole _ written => exact mediaOutcome_frame hplan (hpath plan hplan) written files
    | stopped =>
      dsimp only
      rw [clearResidue_apply, if_neg fun hmem => hpath plan hplan (mem_of_mem_take hmem)]

/-- **An attempt can take away what something else needs exactly if a planned path is such a
path.** -/
theorem safe_iff_pathsApart : Safe facts roots w ↔ w.PathsApart roots := by
  constructor
  · intro hsafe place t plan ht hplan path hpath a hneeded ha
    -- the agent stops after it has cleared all outputs, with some file at each
    have hstep : step facts roots w (fun _ => some []) (.stopped place plan.outputs.length) =
        some (clearResidue (fun _ => some []) plan.outputs) := by
      simp only [step, Attempt.place, ht, map_some, hplan, take_length]
    have hkept := hsafe _ _ _ hstep a path hneeded ha
    rw [clearResidue_apply, if_pos hpath] at hkept
    cases hkept
  · intro hapart _ e _ hstep a path hneeded ha
    obtain ⟨t, ht, hframe⟩ := step_frame hstep
    exact hframe path fun plan hplan hpath => hapart _ t plan ht hplan path hpath a hneeded ha

/-! ### Paths and addresses -/

/-- No storage root is bound to a directory inside another one's, or to the same. -/
def Separate (roots : StorageRoots) : Prop :=
  ∀ root root' dir dir', roots root = some dir → roots root' = some dir' →
    dir.toList ++ ['/'] <+: dir'.toList ++ ['/'] → root = root'

theorem rootedPath_ok (h : rootedPath roots a = .ok path) :
    ∃ dir, roots a.storageRootId = some dir ∧
      path.toList = (dir.toList ++ ['/']) ++ a.locator.toList := by
  simp only [rootedPath, canonicalRoot, bind_ok, find_ok, return_ok] at h
  obtain ⟨-, -, dir, hdir, rfl⟩ := h
  exact ⟨dir, hdir, by simp⟩

theorem rootedPath_inj (hroots : Separate roots) (ha : rootedPath roots a = .ok path)
    (hb : rootedPath roots b = .ok path) : a = b := by
  obtain ⟨dir, hdir, hpath⟩ := rootedPath_ok ha
  obtain ⟨dir', hdir', hpath'⟩ := rootedPath_ok hb
  have hroot : a.storageRootId = b.storageRootId := by
    -- both directories lead to the path, so one is inside the other
    have hleft : dir.toList ++ ['/'] <+: path.toList := ⟨_, hpath.symm⟩
    have hright : dir'.toList ++ ['/'] <+: path.toList := ⟨_, hpath'.symm⟩
    rcases prefix_or_prefix_of_prefix hleft hright with hin | hin
    · exact hroots _ _ _ _ hdir hdir' hin
    · exact (hroots _ _ _ _ hdir' hdir hin).symm
  rw [hroot, hdir'] at hdir
  obtain rfl := some.inj hdir
  have hloc := append_cancel_left (hpath.symm.trans hpath')
  cases a
  cases b
  simp only [Address.mk.injEq]
  exact ⟨hroot, String.toList_inj.mp hloc⟩

theorem resolvePaths_ok {plan : ResolvedPlan} (h : resolvePaths roots dispatch = .ok plan) :
    dispatch.outputs.mapM (rootedPath roots) = .ok plan.outputs := by
  simp only [resolvePaths, bind_ok, return_ok] at h
  obtain ⟨-, -, _, houtputs, rfl⟩ := h
  exact houtputs

/-- Every ticket's paths resolve on its agent. -/
def Resolves (w : MediaWorld) (roots : StorageRoots) : Prop :=
  ∀ t ∈ w.tickets, ∃ plan, resolvePaths roots t.dispatch = .ok plan

/-- **Where no root lies in another one, paths are apart exactly if addresses are.** -/
theorem pathsApart_iff (hroots : Separate roots) (hres : w.Resolves roots) :
    w.PathsApart roots ↔ w.Apart := by
  constructor
  · intro hapart place t ht a ha hneeded
    obtain ⟨plan, hplan⟩ := hres t (mem_of_getElem? ht)
    obtain ⟨path, hpath, hrooted⟩ := (mapM_ok_mem (resolvePaths_ok hplan)).1 a ha
    exact hapart place t plan ht hplan path hpath a hneeded hrooted
  · intro hapart place t _ ht hplan path hpath a hneeded hrooted
    obtain ⟨output, houtput, hrooted'⟩ := (mapM_ok_mem (resolvePaths_ok hplan)).2 path hpath
    rw [rootedPath_inj hroots hrooted hrooted'] at hneeded
    exact hapart place t ht output houtput hneeded

/-! ### Addresses and names -/

/-- What `Apart` asks of each ticket, and of two. -/
theorem apart_iff : w.Apart ↔
    (∀ t ∈ w.tickets, t.dispatch.source ∉ t.dispatch.outputs) ∧
    (w.tickets.Pairwise fun t t' => ∀ a ∈ t.dispatch.outputs, a ∉ t'.dispatch.outputs) ∧
    ∀ t ∈ w.tickets, ∀ a ∈ t.dispatch.outputs, a ∉ w.live ∧ a ∉ w.awaiting := by
  rw [pairwise_iff_getElem?_ne fun t t' h a ha ha' => h a ha' ha]
  constructor
  · intro h
    refine ⟨fun t ht hsource => ?_, fun place other t t' hne hplace hother a ha ha' => ?_,
      fun t ht a ha => ⟨fun hlive => ?_, fun hawait => ?_⟩⟩
    · obtain ⟨place, hplace⟩ := mem_iff_getElem?.mp ht
      exact h place t hplace _ hsource (.inl ⟨t, hplace, rfl⟩)
    · exact h place t hplace a ha (.inr (.inl ⟨other, t', hne, hother, ha'⟩))
    · obtain ⟨place, hplace⟩ := mem_iff_getElem?.mp ht
      exact h place t hplace a ha (.inr (.inr (.inl hlive)))
    · obtain ⟨place, hplace⟩ := mem_iff_getElem?.mp ht
      exact h place t hplace a ha (.inr (.inr (.inr hawait)))
  · rintro ⟨hsource, hothers, hfiles⟩ place t hplace a ha hneeded
    have ht := mem_of_getElem? hplace
    rcases hneeded with ⟨_, hsame, rfl⟩ | ⟨other, t', hne, hother, ha'⟩ | hlive | hawait
    · obtain rfl := Option.some.inj (hplace.symm.trans hsame)
      exact hsource t ht ha
    · exact hothers place other t t' hne hplace hother a ha ha'
    · exact (hfiles t ht a ha).1 hlive
    · exact (hfiles t ht a ha).2 hawait

/-- **Outputs with plain names are distinct exactly if what they are rendered from keeps them
apart.** -/
theorem distinct_iff_namedApart (hplain : w.Plain) : w.Distinct ↔ w.NamedApart := by
  have hinj : ∀ t ∈ w.tickets, ∀ output ∈ t.names.outputs, ∀ t' ∈ w.tickets,
      ∀ output' ∈ t'.names.outputs, output.address = output'.address → output = output' :=
    fun t ht output houtput t' ht' output' houtput' =>
      (PlannedName.address_inj (hplain t ht output houtput) (hplain t' ht' output' houtput')).mp
  have hnodup : (∀ t ∈ w.tickets, t.dispatch.outputs.Nodup) ↔
      ∀ t ∈ w.tickets, t.names.outputs.Nodup := by
    refine forall₂_congr fun t ht => ?_
    rw [t.rendered_names.outputs]
    exact ⟨Nodup.of_map _, Nodup.map_on fun a ha b hb => hinj t ht a ha t ht b hb⟩
  have hsource : (∀ t ∈ w.tickets, t.dispatch.source ∉ t.dispatch.outputs) ↔
      ∀ t ∈ w.tickets, ∀ output ∈ t.names.outputs, output.address ≠ t.names.source := by
    refine forall₂_congr fun t _ => ?_
    rw [t.rendered_names.outputs, t.rendered_names.source, List.mem_map]
    push Not
    rfl
  have htickets : (w.tickets.Pairwise fun t t' => ∀ a ∈ t.dispatch.outputs,
      a ∉ t'.dispatch.outputs) ↔
      w.tickets.Pairwise fun t t' => ∀ output ∈ t.names.outputs, output ∉ t'.names.outputs := by
    refine Pairwise.iff_of_mem fun {t t'} ht ht' => ?_
    rw [t.rendered_names.outputs, t'.rendered_names.outputs, List.forall_mem_map]
    refine forall₂_congr fun output houtput => not_congr ⟨fun hmem => ?_, mem_map_of_mem⟩
    obtain ⟨output', houtput', haddress⟩ := List.mem_map.mp hmem
    rwa [← hinj t' ht' output' houtput' t ht output houtput haddress]
  have hfiles : (∀ t ∈ w.tickets, ∀ a ∈ t.dispatch.outputs, a ∉ w.live ∧ a ∉ w.awaiting) ↔
      ∀ t ∈ w.tickets, ∀ output ∈ t.names.outputs,
        output.address ∉ w.live ∧ output.address ∉ w.awaiting := by
    refine forall₂_congr fun t _ => ?_
    rw [t.rendered_names.outputs, List.forall_mem_map]
  rw [Distinct, apart_iff, hnodup, hsource, htickets, hfiles]
  exact ⟨fun ⟨hn, hs, ht, hf⟩ => ⟨hn, hs, ht, hf⟩, fun h => ⟨h.nodup, h.source, h.tickets, h.files⟩⟩

/-! ### Over any attempts -/

/-- What is live or awaits its commit keeps its bytes. -/
theorem run_keeps {files files' : Files} {events : List Attempt} (hsafe : Safe facts roots w)
    (h : Run (step facts roots w) always files events files') (ha : a ∈ w.live ∨ a ∈ w.awaiting)
    (hrooted : rootedPath roots a = .ok path) : files' path = files path :=
  h.invariant (I := fun now => now path = files path)
    (fun hnow _ hstep => (hsafe _ _ _ hstep a path (.inr (.inr ha)) hrooted).trans hnow) rfl

/-- A library that stages on one root and backs up from there to another. -/
def chainedRoots : MediaCatalog :=
  { episodes with
    roots := [⟨1, none, some 2, none⟩, ⟨2, none, none, some 3⟩, ⟨3, none, none, none⟩] }

def remuxTicket (version : Nat) (locator stem : String)
    (h : TicketOrigin.render chainedRoots (.policy (.remux (.ok ())) ⟨version, 1, version⟩) =
      .ok (some (.remux ⟨1, locator⟩ ⟨1, "h"⟩ "mkv" ⟨2, "root/" ++ stem ++ ".remux.mkv"⟩))) :
    MediaTicket :=
  ⟨1, chainedRoots, _, _, h⟩

/-- The backup child of a remux that a scan was expanded into. -/
def chainedBackup : MediaTicket where
  jobId := 2
  catalog := chainedRoots
  origin := .backup chainedRoots ["/lib/Show.S01E01.mkv"] 0 (.remux (.ok ()))
    (some (.ok ⟨1, "h"⟩)) (some (1, 1))
  dispatch := .backUpFile ⟨2, "Show.S01E01/Show.S01E01.remux.mkv"⟩
    ⟨3, "Show.S01E01/Show.S01E01.remux.mkv"⟩
  rendered := by rfl

/-- The remuxes of two episodes and the backup of a staged one, which awaits its commit. -/
def apartWorld : MediaWorld where
  tickets := [remuxTicket 1 "Show.S01E01.mkv" "Show.S01E01" rfl,
    remuxTicket 2 "Show.S01E02.mkv" "Show.S01E02" rfl, chainedBackup]
  live := [⟨1, "Show.S01E01.mkv"⟩, ⟨1, "Show.S01E02.mkv"⟩]
  awaiting := [⟨2, "Show.S01E01/Show.S01E01.remux.mkv"⟩]

def separateRoots : StorageRoots := fun root => ["/srv", "/lib", "/staging", "/backup"][root]?

def episodeDispatch (locator : String) : MediaDispatch :=
  .transcodeVideo ⟨1, locator⟩ ⟨1, "h"⟩ "mkv" "hevc" ⟨2, "root/Show.default-hevc.hevc.mkv"⟩

def firstEpisode : MediaTicket where
  jobId := 1
  catalog := episodes
  origin := .policy (.transcodeVideo (.ok .defaultHevc)) ⟨1, 1, 1⟩
  dispatch := episodeDispatch "Show.S01E01.mkv"
  rendered := by rfl

def secondEpisode : MediaTicket where
  jobId := 1
  catalog := episodes
  origin := .policy (.transcodeVideo (.ok .defaultHevc)) ⟨2, 1, 2⟩
  dispatch := episodeDispatch "Show.S01E02.mkv"
  rendered := by rfl

/-- The backup child of a remux of the first episode. -/
def stagedBackup : MediaTicket where
  jobId := 2
  catalog := episodes
  origin := .backup episodes ["/lib/Show.S01E01.mkv"] 0 (.remux (.ok ())) (some (.ok ⟨1, "h"⟩))
    (some (1, 1))
  dispatch := .backUpFile ⟨2, "Show.S01E01/Show.S01E01.remux.mkv"⟩
    ⟨2, "Show.S01E01/Show.S01E01.remux.mkv"⟩
  rendered := by rfl

def boundRoots : StorageRoots := fun root =>
  if root = 1 then some "/lib" else if root = 2 then some "/staging" else none

end MediaWorld

end Voom
