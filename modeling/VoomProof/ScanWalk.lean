import Mathlib.Data.String.Basic
import VoomProof.ScanPublication
import VoomProof.StableOrder

/-!
# The walk over a storage root

The scan worker (`voom-scan-worker`) walks over the directories of a root and sorts what it
finds into primary files and sidecars (`walk.rs`, `discover.rs`). Whatever it cannot read,
cannot name or does not know is counted as skipped, and the walk goes on. At the end every
sidecar is attached to the primary file whose stem fits best, anywhere in the tree.

A walk is a fold: `visits` lists what the walk comes by, and `walkDirectory_eq` says that the
walker does nothing but record those one by one. `Listed` says what is in that list, without
order and state: a file reached through directories that can be read.
-/

namespace Voom
open RustText StableOrder List

/-! ## Kinds of files -/

def supportedExtensions : List String :=
  ["avi", "m2ts", "m4v", "mkv", "mov", "mp4", "mpeg", "mpg", "ts", "webm"]

def supportedImageExtensions : List String := ["jpg", "jpeg", "png", "webp", "tbn"]

inductive SidecarKind where
  | subtitle
  | nfo
  | poster
  | trailer
  deriving DecidableEq

def SidecarKind.role : SidecarKind → String
  | subtitle => "external_subtitle"
  | nfo => "nfo"
  | poster => "poster"
  | trailer => "trailer"

/-- The extension is one of these, in upper or lower case. -/
def hasExtension (path : String) (extensions : List String) : Bool :=
  (RustPath.extension path.toList).any fun ext =>
    extensions.any fun known => eqIgnoreAsciiCase (String.ofList ext) known

def isSupportedMediaPath (path : String) : Bool := hasExtension path supportedExtensions

/-- An empty allowlist stands for the default one. -/
def matchesMediaExtension (path : String) (allowlist : List String) : Bool :=
  if allowlist = [] then isSupportedMediaPath path else hasExtension path allowlist

def hasTrailerSuffix (path : String) : Bool :=
  (RustPath.fileStem path.toList).any fun stem =>
    let stem := stem.map Char.toLower
    "-trailer".toList.isSuffixOf stem || ".trailer".toList.isSuffixOf stem

def classifySidecar (path : String) : Option SidecarKind :=
  if hasExtension path ["srt", "ass"] then some .subtitle
  else if hasExtension path ["nfo"] then some .nfo
  else if hasExtension path supportedImageExtensions then some .poster
  else if isSupportedMediaPath path && hasTrailerSuffix path then some .trailer
  else none

/-- The length of the stem that the sidecar has in common with the primary file. -/
def sidecarMatchesMedia (media sidecar : String) : Option Nat := do
  let mediaStem ← RustPath.fileStem media.toList
  let sidecarStem ← RustPath.fileStem sidecar.toList
  let length := (String.ofList mediaStem).utf8ByteSize
  if sidecarStem = mediaStem then some length
  else
    match stripPrefix mediaStem sidecarStem with
    | some (c :: _) => if c = '.' ∨ c = '-' then some length else none
    | _ => none

/-- The greatest element, and among equal ones the last. -/
def maxBy {α : Type} (cmp : α → α → Ordering) : List α → Option α
  | [] => none
  | a :: l => some (l.foldl (fun x y => if cmp x y = .gt then x else y) a)

/-- The place of the primary file with the longest stem that fits; the smallest locator wins
a tie. -/
def bestSidecarCandidate (candidates : List String) (sidecar : String) : Option Nat :=
  let fitting := candidates.zipIdx.filterMap fun (candidate, index) =>
    (sidecarMatchesMedia candidate sidecar).map fun length => (index, length, candidate)
  (maxBy (fun left right => (compare left.2.1 right.2.1).then (compare right.2.2 left.2.2))
    fitting).map (·.1)

/-! ### Which primary file fits a sidecar -/

section Matching
open RustPath (fileStem)

/-- The greatest element is one of them, and none is greater. -/
theorem maxBy_spec {α : Type} {cmp : α → α → Ordering} [Std.TransCmp cmp] {l : List α}
    (h : l ≠ []) :
    ∃ best, maxBy cmp l = some best ∧ best ∈ l ∧ ∀ a ∈ l, (cmp a best).isLE := by
  cases l with
  | nil => exact absurd rfl h
  | cons first l =>
    refine ⟨_, rfl, ?_⟩
    clear h
    induction l generalizing first with
    | nil => simp [Std.ReflCmp.isLE_rfl]
    | cons next l ih =>
      rw [foldl_cons]
      split
      next hgt =>
        obtain ⟨hmem, hle⟩ := ih first
        simp only [mem_cons, forall_eq_or_imp] at hmem hle ⊢
        have hnext : (cmp next first).isLE := Std.OrientedCmp.isGE_iff_isLE.mp (by simp [hgt])
        exact ⟨hmem.imp_right .inr, hle.1, Std.TransCmp.isLE_trans hnext hle.1, hle.2⟩
      next hle' =>
      obtain ⟨hmem, hle⟩ := ih next
      simp only [mem_cons, forall_eq_or_imp] at hmem hle ⊢
      exact ⟨.inr hmem, Std.TransCmp.isLE_trans (Ordering.isLE_iff_ne_gt.mpr hle') hle.1, hle⟩

theorem candidate_order : Std.TransCmp fun left right : Nat × Nat × String =>
    (compare left.2.1 right.2.1).then (compare right.2.2 left.2.2) :=
  inferInstanceAs (Std.TransCmp (compareLex (compareOn fun c : Nat × Nat × String => c.2.1)
    fun a b => compareOn (fun c : Nat × Nat × String => c.2.2) b a))

variable {candidates : List String} {sidecar media : String} {stem : Text}

/-- A stem that fits is that of the sidecar, or shorter. -/
theorem sidecarMatchesMedia_some {length : Nat}
    (h : sidecarMatchesMedia media sidecar = some length)
    (hstem : fileStem sidecar.toList = some stem) :
    length < (String.ofList stem).utf8ByteSize ∨
      length = (String.ofList stem).utf8ByteSize ∧ fileStem media.toList = some stem := by
  simp only [sidecarMatchesMedia, hstem, Option.bind_eq_bind, Option.bind_eq_some_iff,
    Option.some.injEq, exists_eq_left'] at h
  obtain ⟨_, hmedia, h⟩ := h
  split at h
  next hsame =>
    cases h
    exact .inr ⟨by rw [hsame], hsame ▸ hmedia⟩
  · split at h
    next c _ hrest =>
      obtain rfl := stripPrefix_eq_some.mp hrest
      split at h <;> cases h
      exact .inl (by simp [c.utf8Size_pos])
    · cases h

/-- **An exact stem wins, and among exact ones the smallest locator.** -/
theorem bestSidecarCandidate_exact (hstem : fileStem sidecar.toList = some stem)
    (hmedia : media ∈ candidates) (hexact : fileStem media.toList = some stem) :
    ∃ index best, bestSidecarCandidate candidates sidecar = some index ∧
      candidates[index]? = some best ∧ fileStem best.toList = some stem ∧
      ∀ other ∈ candidates, fileStem other.toList = some stem → (compare best other).isLE := by
  unfold bestSidecarCandidate
  generalize hfitting : filterMap _ candidates.zipIdx = fitting
  have hmem : ∀ c, c ∈ fitting ↔
      candidates[c.1]? = some c.2.2 ∧ sidecarMatchesMedia c.2.2 sidecar = some c.2.1 := by
    rintro ⟨_, _, _⟩
    simp [← hfitting, mem_zipIdx_iff_getElem?]
  have hfits : ∀ other ∈ candidates, fileStem other.toList = some stem →
      ∃ index, (index, (String.ofList stem).utf8ByteSize, other) ∈ fitting := by
    intro _ hother hsame
    obtain ⟨index, hindex⟩ := mem_iff_getElem?.mp hother
    exact ⟨index, (hmem _).mpr ⟨hindex, by simp [sidecarMatchesMedia, hstem, hsame]⟩⟩
  obtain ⟨i, hi⟩ := hfits media hmedia hexact
  obtain ⟨best, hbest, hin, hmost⟩ := @maxBy_spec _ _ candidate_order _ (ne_nil_of_mem hi)
  obtain ⟨hindex, hmatch⟩ := (hmem _).mp hin
  simp only [Prod.forall, Ordering.isLE_then_iff_or, Nat.compare_eq_lt, Nat.compare_eq_eq] at hmost
  have hmatched := sidecarMatchesMedia_some hmatch hstem
  have hlongest := hmost _ _ _ hi
  refine ⟨best.1, best.2.2, congrArg (Option.map (·.1)) hbest, hindex, ?_, ?_⟩
  · exact (hmatched.resolve_left (by omega)).2
  · intro other hother hsame
    obtain ⟨j, hj⟩ := hfits other hother hsame
    exact ((hmost _ _ _ hj).resolve_left (by omega)).2

end Matching

/-! ## Trees -/

/-- What `stat` says of a file, and the digest of its bytes, which the walk does not read. -/
structure FileStat where
  dev : Nat
  ino : Nat
  sizeBytes : Nat
  /-- None before the epoch. -/
  modifiedAt : Option Int
  contentHash : String
  deriving DecidableEq

/-- A tree of files.  The name of an entry is none where it is not UTF-8. -/
inductive FsNode where
  | file (stat : FileStat)
  | directory (entries : List (Option String × FsNode))
  | symlink
  | special

abbrev FsEntry := Option String × FsNode

/-- What fails while the tree is read, by the path relative to the root. -/
structure WalkFaults where
  readDir : String → Bool
  nextEntry : String → Option String → Bool
  fileType : String → Bool
  canonicalize : String → Bool
  metadata : String → Bool

def joinPath (dir name : String) : String := if dir = "" then name else dir ++ "/" ++ name

/-- A regular file with this path relative to the root. -/
inductive FsNode.HasFile : String → FsNode → String → FileStat → Prop where
  | entry {dir name : String} {entries : List FsEntry} {stat : FileStat}
      (hentry : (some name, .file stat) ∈ entries) :
      HasFile dir (.directory entries) (joinPath dir name) stat
  | inside {dir name locator : String} {entries : List FsEntry} {child : FsNode} {stat : FileStat}
      (hentry : (some name, child) ∈ entries)
      (hfile : HasFile (joinPath dir name) child locator stat) :
      HasFile dir (.directory entries) locator stat

/-! ## The walker -/

structure WalkFile where
  locator : String
  providerObjectIdentity : String
  sizeBytes : Nat
  modifiedAt : Int
  /-- The role of a sidecar. -/
  kind : Option String
  deriving DecidableEq

structure WalkCandidate where
  primary : WalkFile
  sidecars : List WalkFile
  deriving DecidableEq

structure Walker where
  candidates : List WalkCandidate
  skippedCount : Nat
  primaryLocators : List String
  pendingSidecars : List (String × WalkFile)
  deriving DecidableEq

def componentIsSafe (component : Text) : Bool :=
  component ≠ [] && component ≠ ['.'] && component ≠ ['.', '.'] && !component.contains '\x00'

def buildRelativeLocator (relative : String) : Option String :=
  if (relative.toList.splitOnP (· = '/')).all componentIsSafe then
    (newProviderRelativeLocator relative).toOption
  else none

def maxWalkDepth : Nat := 64

/-- What is asked of the worker. -/
structure WalkRequest where
  faults : WalkFaults
  allowlist : List String

namespace Walker

def empty : Walker := ⟨[], 0, [], []⟩

def skip (w : Walker) : Walker := { w with skippedCount := w.skippedCount + 1 }

/-- The facts of a file, if all of them can be had. -/
def walkFile (relative : String) (stat : FileStat) : Option WalkFile := do
  let locator ← buildRelativeLocator relative
  let modifiedAt ← stat.modifiedAt
  return ⟨locator, s!"dev={stat.dev};ino={stat.ino}", stat.sizeBytes, modifiedAt, none⟩

/-- A file is a sidecar, a primary file or neither. -/
def recordFile (allowlist : List String) (w : Walker) (relative : String) (stat : FileStat) :
    Walker :=
  match walkFile relative stat with
  | none => w.skip
  | some file =>
    match classifySidecar relative with
    | some kind => { w with
        pendingSidecars := w.pendingSidecars ++ [(relative, { file with kind := some kind.role })] }
    | none =>
      if matchesMediaExtension relative allowlist then
        { w with
          primaryLocators := w.primaryLocators ++ [relative]
          candidates := w.candidates ++ [⟨file, []⟩] }
      else w.skip

/-- One entry of a directory; `descend` walks a directory below it. -/
def walkEntry (r : WalkRequest) (descend : List FsEntry → String → Walker → Walker)
    (relativeDir : String) (w : Walker) : FsEntry → Walker
  | (none, _) => w.skip
  | (some name, node) =>
    let relative := joinPath relativeDir name
    if r.faults.fileType relative then w.skip
    else
      match node with
      | .symlink | .special => w.skip
      | .directory entries => descend entries relative w
      | .file stat =>
        if r.faults.canonicalize relative || r.faults.metadata relative then w.skip
        else w.recordFile r.allowlist relative stat

/-- The entries that reading a directory delivers, by name. -/
def delivered (faults : WalkFaults) (relativeDir : String) (entries : List FsEntry) :
    List FsEntry :=
  sortBy (fun entry => entry.1.getD "")
    (entries.filter fun entry => !faults.nextEntry relativeDir entry.1)

/-- The entries that it fails on. -/
def undelivered (faults : WalkFaults) (relativeDir : String) (entries : List FsEntry) :
    List FsEntry :=
  entries.filter fun entry => faults.nextEntry relativeDir entry.1

/-- The number is the depth that is left. -/
def walkDirectory (r : WalkRequest) : Nat → List FsEntry → String → Walker → Walker
  | 0, _, _, w => w.skip
  | depth + 1, entries, relativeDir, w =>
    if r.faults.readDir relativeDir then w.skip
    else
      let w := (undelivered r.faults relativeDir entries).foldl (fun w _ => w.skip) w
      (delivered r.faults relativeDir entries).foldl
        (walkEntry r (walkDirectory r depth) relativeDir) w

/-- One sidecar finds its primary file, or is left over. -/
def attach (w : Walker) (pending : String × WalkFile) : Walker :=
  match bestSidecarCandidate w.primaryLocators pending.1 with
  | none => w.skip
  | some index => { w with
      candidates := w.candidates.modify index fun candidate =>
        { candidate with sidecars := candidate.sidecars ++ [pending.2] } }

def finish (w : Walker) : Walker :=
  let w := w.pendingSidecars.foldl attach { w with pendingSidecars := [] }
  { w with
    candidates := (sortBy (fun candidate => candidate.primary.locator) w.candidates).map
      fun candidate => { candidate with sidecars := sortBy (·.locator) candidate.sidecars } }

end Walker

/-- The walk over a root; a root that is no directory cannot be scanned. -/
def scanRoot (r : WalkRequest) : FsNode → Option Walker
  | .directory entries => some (Walker.walkDirectory r maxWalkDepth entries "" .empty).finish
  | _ => none

/-! ## What a walk comes by -/

/-- A file, or something that is skipped. -/
abbrev Visit := Option (String × FileStat)

/-- A file that the walk reaches within a depth, through directories it can read. -/
inductive Listed (faults : WalkFaults) :
    Nat → String → List FsEntry → String → FileStat → Prop where
  | entry {depth : Nat} {dir name : String} {entries : List FsEntry} {stat : FileStat}
      (hread : faults.readDir dir = false) (hentry : (some name, .file stat) ∈ entries)
      (hnext : faults.nextEntry dir (some name) = false)
      (htype : faults.fileType (joinPath dir name) = false)
      (hresolve : faults.canonicalize (joinPath dir name) = false)
      (hmetadata : faults.metadata (joinPath dir name) = false) :
      Listed faults (depth + 1) dir entries (joinPath dir name) stat
  | inside {depth : Nat} {dir name locator : String} {entries children : List FsEntry}
      {stat : FileStat} (hread : faults.readDir dir = false)
      (hentry : (some name, .directory children) ∈ entries)
      (hnext : faults.nextEntry dir (some name) = false)
      (htype : faults.fileType (joinPath dir name) = false)
      (hfile : Listed faults depth (joinPath dir name) children locator stat) :
      Listed faults (depth + 1) dir entries locator stat

variable {faults : WalkFaults} {dir locator relativeDir relative : String}
  {entries : List FsEntry} {stat : FileStat}

theorem Listed.hasFile {depth : Nat} (h : Listed faults depth dir entries locator stat) :
    FsNode.HasFile dir (.directory entries) locator stat := by
  induction h with
  | entry _ hentry => exact .entry hentry
  | inside _ hentry _ _ _ ih => exact .inside hentry ih

namespace Walker
variable {r : WalkRequest}

def visit (allowlist : List String) (w : Walker) : Visit → Walker
  | none => w.skip
  | some (relative, stat) => w.recordFile allowlist relative stat

/-- What the walk comes by at an entry. -/
def entryVisits (faults : WalkFaults) (descend : List FsEntry → String → List Visit)
    (relativeDir : String) : FsEntry → List Visit
  | (none, _) => [none]
  | (some name, node) =>
    let relative := joinPath relativeDir name
    if faults.fileType relative then [none]
    else
      match node with
      | .symlink | .special => [none]
      | .directory entries => descend entries relative
      | .file stat =>
        if faults.canonicalize relative || faults.metadata relative then [none]
        else [some (relative, stat)]

def visits (faults : WalkFaults) : Nat → List FsEntry → String → List Visit
  | 0, _, _ => [none]
  | depth + 1, entries, relativeDir =>
    if faults.readDir relativeDir then [none]
    else
      (undelivered faults relativeDir entries).map (fun _ => none) ++
        (delivered faults relativeDir entries).flatMap
          (entryVisits faults (visits faults depth) relativeDir)

theorem walkEntry_eq {descend : List FsEntry → String → Walker → Walker}
    {listing : List FsEntry → String → List Visit}
    (h : ∀ entries dir w, descend entries dir w = (listing entries dir).foldl (visit r.allowlist) w)
    (relativeDir : String) (w : Walker) (entry : FsEntry) :
    walkEntry r descend relativeDir w entry =
      (entryVisits r.faults listing relativeDir entry).foldl (visit r.allowlist) w := by
  obtain ⟨_ | _, node⟩ := entry
  · rfl
  · simp only [walkEntry, entryVisits]
    split
    · rfl
    · cases node with
      | symlink => rfl
      | special => rfl
      | directory entries => exact h entries _ w
      | file =>
        dsimp only
        split <;> rfl

/-- **The walker records what it comes by, one after the other.** -/
theorem walkDirectory_eq (depth : Nat) (entries : List FsEntry) (relativeDir : String)
    (w : Walker) : walkDirectory r depth entries relativeDir w =
      (visits r.faults depth entries relativeDir).foldl (visit r.allowlist) w := by
  induction depth generalizing entries relativeDir w with
  | zero => rfl
  | succ _ ih =>
    unfold walkDirectory visits
    split
    · rfl
    · rw [foldl_append, foldl_map, foldl_flatMap]
      exact congrArg (fun f => foldl f _ _)
        (funext fun w => funext fun entry => walkEntry_eq ih relativeDir w entry)

theorem mem_entryVisits {descend : List FsEntry → String → List Visit} {entry : FsEntry}
    {found : String × FileStat} :
    some found ∈ entryVisits faults descend relativeDir entry ↔ ∃ name,
      entry.1 = some name ∧ faults.fileType (joinPath relativeDir name) = false ∧
      ((∃ entries, entry.2 = .directory entries ∧
          some found ∈ descend entries (joinPath relativeDir name)) ∨
        (entry.2 = .file found.2 ∧ found.1 = joinPath relativeDir name ∧
          faults.canonicalize (joinPath relativeDir name) = false ∧
          faults.metadata (joinPath relativeDir name) = false)) := by
  obtain ⟨_ | _, node⟩ := entry
  · simp [entryVisits]
  · obtain ⟨_, _⟩ := found
    simp only [entryVisits, Option.some.injEq]
    split
    next hfails => simp [hfails]
    next hok =>
    cases node with
    | symlink => simp
    | special => simp
    | directory => simp [hok]
    | file =>
      dsimp only
      split
      next hfails =>
        rw [Bool.or_eq_true] at hfails
        rcases hfails with hfails | hfails <;> simp [hfails]
      next hfine =>
        rw [Bool.or_eq_true, not_or] at hfine
        simp [hok, hfine, and_comm, eq_comm]

/-- **What is come by is what is listed.** -/
theorem mem_visits_iff {depth : Nat} :
    some (locator, stat) ∈ visits faults depth entries relativeDir ↔
      Listed faults depth relativeDir entries locator stat := by
  induction depth generalizing entries relativeDir with
  | zero =>
    constructor
    · intro h
      simp [visits] at h
    · intro h
      cases h
  | succ _ ih =>
    unfold visits
    split
    next hfails =>
      constructor
      · intro h
        simp at h
      · intro h
        cases h with
        | entry hread | inside hread => cases hread.symm.trans hfails
    next hread =>
    have hread := Bool.eq_false_of_not_eq_true hread
    simp only [mem_append, mem_map, reduceCtorEq, and_false, exists_false, false_or,
      mem_flatMap, delivered, mem_sortBy, mem_filter, Bool.not_eq_true',
      mem_entryVisits]
    constructor
    · rintro ⟨⟨_, _⟩, ⟨hentry, hnext⟩, _, rfl, htype, hvisit⟩
      rcases hvisit with ⟨_, rfl, hbelow⟩ | ⟨rfl, rfl, hresolve, hmetadata⟩
      · exact .inside hread hentry hnext htype (ih.mp hbelow)
      · exact .entry hread hentry hnext htype hresolve hmetadata
    · intro h
      cases h with
      | entry _ hentry hnext htype hresolve hmetadata =>
        exact ⟨_, ⟨hentry, hnext⟩, _, rfl, htype, .inr ⟨rfl, rfl, hresolve, hmetadata⟩⟩
      | inside _ hentry hnext htype hfile =>
        exact ⟨_, ⟨hentry, hnext⟩, _, rfl, htype, .inl ⟨_, rfl, ih.mpr hfile⟩⟩

/-! ### What is recorded -/

/-- The primary file of a visit. -/
def primaryOf (allowlist : List String) : Visit → Option WalkFile
  | none => none
  | some (relative, stat) =>
    if classifySidecar relative = none ∧ matchesMediaExtension relative allowlist then
      walkFile relative stat
    else none

/-- The sidecar of a visit. -/
def sidecarOf : Visit → Option (String × WalkFile)
  | none => none
  | some (relative, stat) =>
    (classifySidecar relative).bind fun kind => (walkFile relative stat).map fun file =>
      (relative, { file with kind := some kind.role })

theorem walkFile_some {file : WalkFile} (h : walkFile relative stat = some file) :
    file.locator = relative ∧ file.kind = none ∧ file.sizeBytes = stat.sizeBytes ∧
      newProviderRelativeLocator relative = .ok relative := by
  simp only [walkFile, Option.bind_eq_bind, Option.bind_eq_some_iff, Option.pure_def,
    Option.some.injEq] at h
  obtain ⟨_, hloc, _, -, rfl⟩ := h
  simp only [buildRelativeLocator, newProviderRelativeLocator] at hloc
  split at hloc
  · split at hloc
    next hval =>
      cases hloc
      refine ⟨rfl, rfl, rfl, ?_⟩
      rw [newProviderRelativeLocator, hval]
    · cases hloc
  · cases hloc

/-- What a series of visits leaves. -/
theorem foldl_visit (allowlist : List String) (l : List Visit) (w : Walker) :
    (l.foldl (visit allowlist) w).candidates =
        w.candidates ++ (l.filterMap (primaryOf allowlist)).map (⟨·, []⟩) ∧
      (l.foldl (visit allowlist) w).primaryLocators =
        w.primaryLocators ++ (l.filterMap (primaryOf allowlist)).map (·.locator) ∧
      (l.foldl (visit allowlist) w).pendingSidecars =
        w.pendingSidecars ++ l.filterMap sidecarOf := by
  induction l generalizing w with
  | nil => simp
  | cons v l ih =>
    obtain ⟨hcands, hlocators, hpend⟩ := ih (visit allowlist w v)
    rw [foldl_cons, hcands, hlocators, hpend]
    rcases v with _ | ⟨relative, stat⟩
    · exact ⟨rfl, rfl, rfl⟩
    simp only [visit, recordFile, filterMap_cons, primaryOf, sidecarOf]
    cases hfile : walkFile relative stat with
    | none => cases hkind : classifySidecar relative <;> simp [skip]
    | some =>
      have hloc := (walkFile_some hfile).1
      cases hkind : classifySidecar relative with
      | some => simp
      | none =>
        by_cases hmedia : matchesMediaExtension relative allowlist = true
        · simp [hmedia, hloc]
        · simp [hmedia, skip]

/-! ### The end of the walk -/

theorem attach_fixed (w : Walker) (pending : String × WalkFile) :
    (w.attach pending).primaryLocators = w.primaryLocators := by
  unfold attach
  split <;> rfl

/-- Every candidate gets the sidecars that choose it. -/
theorem foldl_attach (pending : List (String × WalkFile)) (w : Walker) (i : Nat) :
    (pending.foldl attach w).candidates[i]? = w.candidates[i]?.map fun candidate =>
      { candidate with sidecars := candidate.sidecars ++ (pending.filter fun p =>
          bestSidecarCandidate w.primaryLocators p.1 = some i).map (·.2) } := by
  induction pending generalizing w with
  | nil => simp
  | cons p _ ih =>
    rw [foldl_cons, ih, attach_fixed, attach]
    cases hbest : bestSidecarCandidate w.primaryLocators p.1 with
    | none => simp [hbest, skip]
    | some index =>
      by_cases hi : index = i
      · simp [hbest, hi, Function.comp_def]
      · simp [hbest, hi]

theorem foldl_attach_primaries (pending : List (String × WalkFile)) (w : Walker) :
    (pending.foldl attach w).candidates.map (·.primary) = w.candidates.map (·.primary) := by
  refine ext_getElem? fun i => ?_
  rw [getElem?_map, foldl_attach, getElem?_map]
  cases w.candidates[i]? <;> rfl

/-- The end of the walk brings the primary files in order. -/
theorem finish_primaries (w : Walker) :
    (w.finish.candidates.map (·.primary)).Perm (w.candidates.map (·.primary)) := by
  have hsort : ∀ l : List WalkCandidate,
      (sortBy (fun candidate => candidate.primary.locator) l).Perm l := sortBy_perm
  have hprimaries := (hsort
    (w.pendingSidecars.foldl attach { w with pendingSidecars := [] }).candidates).map (·.primary)
  rw [foldl_attach_primaries] at hprimaries
  simpa [finish, Function.comp_def] using hprimaries

theorem sidecarOf_some {relative : String} {stat : FileStat} {p : String × WalkFile}
    (h : sidecarOf (some (relative, stat)) = some p) : p.1 = relative ∧ p.2.locator = relative := by
  obtain ⟨_, -, hfile⟩ := Option.bind_eq_some_iff.mp h
  obtain ⟨_, hwalk, rfl⟩ := Option.map_eq_some_iff.mp hfile
  exact ⟨rfl, (walkFile_some hwalk).1⟩

/-- Which sidecars are beside a primary file in the end, if none was at first. -/
theorem finish_sidecar_iff {w : Walker} {m sidecar : String}
    (hnone : ∀ candidate ∈ w.candidates, candidate.sidecars = []) :
    (∃ candidate ∈ w.finish.candidates, candidate.primary.locator = m ∧
        ∃ file ∈ candidate.sidecars, file.locator = sidecar) ↔
      ∃ i, (∃ candidate, w.candidates[i]? = some candidate ∧ candidate.primary.locator = m) ∧
        ∃ p ∈ w.pendingSidecars, bestSidecarCandidate w.primaryLocators p.1 = some i ∧
          p.2.locator = sidecar := by
  simp only [finish, mem_map, mem_sortBy, exists_exists_and_eq_and]
  constructor
  · rintro ⟨_, hattached, rfl, _, hfile, rfl⟩
    obtain ⟨i, hi⟩ := mem_iff_getElem?.mp hattached
    rw [foldl_attach] at hi
    obtain ⟨candidate, hcand, rfl⟩ := Option.map_eq_some_iff.mp hi
    rw [hnone candidate (mem_of_getElem? hcand), nil_append] at hfile
    obtain ⟨p, hp, rfl⟩ := mem_map.mp hfile
    obtain ⟨hpend, hbest⟩ := mem_filter.mp hp
    exact ⟨i, ⟨candidate, hcand, rfl⟩, p, hpend, of_decide_eq_true hbest, rfl⟩
  · rintro ⟨i, ⟨_, hcand, rfl⟩, p, hpend, hbest, rfl⟩
    have hi := foldl_attach w.pendingSidecars { w with pendingSidecars := [] } i
    rw [hcand] at hi
    exact ⟨_, mem_of_getElem? hi, rfl, p.2, mem_append_right _
      (mem_map_of_mem (mem_filter.mpr ⟨hpend, decide_eq_true hbest⟩)), rfl⟩

end Walker

/-- The file is taken for a primary one. -/
structure IsPrimary (allowlist : List String) (locator : String) (stat : FileStat) : Prop where
  kind : classifySidecar locator = none
  extension : matchesMediaExtension locator allowlist = true
  facts : (Walker.walkFile locator stat).isSome = true

/-- A primary file of the tree with this stem. -/
structure ExactPrimary (r : WalkRequest) (entries : List FsEntry) (stem : Text) (locator : String) :
    Prop where
  primary : ∃ stat, Listed r.faults maxWalkDepth "" entries locator stat ∧
    IsPrimary r.allowlist locator stat
  stem : RustPath.fileStem locator.toList = some stem

section Root
open Walker
open RustPath (fileStem)
variable {r : WalkRequest} {w : Walker} (h : scanRoot r (.directory entries) = some w)
include h

/-- What is recorded when the walk is at its end. -/
theorem scanRoot_walked : ∃ walked : Walker, walked.finish = w ∧
    walked.candidates = ((visits r.faults maxWalkDepth entries "").filterMap
      (primaryOf r.allowlist)).map (⟨·, []⟩) ∧
    walked.primaryLocators = walked.candidates.map (·.primary.locator) ∧
    walked.pendingSidecars = (visits r.faults maxWalkDepth entries "").filterMap sidecarOf := by
  obtain ⟨hcands, hlocators, hpend⟩ :=
    foldl_visit r.allowlist (visits r.faults maxWalkDepth entries "") .empty
  rw [← walkDirectory_eq] at hcands hlocators hpend
  refine ⟨_, Option.some.inj h, hcands, ?_, hpend⟩
  rw [hlocators, hcands]
  simp [empty]

/-- **The candidates of a walk are the primary files that are listed.** -/
theorem scanRoot_primary_iff :
    (∃ candidate ∈ w.candidates, candidate.primary.locator = locator) ↔
      ∃ stat, Listed r.faults maxWalkDepth "" entries locator stat ∧
        IsPrimary r.allowlist locator stat := by
  obtain ⟨walked, rfl, hwalked, -⟩ := scanRoot_walked h
  have hmem : ∀ file, file ∈ walked.finish.candidates.map (·.primary) ↔
      ∃ v ∈ visits r.faults maxWalkDepth entries "", primaryOf r.allowlist v = some file := by
    intro _
    rw [(finish_primaries _).mem_iff, hwalked]
    simp
  constructor
  · rintro ⟨candidate, hcand, rfl⟩
    obtain ⟨v, hv, hfile⟩ := (hmem candidate.primary).mp (mem_map_of_mem hcand)
    rcases v with _ | ⟨_, stat⟩
    · cases hfile
    simp only [primaryOf] at hfile
    split at hfile
    next hprimary =>
      rw [(walkFile_some hfile).1]
      exact ⟨stat, mem_visits_iff.mp hv, hprimary.1, hprimary.2, by simp [hfile]⟩
    · cases hfile
  · rintro ⟨stat, hlist, hprimary⟩
    obtain ⟨file, hfile⟩ := Option.isSome_iff_exists.mp hprimary.facts
    have hof : primaryOf r.allowlist (some (locator, stat)) = some file := by
      rw [primaryOf, if_pos ⟨hprimary.kind, hprimary.extension⟩, hfile]
    obtain ⟨candidate, hcand, rfl⟩ := mem_map.mp
      ((hmem file).mpr ⟨_, mem_visits_iff.mpr hlist, hof⟩)
    exact ⟨candidate, hcand, (walkFile_some hfile).1⟩

/-- **A sidecar is beside the primary file with its stem that has the smallest locator of all in the
tree**, whatever directory that is in. -/
theorem scanRoot_sidecar_iff {sidecar media : String} {stem : Text}
    (hlisted : Listed r.faults maxWalkDepth "" entries sidecar stat)
    (hsidecar : (sidecarOf (some (sidecar, stat))).isSome = true)
    (hstem : fileStem sidecar.toList = some stem)
    (hmedia : ExactPrimary r entries stem media) :
    ∃ least, ExactPrimary r entries stem least ∧
      (∀ other, ExactPrimary r entries stem other → (compare least other).isLE) ∧
      ∀ m, (∃ candidate ∈ w.candidates, candidate.primary.locator = m ∧
        ∃ file ∈ candidate.sidecars, file.locator = sidecar) ↔ m = least := by
  obtain ⟨walked, rfl, hcandidates, hwalked, hpending⟩ := scanRoot_walked h
  have hmem : ∀ m, m ∈ walked.primaryLocators ↔ ∃ stat,
      Listed r.faults maxWalkDepth "" entries m stat ∧ IsPrimary r.allowlist m stat := by
    intro m
    rw [← scanRoot_primary_iff h, hwalked]
    have h := ((walked.finish_primaries).map (·.locator)).mem_iff (a := m)
    simpa using h.symm
  obtain ⟨index, least, hbest, hleast, hexact, hsmallest⟩ :=
    bestSidecarCandidate_exact hstem ((hmem media).mpr hmedia.primary) hmedia.stem
  refine ⟨least, ⟨(hmem least).mp (mem_of_getElem? hleast), hexact⟩,
    fun other hother => hsmallest other ((hmem other).mpr hother.primary) hother.stem, ?_⟩
  intro m
  rw [finish_sidecar_iff]
  · constructor
    · rintro ⟨i, ⟨_, hcandidate, rfl⟩, p, hp, hi, rfl⟩
      rw [hpending] at hp
      obtain ⟨_ | ⟨_, _⟩, -, hv⟩ := mem_filterMap.mp hp
      · cases hv
      obtain ⟨hrelative, hlocator⟩ := sidecarOf_some hv
      rw [hlocator, ← hrelative, hi] at hbest
      cases hbest
      rw [hwalked, getElem?_map, hcandidate] at hleast
      exact Option.some.inj hleast
    · rintro rfl
      rw [hwalked, getElem?_map] at hleast
      obtain ⟨p, hp⟩ := Option.isSome_iff_exists.mp hsidecar
      obtain ⟨hrelative, hlocator⟩ := sidecarOf_some hp
      refine ⟨index, Option.map_eq_some_iff.mp hleast, p, ?_, hrelative ▸ hbest, hlocator⟩
      rw [hpending]
      exact mem_filterMap.mpr ⟨_, mem_visits_iff.mpr hlisted, hp⟩
  · intro _ hcandidate
    rw [hcandidates] at hcandidate
    obtain ⟨_, -, rfl⟩ := mem_map.mp hcandidate
    rfl

end Root

def noFaults : WalkFaults :=
  ⟨fun _ => false, fun _ _ => false, fun _ => false, fun _ => false, fun _ => false⟩

def filmStat : FileStat := ⟨1, 1, 1, some 0, "blake3:h"⟩

/-- Two directories with films of one name; the second has a subtitle. -/
def twoFilms : List FsEntry :=
  [(some "a", .directory [(some "m.mkv", .file filmStat)]),
    (some "b", .directory [(some "m.mkv", .file filmStat), (some "m.srt", .file filmStat)])]

theorem subtitle_beside_least : ∃ w least, scanRoot ⟨noFaults, []⟩ (.directory twoFilms) = some w ∧
    ∀ m, (∃ candidate ∈ w.candidates, candidate.primary.locator = m ∧
      ∃ file ∈ candidate.sidecars, file.locator = "b/m.srt") ↔ m = least := by
  have hfile : ∀ {dir name children}, (some dir, .directory children) ∈ twoFilms →
      (some name, .file filmStat) ∈ children →
      Listed noFaults maxWalkDepth "" twoFilms (joinPath (joinPath "" dir) name) filmStat :=
    fun hdir hname => .inside rfl hdir rfl rfl (.entry rfl hname rfl rfl rfl rfl)
  obtain ⟨least, -, -, hbeside⟩ := scanRoot_sidecar_iff (r := ⟨noFaults, []⟩) rfl
    (hfile (mem_cons_of_mem _ mem_cons_self) (mem_cons_of_mem _ mem_cons_self)) rfl rfl
    ⟨⟨filmStat, hfile mem_cons_self mem_cons_self, rfl, rfl, rfl⟩, rfl⟩
  exact ⟨_, least, rfl, hbeside⟩

/-- The film beside the subtitle has the stem, but the other one has the smaller locator. -/
theorem subtitle_leaves_film :
    (scanRoot ⟨noFaults, []⟩ (.directory twoFilms)).map (fun w => w.candidates.map fun candidate =>
        (candidate.primary.locator, candidate.sidecars.map (·.locator))) =
      some [("a/m.mkv", ["b/m.srt"]), ("b/m.mkv", [])] := by
  decide +kernel

end Voom
