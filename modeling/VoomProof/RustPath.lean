import VoomProof.RustText
import Mathlib.Data.List.Basic

/-!
# Paths

The parts of a slash-separated path, as `std::path::Path` has them on Unix. A path is the list
of its components; empty ones and single dots do not count. The name of a file is the last
component, and it is taken apart at its last dot: before it stands the stem, after it the
extension. A name whose only dot is its first character is all stem.
-/

namespace RustPath
open RustText List Option

def components (path : Text) : List Text :=
  (path.splitOnP (· = '/')).filter fun part => part ≠ [] ∧ part ≠ ['.']

def fileName (path : Text) : Option Text := (components path).getLast?.filter (· ≠ ['.', '.'])

/-- The parts before and after the last dot. -/
def rsplitOnceDot (name : Text) : Option (Text × Text) :=
  if '.' ∈ name then
    some (((name.reverse.dropWhile (· ≠ '.')).drop 1).reverse,
      (name.reverse.takeWhile (· ≠ '.')).reverse)
  else
    none

def stemOf (name : Text) : Text :=
  match rsplitOnceDot name with
  | some (c :: before, _) => c :: before
  | _ => name

def extensionOf (name : Text) : Option Text :=
  match rsplitOnceDot name with
  | some (_ :: _, after) => some after
  | _ => none

def fileStem (path : Text) : Option Text := (fileName path).map stemOf

def extension (path : Text) : Option Text := (fileName path).bind extensionOf

variable {path name file : Text}

/-- The name of a file is the last piece of its path. -/
theorem fileName_of_getLast? (h : (path.splitOnP (· = '/')).getLast? = some name)
    (hfile : fileName name = some file) : fileName path = some file ∧ file = name := by
  obtain ⟨_, hfront⟩ := getLast?_eq_some_iff.mp h
  rw [fileName, components, splitOnP_eq_singleton (of_mem_splitOnP (mem_of_getLast? h)).2] at hfile
  obtain ⟨hlast, hdots⟩ := filter_eq_some_iff.mp hfile
  rw [fileName, components, hfront, filter_append, getLast?_append, hlast, some_or]
  exact ⟨filter_eq_some_iff.mpr ⟨rfl, hdots⟩,
    mem_singleton.mp (mem_filter.mp (mem_of_getLast? hlast)).1⟩

/-- A name is taken apart at its last dot, if that is not its first character. -/
theorem stemOf_spec (name : Text) :
    ('.' ∉ name.drop 1 ∧ stemOf name = name) ∨
      ∃ c stem ext, name = c :: stem ++ '.' :: ext ∧ stemOf name = c :: stem := by
  by_cases hdot : '.' ∈ name
  · obtain ⟨ext, stem, hname, hext⟩ := eq_append_cons_of_mem (mem_reverse.mpr hdot)
    have hsplit : rsplitOnceDot name = some (stem.reverse, ext.reverse) := by
      have hfree : ∀ c ∈ ext, decide (c ≠ '.') = true := fun c hc =>
        decide_eq_true (ne_of_mem_of_not_mem hc hext)
      rw [rsplitOnceDot, if_pos hdot, hname, dropWhile_append_of_pos hfree,
        takeWhile_append_of_pos hfree]
      simp
    have hname' : name = stem.reverse ++ '.' :: ext.reverse := by
      simpa using congrArg reverse hname
    unfold stemOf
    rw [hsplit]
    cases hstem : stem.reverse with
    | nil =>
      refine .inl ⟨?_, rfl⟩
      rw [hname', hstem]
      simpa using hext
    | cons c before => exact .inr ⟨c, before, ext.reverse, by rw [hname', hstem], rfl⟩
  · refine .inl ⟨fun h => hdot (mem_of_mem_drop h), ?_⟩
    rw [stemOf, rsplitOnceDot, if_neg hdot]

theorem stemOf_eq_self_iff : stemOf name = name ↔ '.' ∉ name.drop 1 := by
  rcases stemOf_spec name with ⟨hdot, hstem⟩ | ⟨c, _, ext, rfl, hstem⟩
  · exact iff_of_true hstem hdot
  · rw [hstem]
    simp

theorem stemOf_subset (name : Text) : stemOf name ⊆ name := by
  rcases stemOf_spec name with ⟨-, hstem⟩ | ⟨c, _, ext, hname, hstem⟩
  · rw [hstem]
    exact Subset.refl _
  · rw [hstem, hname]
    exact subset_append_left _ _

/-- A name without slashes, taken for a path, is its own stem exactly if it has no dot behind its
first character and is no dot. -/
theorem fileStem_eq_self_iff (hslash : '/' ∉ name) (hne : name ≠ []) :
    fileStem name = some name ↔ '.' ∉ name.drop 1 ∧ name ≠ ['.'] := by
  have hsplit : name.splitOnP (· = '/') = [name] :=
    splitOnP_eq_singleton fun c hc => decide_eq_false (ne_of_mem_of_not_mem hc hslash)
  rw [← stemOf_eq_self_iff, fileStem, fileName, components, hsplit]
  by_cases hdot : name = ['.']
  · simp [hdot]
  by_cases hdots : name = ['.', '.']
  · subst hdots
    decide
  · simp [hne, hdot, hdots]

/-- `std::path::Component`. -/
inductive Component
  | rootDir
  | curDir
  | parentDir
  | normal (name : Text)
  deriving DecidableEq

def namedComponents (path : Text) : List Component :=
  (components path).map fun part => if part = ['.', '.'] then .parentDir else .normal part

/-- `Path::components`: a dot counts only where a relative path starts with it. -/
def pathComponents (path : Text) : List Component :=
  if path.head? = some '/' then .rootDir :: namedComponents path
  else if (path.splitOnP (· = '/')).head? = some ['.'] then .curDir :: namedComponents path
  else namedComponents path

example : fileStem "a/b.tar.gz".toList = some "b.tar".toList := by decide

example : extension "a/.bashrc".toList = none := by decide

end RustPath
