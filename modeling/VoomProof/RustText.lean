import Mathlib.Algebra.GroupWithZero.Nat

/-!
# Text as Rust's standard library sees it

Characters and strings as `char` and `str` treat them: white space is the Unicode
property `White_Space`, ASCII white space is five characters of it. A text that is taken
apart is a list of its characters, and an offset into it counts characters.
-/

namespace RustText
open List Nat

abbrev Text := List Char

/-- `char::is_whitespace`. -/
def isWhitespace (c : Char) : Bool :=
  let n := c.toNat
  (0x09 ≤ n && n ≤ 0x0D) || n = 0x20 || n = 0x85 || n = 0xA0 || n = 0x1680 ||
    (0x2000 ≤ n && n ≤ 0x200A) || n = 0x2028 || n = 0x2029 || n = 0x202F || n = 0x205F ||
    n = 0x3000

/-- `char::is_ascii_whitespace`: not the vertical tab. -/
def isAsciiWhitespace (c : Char) : Bool :=
  c = ' ' || c = '\t' || c = '\n' || c = '\x0C' || c = '\r'

/-- `s.trim().is_empty()`. -/
def blank (s : String) : Bool := s.toList.all isWhitespace

/-- `str::eq_ignore_ascii_case`. -/
def eqIgnoreAsciiCase (s t : String) : Bool := s.toList.map Char.toLower = t.toList.map Char.toLower

/-! ## Trimming -/

def trimStart (t : Text) : Text := t.dropWhile isWhitespace

def trimEndMatches (p : Char → Bool) (t : Text) : Text := (t.reverse.dropWhile p).reverse

def trim (t : Text) : Text := trimEndMatches isWhitespace (trimStart t)

def trimMatches (p : Char → Bool) (t : Text) : Text := trimEndMatches p (t.dropWhile p)

theorem trimEndMatches_isPrefix (p : Char → Bool) (t : Text) : trimEndMatches p t <+: t := by
  rw [trimEndMatches, ← reverse_suffix, reverse_reverse]
  exact dropWhile_suffix p

variable {t : Text}

theorem trimStart_of_head (h : ∀ c ∈ t.head?, isWhitespace c = false) : trimStart t = t := by
  cases t with
  | nil => rfl
  | cons c => exact dropWhile_cons_of_neg (by simp [h c rfl])

variable {a rest before after b : Text} {c : Char}

/-- The end of a text whose first part is not trimmed. -/
theorem trimEndMatches_append {p : Char → Bool} (h : ∀ c ∈ a.getLast?, p c = false) (b : Text) :
    trimEndMatches p (a ++ b) = a ++ trimEndMatches p b := by
  have ha : a.reverse.dropWhile p = a.reverse := by
    cases ha : a.reverse with
    | nil => rfl
    | cons c =>
      have hc : p c = false := h c (by rw [← head?_reverse, ha]; rfl)
      exact dropWhile_cons_of_neg (by simp [hc])
  rw [trimEndMatches, trimEndMatches, reverse_append, dropWhile_append, ha]
  split
  case isTrue hnil => rw [isEmpty_iff.mp hnil]; simp
  case isFalse => simp

theorem trim_isInfix (t : Text) : trim t <:+: t :=
  (trimEndMatches_isPrefix isWhitespace _).isInfix.trans (dropWhile_suffix _).isInfix

theorem head?_trimStart (h : c ∈ (trimStart t).head?) : isWhitespace c = false := by
  have hhead := head?_dropWhile_not isWhitespace t
  rw [show t.dropWhile isWhitespace = trimStart t from rfl, Option.mem_def.mp h] at hhead
  simpa using hhead

theorem getLast?_trimEndMatches {p : Char → Bool} (h : c ∈ (trimEndMatches p t).getLast?) :
    p c = false := by
  rw [trimEndMatches, getLast?_reverse] at h
  have hhead := head?_dropWhile_not p t.reverse
  rw [Option.mem_def.mp h] at hhead
  simpa using hhead

/-- A text that begins and ends with no white space. -/
def Trimmed (t : Text) : Prop :=
  (∀ c ∈ t.head?, isWhitespace c = false) ∧ ∀ c ∈ t.getLast?, isWhitespace c = false

theorem Trimmed.trim_eq (h : Trimmed t) : trim t = t := by
  rw [trim, trimStart_of_head h.1]
  have happ := trimEndMatches_append h.2 []
  rwa [show trimEndMatches isWhitespace [] = [] from rfl, append_nil] at happ

theorem trimmed_trim (t : Text) : Trimmed (trim t) := by
  refine ⟨fun c hc => ?_, fun c hc => getLast?_trimEndMatches hc⟩
  obtain ⟨_, htail⟩ := trimEndMatches_isPrefix isWhitespace (trimStart t)
  refine head?_trimStart (t := t) ?_
  rw [← htail, head?_append, show (trimEndMatches isWhitespace (trimStart t)).head? = some c
    from hc]
  rfl

@[simp] theorem trim_trim (t : Text) : trim (trim t) = trim t := (trimmed_trim t).trim_eq

/-! ## Searching -/

/-- `str::strip_prefix`. -/
def stripPrefix (pat t : Text) : Option Text :=
  if pat.isPrefixOf t then some (t.drop pat.length) else none

/-- `str::split_once`: around the first occurrence. -/
def splitOnce (pat : Text) : Text → Option (Text × Text)
  | [] => if pat = [] then some ([], []) else none
  | c :: rest =>
      if pat.isPrefixOf (c :: rest) then some ([], (c :: rest).drop pat.length)
      else (splitOnce pat rest).map fun (before, after) => (c :: before, after)

variable {pat : Text}

theorem stripPrefix_eq_some : stripPrefix pat t = some rest ↔ t = pat ++ rest := by
  unfold stripPrefix
  constructor
  · intro h
    split at h
    case isTrue hfront =>
      obtain ⟨_, rfl⟩ := isPrefixOf_iff_prefix.mp hfront
      rw [drop_left, Option.some.injEq] at h
      rw [h]
    case isFalse => cases h
  · rintro rfl
    rw [if_pos ( isPrefixOf_iff_prefix.mpr (prefix_append pat rest)), drop_left]

theorem splitOnce_eq (h : splitOnce pat t = some (before, after)) :
    t = before ++ (pat ++ after) := by
  induction t generalizing before with
  | nil =>
    unfold splitOnce at h
    split at h
    case isTrue hnil => cases h; rw [hnil]; rfl
    case isFalse => cases h
  | cons c _ ih =>
    unfold splitOnce at h
    split at h
    case isTrue hfront =>
      obtain ⟨_, htail⟩ := isPrefixOf_iff_prefix.mp hfront
      cases h
      rw [← htail, drop_left]
      rfl
    case isFalse =>
    obtain ⟨⟨_, _⟩, hrest, heq⟩ := Option.map_eq_some_iff.mp h
    cases heq
    rw [ih hrest]
    rfl

theorem stripPrefix_getD_isInfix (pat t : Text) : (stripPrefix pat t).getD t <:+: t := by
  cases hrest : stripPrefix pat t with
  | none => exact infix_refl t
  | some rest =>
    rw [stripPrefix_eq_some.mp hrest]
    exact (suffix_append pat rest).isInfix

/-- A text in front that does not have the character. -/
theorem splitOnce_append (h : c ∉ a) (b : Text) :
    splitOnce [c] (a ++ b) = (splitOnce [c] b).map fun (before, after) => (a ++ before, after) := by
  induction a with
  | nil => simp
  | cons d a ih =>
    obtain ⟨hne, hrest⟩ := not_or.mp (mt mem_cons.mpr h)
    have hno : [c].isPrefixOf (d :: (a ++ b)) = false := by simp [isPrefixOf, hne]
    rw [cons_append, splitOnce, if_neg (by simp [hno]), ih hrest, Option.map_map]
    rfl

/-- `str::contains`. -/
def includes (pat t : Text) : Bool := (splitOnce pat t).isSome

/-- `str::trim_start_matches`, for a pattern of at least one character. -/
def trimStartMatches (pat t : Text) : Text :=
  go t.length t
where
  go : Nat → Text → Text
    | 0, t => t
    | n + 1, t =>
        match stripPrefix pat t with
        | some rest => go n rest
        | none => t

theorem trimStartMatches.go_suffix (pat : Text) (n : Nat) (t : Text) : go pat n t <:+ t := by
  induction n generalizing t with
  | zero => exact suffix_refl t
  | succ n ih =>
    unfold go
    split
    case h_1 rest hstrip =>
      refine (ih rest).trans ?_
      rw [stripPrefix_eq_some.mp hstrip]
      exact suffix_append _ _
    case h_2 => exact suffix_refl t

theorem trimStartMatches_suffix (pat t : Text) : trimStartMatches pat t <:+ t :=
  trimStartMatches.go_suffix pat t.length t

section Split
variable {α : Type} {p q : α → Bool} {l piece : List α}

/-- A list has no separator, or goes on behind its first one. -/
theorem splitOnP_induction {P : List α → Prop} (free : ∀ l, (∀ a ∈ l, p a = false) → P l)
    (sep : ∀ first s rest, (∀ a ∈ first, p a = false) → p s = true → P rest →
      P (first ++ s :: rest))
    (l : List α) : P l := by
  -- what is in front of the list has no separator
  suffices h : P l ∧ ∀ front, (∀ a ∈ front, p a = false) → P (front ++ l) from h.1
  induction l with
  | nil => exact ⟨free [] nofun, fun front hfront => by simpa using free front hfront⟩
  | cons a l ih =>
    obtain ⟨hl, hahead⟩ := ih
    suffices h : ∀ front, (∀ a ∈ front, p a = false) → P (front ++ a :: l) from ⟨h [] nofun, h⟩
    intro front hfront
    cases ha : p a with
    | true => exact sep front a l hfront ha hl
    | false =>
      rw [append_cons]
      exact hahead (front ++ [a]) (forall_mem_append.mpr ⟨hfront, by simpa using ha⟩)

/-- The pieces of a split are parts of the list without separators. -/
theorem of_mem_splitOnP (h : piece ∈ l.splitOnP p) : piece <:+: l ∧ ∀ a ∈ piece, p a = false := by
  induction l using splitOnP_induction (p := p) with
  | free l hl =>
    rw [splitOnP_eq_singleton hl, mem_singleton] at h
    subst h
    exact ⟨infix_refl _, hl⟩
  | sep _ s rest hfirst hs ih =>
    rw [splitOnP_append_cons _ _ hs, splitOnP_eq_singleton hfirst] at h
    rcases mem_cons.mp h with rfl | h
    · exact ⟨(prefix_append _ _).isInfix, hfirst⟩
    · exact (ih h).imp_left fun h =>
        h.trans ((suffix_cons s rest).trans (suffix_append _ _)).isInfix

/-- A piece between separators is a piece between more separators if it has none of them. -/
theorem mem_splitOnP_of_le (hpq : ∀ a, p a = true → q a = true) (hpiece : piece ∈ l.splitOnP p)
    (hq : ∀ a ∈ piece, q a = false) : piece ∈ l.splitOnP q := by
  induction l using splitOnP_induction (p := p) with
  | free l hl =>
    rw [splitOnP_eq_singleton hl, mem_singleton] at hpiece
    subst hpiece
    simp [splitOnP_eq_singleton hq]
  | sep _ s _ hfirst hs ih =>
    rw [splitOnP_append_cons _ _ hs, splitOnP_eq_singleton hfirst] at hpiece
    rw [splitOnP_append_cons _ _ (hpq s hs)]
    rcases mem_cons.mp hpiece with rfl | h
    · simp [splitOnP_eq_singleton hq]
    · exact mem_append_right _ (ih h)

end Split

/-- `str::split_ascii_whitespace`. -/
def splitAsciiWhitespace (t : Text) : List Text :=
  (t.splitOnP isAsciiWhitespace).filter (· ≠ [])

/-! ## Numbers -/

def digitsValue (t : Text) : Nat := t.foldl (fun n c => 10 * n + (c.toNat - 48)) 0

/-- `str::parse` for an unsigned integer of so many bits: digits, after at most one plus. -/
def parseUnsigned (bits : Nat) (t : Text) : Option Nat :=
  let digits := (stripPrefix ['+'] t).getD t
  if digits ≠ [] ∧ digits.all Char.isDigit ∧ digitsValue digits < 1 <<< bits then
    some (digitsValue digits)
  else none

/-- A numeral can be read if its value fits. -/
theorem parseUnsigned_isSome_iff {bits : Nat} (hne : t ≠ []) (hdigits : t.all Char.isDigit = true) :
    (parseUnsigned bits t).isSome = true ↔ digitsValue t < 1 <<< bits := by
  have hplus : stripPrefix ['+'] t = none := by
    cases t with
    | nil => exact absurd rfl hne
    | cons c t =>
      rw [Option.eq_none_iff_forall_ne_some]
      intro _ hrest
      obtain ⟨rfl, -⟩ := cons_eq_cons.mp (stripPrefix_eq_some.mp hrest)
      exact absurd (all_eq_true.mp hdigits '+' mem_cons_self) (by decide)
  simp [parseUnsigned, hplus, hne, hdigits]

/-- A text is taken apart at its last separator in one way only. -/
theorem append_separator_inj {a a' b b' : List Char} (hb : c ∉ b) (hb' : c ∉ b') :
    a ++ c :: b = a' ++ c :: b' ↔ a = a' ∧ b = b' := by
  constructor
  · intro h
    have hreverse : b.reverse ++ c :: a.reverse = b'.reverse ++ c :: a'.reverse := by
      have := congrArg reverse h
      simpa using this
    have hnames := congrArg (takeWhile (· != c)) hreverse
    rw [takeWhile_append_of_pos (by simp; rintro x hx rfl; exact hb hx),
      takeWhile_append_of_pos (by simp; rintro x hx rfl; exact hb' hx)] at hnames
    have hname : b = b' := by simpa using hnames
    subst hname
    exact ⟨append_cancel_right h, rfl⟩
  · rintro ⟨rfl, rfl⟩
    rfl

end RustText
