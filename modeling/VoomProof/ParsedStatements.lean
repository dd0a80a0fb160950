import VoomProof.Fallible
import VoomProof.PolicyParser

/-!
# What the parser returns

The cursor of the parser only moves forward: what is left after a call is a suffix of what was
left before it (`Follows`). So the texts in a syntax tree are parts of the source. The header of
a statement begins with its keyword, which is a whole identifier of it (`Headed`), and a
statement parsed with so many levels to go is no deeper than that (`Produced`).
-/

namespace Voom
open Fallible RustText List Option Bool

/-! ## Suffixes of the source -/

theorem skipGap_suffix (inComment : Bool) (t : Text) : skipGap inComment t <:+ t := by
  induction t generalizing inComment with
  | nil => cases inComment <;> exact suffix_refl []
  | cons c rest ih =>
    cases inComment with
    | true => exact (ih _).trans (suffix_cons c rest)
    | false =>
      rw [skipGap]
      split
      · exact (ih _).trans (suffix_cons c rest)
      · split
        · exact (ih _).trans (suffix_cons c rest)
        · exact suffix_refl _

/-- What comes behind a gap is no gap. -/
theorem skipGap_idem (inComment : Bool) (t : Text) :
    skipGap false (skipGap inComment t) = skipGap inComment t := by
  induction t generalizing inComment with
  | nil => cases inComment <;> rfl
  | cons c _ ih =>
    cases inComment with
    | true => exact ih _
    | false =>
      rw [skipGap]
      split
      · exact ih _
      case isFalse hspace =>
      split
      · exact ih _
      case isFalse hcomment => rw [skipGap, if_neg hspace, if_neg hcomment]

variable {t rest headerEnd closeBrace name between openBrace : Text}
  {value keyword ident : Spanned String} {nested rounds levels : Nat} {c close : Char}
  {start afterKeyword : Parser}

theorem closeQuote_suffix {value : Text} (h : closeQuote t = some (value, rest)) : rest <:+ t := by
  fun_induction closeQuote t generalizing value rest with
  | case1 => cases h
  | case2 t => cases h; exact suffix_cons _ _
  | case3 => cases h
  | case4 c t ih =>
    obtain ⟨⟨_, _⟩, hclose, heq⟩ := map_eq_some_iff.mp h
    cases heq
    exact (ih hclose).trans ((suffix_cons c t).trans (suffix_cons _ _))
  | case5 c t _ _ _ ih =>
    obtain ⟨⟨_, _⟩, hclose, heq⟩ := map_eq_some_iff.mp h
    cases heq
    exact (ih hclose).trans (suffix_cons c t)

namespace Parser

theorem scanHeader_suffix {keyword : String} {before : Option Char} {quote : ScanQuote}
    (h : scanHeader keyword before quote t = .ok headerEnd) : headerEnd <:+ t := by
  fun_induction scanHeader keyword before quote t with
  | case1 => cases h; exact suffix_refl []
  | case2 => cases h
  | case3 _ _ _ c rest ih | case6 _ c rest _ _ ih => exact (ih h).trans (suffix_cons c rest)
  | case4 | case5 => cases h; exact suffix_refl _

theorem scanBlock_suffix {quote : ScanQuote}
    (h : scanBlock nested quote t = .ok (some closeBrace)) : closeBrace <:+ t := by
  fun_induction scanBlock nested quote t with
  | case1 => cases h
  | case2 => cases h
  | case3 _ _ _ c rest ih | case7 _ c rest _ _ ih => exact (ih h).trans (suffix_cons c rest)
  | case4 => cases h; exact suffix_refl _
  | case5 rest _ ih | case6 _ rest _ ih => exact (ih h).trans (suffix_cons _ rest)

/-- The second parser stands behind the first, at the same depth. -/
structure Follows (p q : Parser) : Prop where
  rest : q.rest <:+ p.rest
  depth : q.depth = p.depth

namespace Follows
variable {p q r : Parser}

theorem refl (p : Parser) : Follows p p := ⟨suffix_refl _, rfl⟩

theorem trans (h : Follows p q) (h' : Follows q r) : Follows p r :=
  ⟨h'.rest.trans h.rest, h'.depth.trans h.depth⟩

theorem moveTo (h : rest <:+ p.rest) : Follows p (p.moveTo rest) := ⟨h, rfl⟩

theorem drop (n : Nat) : Follows p (p.moveTo (p.rest.drop n)) := moveTo (drop_suffix n _)

theorem skip : Follows p p.skipWsAndComments := moveTo (skipGap_suffix false p.rest)

theorem consumeLineComment : Follows p p.consumeLineComment := by
  unfold Parser.consumeLineComment
  split
  · exact moveTo (dropWhile_suffix _)
  · exact refl p

theorem parseIdentifier (h : p.parseIdentifier = .ok (ident, q)) : Follows p q := by
  unfold Parser.parseIdentifier at h
  dsimp only at h
  split at h
  · cases h
    exact skip.trans (drop _)
  · cases h

theorem expectByte (h : p.expectByte c = .ok q) : Follows p q := by
  unfold Parser.expectByte at h
  dsimp only at h
  split at h
  · cases h
    exact skip.trans (drop 1)
  · cases h

theorem parseString (h : p.parseString = .ok (value, q)) : Follows p q := by
  obtain ⟨r, hr, h⟩ := bind_ok.mp h
  split at h
  case h_1 rest hclose =>
    cases h
    exact skip.trans (moveTo ((closeQuote_suffix hclose).trans (expectByte hr).rest))
  case h_2 => cases h

end Follows

/-- What holds of every item of a loop, and where the loop ends. -/
theorem many_spec {α : Type} {stop : Parser → Except ParseError (Option Parser)}
    {item : Parser → Except ParseError (α × Parser)} {Q : α → Prop}
    (hstop : ∀ p q, stop p = .ok (some q) → Follows p q)
    (hitem : ∀ p a q, Follows start p → item p = .ok (a, q) → Q a ∧ Follows p q) {p q : Parser}
    {as : List α} (hp : Follows start p) (h : many stop item rounds p = .ok (as, q)) :
    (∀ a ∈ as, Q a) ∧ Follows p q := by
  induction rounds generalizing p as with
  | zero => cases h
  | succ _ ih =>
    obtain ⟨found, hfound, h⟩ := bind_ok.mp h
    cases found with
    | some r =>
      cases h
      exact ⟨fun a ha => (nomatch ha), Follows.skip.trans (hstop _ _ hfound)⟩
    | none =>
      obtain ⟨⟨a, r⟩, hr, h⟩ := bind_ok.mp h
      obtain ⟨⟨_, _⟩, hrest, h⟩ := bind_ok.mp h
      cases h
      obtain ⟨ha, hfol⟩ := hitem _ a r (hp.trans Follows.skip) hr
      obtain ⟨hall, hend⟩ := ih ((hp.trans Follows.skip).trans hfol) hrest
      exact ⟨forall_mem_cons.mpr ⟨ha, hall⟩, (Follows.skip.trans hfol).trans hend⟩

theorem closedBy_follows {message : String} {p q : Parser}
    (h : closedBy close message p = .ok (some q)) : Follows p q := by
  unfold closedBy at h
  split at h
  · cases h; exact Follows.drop 1
  · split at h <;> cases h

end Parser

/-! ## Values and settings -/

mutual

/-- How many lists a value is nested in, itself included. -/
def ExprAst.depth : ExprAst → Nat
  | .list values _ => exprsDepth values + 1
  | _ => 0

def exprsDepth : List ExprAst → Nat
  | [] => 0
  | value :: rest => max value.depth (exprsDepth rest)

end

/-- The depth of a list is that of the deepest of its entries. -/
theorem depths_le {α : Type} {depth : α → Nat} {depths : List α → Nat} (hnil : depths [] = 0)
    (hcons : ∀ a l, depths (a :: l) = max (depth a) (depths l)) {l : List α} {n : Nat}
    (h : ∀ a ∈ l, depth a ≤ n) : depths l ≤ n := by
  induction l with
  | nil => exact hnil ▸ Nat.zero_le n
  | cons a l ih =>
    obtain ⟨ha, hl⟩ := forall_mem_cons.mp h
    exact hcons a l ▸ Nat.max_le.mpr ⟨ha, ih hl⟩

theorem exprsDepth_le {values : List ExprAst} {n : Nat} (h : ∀ value ∈ values, value.depth ≤ n) :
    exprsDepth values ≤ n :=
  depths_le rfl (fun _ _ => rfl) h

theorem bareExpr_depth (token : Text) (span : SourceSpan) :
    (Parser.bareExpr token span).depth = 0 := by
  unfold Parser.bareExpr
  dsimp only
  split
  · rfl
  split
  · rfl
  · split
    · rfl
    · split <;> rfl

namespace Parser

variable {p q : Parser} {expr : ExprAst} {settings : List SettingAst}

theorem parseBare_spec (h : p.parseBare = .ok (expr, q)) : expr.depth = 0 ∧ Follows p q := by
  unfold parseBare at h
  dsimp only at h
  split at h
  · cases h
  · cases h
    exact ⟨bareExpr_depth _ _, Follows.drop _⟩

/-- Values of a list are no deeper than the parser of its elements goes. -/
theorem parseList_spec {parse : Parser → Except ParseError (ExprAst × Parser)} {n : Nat}
    (hparse : ∀ p expr q, parse p = .ok (expr, q) → expr.depth ≤ n ∧ Follows p q)
    (h : parseList parse p = .ok (expr, q)) : expr.depth ≤ n + 1 ∧ Follows p q := by
  obtain ⟨r, hopen, h⟩ := bind_ok.mp h
  dsimp only at h
  split at h
  · cases h
  obtain ⟨⟨_, s⟩, hmany, h⟩ := bind_ok.mp h
  cases h
  have hitem : ∀ p value q, listElement parse p = .ok (value, q) →
      value.depth ≤ n ∧ Follows p q := by
    intro p value q hvalue
    obtain ⟨⟨_, r⟩, hr, h⟩ := bind_ok.mp hvalue
    cases h
    obtain ⟨hdepth, hfol⟩ := hparse p value r hr
    refine ⟨hdepth, (hfol.trans Follows.skip).trans ?_⟩
    split
    · exact Follows.drop 1
    · exact Follows.refl _
  obtain ⟨hall, hend⟩ := many_spec (fun _ _ => closedBy_follows)
    (fun p value q _ => hitem p value q)
    (Follows.refl _) hmany
  exact ⟨Nat.succ_le_succ (exprsDepth_le hall),
    ⟨hend.rest.trans (Follows.expectByte hopen).rest, rfl⟩⟩

theorem parseExprAt_spec (h : parseExprAt levels p = .ok (expr, q)) :
    expr.depth ≤ levels ∧ Follows p q := by
  induction levels generalizing p q expr with
  | zero => cases h
  | succ _ ih =>
    rw [parseExprAt] at h
    split at h
    · obtain ⟨⟨_, r⟩, hr, h⟩ := bind_ok.mp h
      cases h
      exact ⟨Nat.zero_le _, Follows.skip.trans (Follows.parseString hr)⟩
    · split at h
      · obtain ⟨hdepth, hfol⟩ := parseList_spec (fun _ _ _ => ih) h
        exact ⟨hdepth, Follows.skip.trans hfol⟩
      · obtain ⟨hdepth, hfol⟩ := parseBare_spec h
        exact ⟨hdepth ▸ Nat.zero_le _, Follows.skip.trans hfol⟩

/-- The values of settings have a bounded depth. -/
def Shallow (setting : SettingAst) : Prop := setting.value.depth ≤ MAX_NESTING_DEPTH + 1

theorem parseSetting_spec {setting : SettingAst} (h : p.parseSetting = .ok (setting, q)) :
    Shallow setting ∧ Follows p q := by
  obtain ⟨⟨_, r⟩, hkey, h⟩ := bind_ok.mp h
  obtain ⟨_, hcolon, h⟩ := bind_ok.mp h
  obtain ⟨⟨_, s⟩, hvalue, h⟩ := bind_ok.mp h
  cases h
  obtain ⟨hdepth, hfol⟩ := parseExprAt_spec hvalue
  exact ⟨hdepth, ((Follows.parseIdentifier hkey).trans (Follows.expectByte hcolon)).trans hfol⟩

theorem parseSettingList_spec (h : p.parseSettingList = .ok (settings, q)) :
    (∀ s ∈ settings, Shallow s) ∧ Follows p q :=
  many_spec (fun _ _ => closedBy_follows) (fun _ _ _ _ => parseSetting_spec) (Follows.refl p) h

theorem parseSpaceSetting_spec {setting : SettingAst} (h : p.parseSpaceSetting = .ok (setting, q)) :
    Shallow setting ∧ Follows p q := by
  obtain ⟨⟨_, r⟩, hkey, h⟩ := bind_ok.mp h
  obtain ⟨⟨_, s⟩, hvalue, h⟩ := bind_ok.mp h
  cases h
  obtain ⟨hdepth, hfol⟩ := parseExprAt_spec hvalue
  exact ⟨hdepth, (Follows.parseIdentifier hkey).trans hfol⟩

theorem parseSpaceSettingList_spec (h : p.parseSpaceSettingList = .ok (settings, q)) :
    (∀ s ∈ settings, Shallow s) ∧ Follows p q :=
  many_spec (fun _ _ => closedBy_follows) (fun _ _ _ _ => parseSpaceSetting_spec) (Follows.refl p) h

theorem parseSettingBlock_spec (h : p.parseSettingBlock = .ok (settings, q)) :
    (∀ s ∈ settings, Shallow s) ∧ Follows p q := by
  obtain ⟨r, hopen, h⟩ := bind_ok.mp h
  obtain ⟨hall, hfol⟩ := parseSettingList_spec h
  exact ⟨hall, (Follows.expectByte hopen).trans hfol⟩

end Parser

/-! ## Headers -/

def IsIdentifier (name : Text) : Prop := name ≠ [] ∧ ∀ c ∈ name, isIdentContinue c = true

/-- The text begins with the keyword, as a whole identifier. -/
structure Headed (keyword : String) (text : Text) : Prop where
  ident : IsIdentifier keyword.toList
  begins : ∃ rest, text = keyword.toList ++ rest ∧ ∀ c ∈ rest.head?, isIdentContinue c = false

theorem isIdentContinue_of_start (h : isIdentStart c = true) : isIdentContinue c = true := by
  simp only [isIdentStart, isIdentContinue, Char.isAlphanum, or_eq_true] at h ⊢
  rcases h with h | h
  · exact .inl (.inl (.inl (.inl h)))
  · exact .inl (.inl (.inr h))

/-- Identifiers are ASCII, between the hyphen and the letter z. -/
theorem isIdentContinue_bounds (h : isIdentContinue c = true) : 45 ≤ c.toNat ∧ c.toNat ≤ 122 := by
  have hrange : ∀ lo hi : UInt32, (c.val ≥ lo && c.val ≤ hi) = true →
      lo.toNat ≤ c.toNat ∧ c.toNat ≤ hi.toNat := by
    intro _ _ hboth
    rw [and_eq_true, decide_eq_true_eq, decide_eq_true_eq] at hboth
    exact hboth
  change ((c.isUpper || c.isLower || c.isDigit) || c = '_' || c = '-' || c = '.') = true at h
  simp only [or_eq_true, decide_eq_true_eq] at h
  rcases h with ((((h | h) | h) | rfl) | rfl) | rfl
  · have hupper : 65 ≤ c.toNat ∧ c.toNat ≤ 90 := of_decide_eq_true h
    omega
  · have hlower : 97 ≤ c.toNat ∧ c.toNat ≤ 122 := hrange 'a'.val 'z'.val h
    omega
  · have hdigit : 48 ≤ c.toNat ∧ c.toNat ≤ 57 := hrange '0'.val '9'.val h
    omega
  all_goals decide

theorem not_isWhitespace_of_ident (h : isIdentContinue c = true) : isWhitespace c = false := by
  have := isIdentContinue_bounds h
  simp only [isWhitespace, or_eq_false_iff, and_eq_false_iff, decide_eq_false_iff_not]
  omega

theorem identifierAt_spec (h : identifierAt t = some name) :
    IsIdentifier name ∧ ∃ rest, t = name ++ rest ∧ ∀ c ∈ rest.head?, isIdentContinue c = false := by
  unfold identifierAt at h
  split at h
  · cases h
  case h_2 c rest =>
  split at h
  case isTrue hstart =>
    cases h
    refine ⟨⟨cons_ne_nil _ _, ?_⟩, rest.dropWhile isIdentContinue, ?_, ?_⟩
    · refine forall_mem_cons.mpr ⟨isIdentContinue_of_start hstart, fun d hd => ?_⟩
      exact all_eq_true.mp all_takeWhile d hd
    · rw [cons_append, takeWhile_append_dropWhile]
    · intro d hd
      have hhead := head?_dropWhile_not isIdentContinue rest
      rw [mem_def.mp hd] at hhead
      exact hhead
  case isFalse => cases h

/-- Trimming the end of a header leaves its keyword. -/
theorem headed_trim (hname : IsIdentifier name)
    (hhead : ∀ c ∈ between.head?, isIdentContinue c = false) :
    Headed (String.ofList name) (trim (name ++ between)) := by
  have hkeep : trim (name ++ between) = name ++ trimEndMatches isWhitespace between := by
    obtain ⟨hne, hall⟩ := hname
    rw [trim, trimStart_of_head, trimEndMatches_append]
    · intro c hc
      exact not_isWhitespace_of_ident (hall c (mem_of_getLast? hc))
    · intro c hc
      obtain ⟨d, _, rfl⟩ := exists_cons_of_ne_nil hne
      cases hc
      exact not_isWhitespace_of_ident (hall c mem_cons_self)
  rw [hkeep]
  refine ⟨by rwa [String.toList_ofList], _, by rw [String.toList_ofList], fun c hc => ?_⟩
  obtain ⟨_, htrail⟩ := trimEndMatches_isPrefix isWhitespace between
  refine hhead c ?_
  rw [← htrail, head?_append, mem_def.mp hc]
  rfl

/-! ## Statements -/

/-- A statement that was parsed out of the source with `n` levels to go. -/
inductive Produced (source : Text) : Nat → StatementAst → Prop where
  | raw {n : Nat} {keyword : Spanned String} {text : Text} {span : SourceSpan}
      (headed : Headed keyword.value text) (within : text <:+: source) :
      Produced source (n + 1) (.raw keyword text span)
  | block {n : Nat} {keyword : Spanned String} {name : Option (Spanned Text)}
      {statements : List StatementAst} {span : SourceSpan}
      (ident : IsIdentifier keyword.value.toList)
      (nested : keyword.value ≠ "transcode" ∧ keyword.value ≠ "synthesize")
      (within : ∀ header ∈ name, header.value ≠ [] ∧ header.value <:+: source)
      (inner : ∀ s ∈ statements, Produced source n s) :
      Produced source (n + 1) (.block keyword name statements span)
  | transcode {n : Nat} {keyword : Spanned String} {header : Text} {settings : List SettingAst}
      {span : SourceSpan} (keyword_eq : keyword.value = "transcode")
      (headed : Headed keyword.value header) (within : header <:+: source)
      (shallow : ∀ s ∈ settings, Parser.Shallow s) :
      Produced source (n + 1) (.transcodeInline keyword header settings span)
  | synthesize {n : Nat} {keyword : Spanned String} {header : Text} {settings : List SettingAst}
      {span : SourceSpan} (keyword_eq : keyword.value = "synthesize")
      (headed : Headed keyword.value header) (within : header <:+: source)
      (shallow : ∀ s ∈ settings, Parser.Shallow s) :
      Produced source (n + 1) (.synthesizeInline keyword header settings span)

namespace Parser

variable {p q : Parser} {statement : StatementAst}

theorem upTo_append {before : Text} (h : p.rest = before ++ rest) : p.upTo rest = before := by
  rw [upTo, h, length_append, Nat.add_sub_cancel, take_left]

theorem skip_skip (p : Parser) : p.skipWsAndComments.skipWsAndComments = p.skipWsAndComments := by
  simp [skipWsAndComments, moveTo, position, skipGap_idem]

/-- The keyword, a whole identifier, is what `q` has behind it and `p` not. -/
structure Keyworded (p : Parser) (keyword : String) (q : Parser) : Prop where
  ident : IsIdentifier keyword.toList
  rest : p.rest = keyword.toList ++ q.rest
  head : ∀ c ∈ q.rest.head?, isIdentContinue c = false

theorem parseIdentifier_spec (h : p.skipWsAndComments.parseIdentifier = .ok (ident, q)) :
    Keyworded p.skipWsAndComments ident.value q := by
  simp only [parseIdentifier, skip_skip] at h
  split at h
  case h_1 name hname =>
    cases h
    obtain ⟨_, rest, hrest, hhead⟩ := identifierAt_spec hname
    have hdrop : p.skipWsAndComments.rest.drop name.length = rest := by
      rw [hrest, drop_left]
    refine ⟨by rwa [String.toList_ofList], ?_, ?_⟩
    · rw [String.toList_ofList]
      exact hrest.trans (congrArg _ hdrop.symm)
    · exact fun c hc => hhead c (hdrop ▸ hc)
  case h_2 => cases h

section Statement
variable {source : Text} {n : Nat} {parse : Parser → Except ParseError (StatementAst × Parser)}
  (hparse : ∀ p s q, p.rest <:+ source → parse p = .ok (s, q) → Produced source n s ∧ Follows p q)

/-- The header up to a later point, trimmed. -/
theorem headed_upTo (hsrc : start.rest <:+ source)
    (hkw : Keyworded start keyword.value afterKeyword) (hrest : rest <:+ afterKeyword.rest) :
    Headed keyword.value (trim (start.upTo rest)) ∧ trim (start.upTo rest) <:+: source := by
  obtain ⟨between, hbetween⟩ := hrest
  have hup : start.upTo rest = keyword.value.toList ++ between :=
    upTo_append (by rw [hkw.rest, ← hbetween, append_assoc])
  constructor
  · have hbetween' : ∀ c ∈ between.head?, isIdentContinue c = false := by
      intro c hc
      refine hkw.head c ?_
      rw [← hbetween, head?_append, mem_def.mp hc]
      rfl
    have hheaded := headed_trim hkw.ident hbetween'
    rwa [String.ofList_toList, ← hup] at hheaded
  · exact (trim_isInfix _).trans (( take_prefix _ _).isInfix.trans hsrc.isInfix)

include hparse

theorem parseBody_spec (hsrc : start.rest <:+ source)
    (hafter : Keyworded start keyword.value afterKeyword) (hopen : openBrace <:+ afterKeyword.rest)
    (h : parseBody parse start afterKeyword keyword openBrace closeBrace = .ok statement) :
    Produced source (n + 1) statement := by
  obtain ⟨hheaded, hwithin⟩ := headed_upTo hsrc hafter hopen
  have hrest : afterKeyword.rest <:+ source :=
    (hafter.rest ▸ suffix_append _ _ : afterKeyword.rest <:+ start.rest).trans hsrc
  unfold parseBody at h
  split at h
  case isTrue hkw =>
    obtain ⟨⟨_, q⟩, hsettings, h⟩ := bind_ok.mp h
    cases h
    exact .transcode hkw hheaded hwithin (parseSettingList_spec hsettings).1
  case isFalse htranscode =>
  split at h
  case isTrue hkw =>
    obtain ⟨⟨_, q⟩, hsettings, h⟩ := bind_ok.mp h
    cases h
    exact .synthesize hkw hheaded hwithin (parseSpaceSettingList_spec hsettings).1
  case isFalse hsyn =>
  obtain ⟨⟨_, q⟩, hstmts, h⟩ := bind_ok.mp h
  cases h
  refine .block hafter.ident ⟨htranscode, hsyn⟩ ?_ ?_
  · intro _ hhead
    unfold statementBlockName at hhead
    dsimp only at hhead
    split at hhead
    · cases hhead
    case isFalse hne =>
      cases hhead
      exact ⟨hne, (trim_isInfix _).trans (( take_prefix _ _).isInfix.trans hrest.isInfix)⟩
  · refine (many_spec (fun p q hq => ?_) (fun p s q hp => hparse p s q ?_)
      (Follows.refl _) hstmts).1
    · split at hq
      · cases hq; exact Follows.refl p
      · cases hq
    · exact hp.rest.trans ((drop_suffix 1 _).trans (hopen.trans hrest))

theorem parseStatementWith_spec {p q : Parser} (hsrc : p.rest <:+ source)
    (h : parseStatementWith parse p = .ok (statement, q)) :
    Produced source (n + 1) statement ∧ Follows p q := by
  unfold parseStatementWith at h
  split at h
  · cases h
  obtain ⟨⟨_, afterKeyword⟩, hkw, h⟩ := bind_ok.mp h
  obtain ⟨_, hhead, h⟩ := bind_ok.mp h
  have hspec := parseIdentifier_spec hkw
  have hend := scanHeader_suffix (mapError_ok.mp hhead)
  have hstart' : p.skipWsAndComments.rest <:+ source := Follows.skip.rest.trans hsrc
  have hafter : afterKeyword.rest <:+ p.skipWsAndComments.rest :=
    hspec.rest ▸ suffix_append _ _
  split at h
  · obtain ⟨closing, hclosing, h⟩ := bind_ok.mp h
    cases closing with
    | none => cases h
    | some closeBrace =>
      obtain ⟨_, hbody, h⟩ := bind_ok.mp h
      cases h
      have hclose : closeBrace <:+ p.skipWsAndComments.rest :=
        (scanBlock_suffix (mapError_ok.mp hclosing)).trans
          ((drop_suffix 1 _).trans (hend.trans hafter))
      exact ⟨parseBody_spec hparse hstart' hspec hend hbody,
        Follows.skip.trans ((Follows.moveTo ((drop_suffix 1 _).trans hclose)).trans
          Follows.consumeLineComment)⟩
  · cases h
    obtain ⟨hheaded, hwithin⟩ := headed_upTo hstart' hspec hend
    exact ⟨.raw hheaded hwithin,
      Follows.skip.trans ((Follows.moveTo (hend.trans hafter)).trans Follows.consumeLineComment)⟩

end Statement

theorem parseStatementAt_spec {source : Text} (hsrc : p.rest <:+ source)
    (h : parseStatementAt levels p = .ok (statement, q)) :
    Produced source levels statement ∧ Follows p q := by
  induction levels generalizing p q statement with
  | zero => cases h
  | succ _ ih => exact parseStatementWith_spec (fun _ _ _ => ih) hsrc h

/-! ## The policy -/

theorem Follows.expectKeyword {keyword : String} (h : p.expectKeyword keyword = .ok q) :
    Follows p q := by
  obtain ⟨⟨_, t⟩, hident, h⟩ := bind_ok.mp h
  dsimp only at h
  split at h
  · cases h
    exact .parseIdentifier hident
  · cases h

/-- How deep a statement of a phase can be. -/
def MAX_LEVELS : Nat := MAX_NESTING_DEPTH + 2

theorem parsePhase_spec {source : Text} {phase : PhaseAst} (hsrc : p.rest <:+ source)
    (h : p.parsePhase = .ok (phase, q)) : (∀ s ∈ phase.controls, Produced source MAX_LEVELS s) ∧
      (∀ s ∈ phase.operations, Produced source MAX_LEVELS s) ∧ Follows p q := by
  obtain ⟨r, hkw, h⟩ := bind_ok.mp h
  obtain ⟨⟨_, _⟩, hname, h⟩ := bind_ok.mp h
  obtain ⟨r'', hopen, h⟩ := bind_ok.mp h
  obtain ⟨⟨_, s⟩, hstmts, h⟩ := bind_ok.mp h
  cases h
  have hin : Follows p r'' :=
    ((Follows.expectKeyword hkw).trans (Follows.parseIdentifier hname)).trans
      (Follows.expectByte hopen)
  obtain ⟨hall, hend⟩ := many_spec (fun _ _ => closedBy_follows)
    (fun p s q hp => parseStatementAt_spec (hp.rest.trans (hin.rest.trans hsrc)))
    (Follows.refl _) hstmts
  exact ⟨fun s hs => hall s (mem_filter.mp hs).1, fun s hs => hall s (mem_filter.mp hs).1,
    hin.trans hend⟩

/-- What an item of the policy is made of. -/
def ItemProduced (source : Text) : PolicyItem → Prop
  | .extends _ => True
  | .metadata settings | .config settings => ∀ s ∈ settings, Shallow s
  | .phase phase => (∀ s ∈ phase.controls, Produced source MAX_LEVELS s) ∧
      ∀ s ∈ phase.operations, Produced source MAX_LEVELS s
  | .unknown statement => Produced source MAX_LEVELS statement

theorem map_ok {α β : Type} {x : Except ParseError (α × Parser)} {f : α → β} {b : β}
    (h : (x.map fun (v, q) => (f v, q)) = .ok (b, q)) : ∃ a, x = .ok (a, q) ∧ f a = b := by
  rcases x with e | ⟨a, r⟩
  · cases h
  · cases h
    exact ⟨a, rfl, rfl⟩

theorem parsePolicyItem_spec {source : Text} {item : PolicyItem} (hsrc : p.rest <:+ source)
    (h : p.parsePolicyItem = .ok (item, q)) : ItemProduced source item ∧ Follows p q := by
  unfold parsePolicyItem at h
  split at h
  · cases h
  split at h
  · obtain ⟨_, hparent, rfl⟩ := map_ok h
    exact ⟨trivial, (Follows.drop _).trans (Follows.parseString hparent)⟩
  split at h
  · obtain ⟨_, hsettings, rfl⟩ := map_ok h
    obtain ⟨hall, hfol⟩ := parseSettingBlock_spec hsettings
    exact ⟨hall, (Follows.drop _).trans hfol⟩
  · split at h
    · obtain ⟨_, hsettings, rfl⟩ := map_ok h
      obtain ⟨hall, hfol⟩ := parseSettingBlock_spec hsettings
      exact ⟨hall, (Follows.drop _).trans hfol⟩
    · split at h
      · obtain ⟨_, hphase, rfl⟩ := map_ok h
        obtain ⟨hctls, hops, hfol⟩ := parsePhase_spec hsrc hphase
        exact ⟨⟨hctls, hops⟩, hfol⟩
      · obtain ⟨_, hstmt, rfl⟩ := map_ok h
        exact parseStatementAt_spec hsrc hstmt

end Parser

open Voom.Parser in
/-- A syntax tree that was parsed out of the source. -/
structure PolicyAst.Parsed (source : Text) (ast : PolicyAst) : Prop where
  metadata : ∀ s ∈ ast.metadata, Shallow s
  config : ∀ s ∈ ast.config, Shallow s
  controls : ∀ phase ∈ ast.phases, ∀ s ∈ phase.controls, Produced source MAX_LEVELS s
  operations : ∀ phase ∈ ast.phases, ∀ s ∈ phase.operations, Produced source MAX_LEVELS s
  unknown : ∀ s ∈ ast.unknownTopLevel, Produced source MAX_LEVELS s

namespace Parser

theorem addItem_parsed {source : Text} {ast : PolicyAst} {item : PolicyItem}
    (h : ast.Parsed source) (hitem : ItemProduced source item) :
    (addItem ast item).Parsed source := by
  cases item with
  | «extends» parent => exact { h with }
  | metadata => exact { h with metadata := hitem }
  | config => exact { h with config := hitem }
  | phase =>
    exact { h with
      controls := forall_mem_append.mpr ⟨h.controls, forall_mem_singleton.mpr hitem.1⟩
      operations := forall_mem_append.mpr ⟨h.operations, forall_mem_singleton.mpr hitem.2⟩ }
  | unknown =>
    exact { h with unknown := forall_mem_append.mpr ⟨h.unknown, forall_mem_singleton.mpr hitem⟩ }

end Parser

open Voom.Parser in
theorem parsePolicySource_parsed {source : Text} {ast : PolicyAst}
    (h : parsePolicySource source = .ok ast) : ast.Parsed source := by
  obtain ⟨r, hkw, h⟩ := bind_ok.mp h
  obtain ⟨⟨_, _⟩, hname, h⟩ := bind_ok.mp h
  obtain ⟨r'', hopen, h⟩ := bind_ok.mp h
  obtain ⟨⟨items, q⟩, hitems, h⟩ := bind_ok.mp h
  have hin : r''.rest <:+ source :=
    (((Follows.expectKeyword hkw).trans (Follows.parseString hname)).trans
      (Follows.expectByte hopen)).rest
  obtain ⟨hall, -⟩ := many_spec (fun _ _ => closedBy_follows)
    (fun p _ q hp => parsePolicyItem_spec (hp.rest.trans hin)) (Follows.refl _) hitems
  have hfold : ∀ (items : List PolicyItem) (ast : PolicyAst), ast.Parsed source →
      (∀ item ∈ items, ItemProduced source item) → (items.foldl addItem ast).Parsed source := by
    intro items
    induction items with
    | nil => exact fun _ hast _ => hast
    | cons _ _ ih =>
      intro _ hast hitems
      obtain ⟨hitem, hrest⟩ := forall_mem_cons.mp hitems
      exact ih _ (addItem_parsed hast hitem) hrest
  dsimp only at h
  split at h
  · cases h
    exact hfold items _ ⟨nofun, nofun, nofun, nofun, nofun⟩ hall
  · cases h

end Voom
