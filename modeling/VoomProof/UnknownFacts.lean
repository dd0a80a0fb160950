import VoomProof.PlanBuilder
import VoomProof.ThreeValued

/-!
# What is not known of a file

`planner.rs`, `planner/remux/selection.rs` and `planner/audio/selection.rs` of `voom-plan`
answer questions about a file of which some facts are missing. A condition, and a filter in
either evaluator, is a tree over leaves that have an answer or none: the loops of the source are
the operators of `ThreeValued`. So what holds of the leaves holds of the tree: a fact filled in
later changes no answer given without it.

The leaves of the audio evaluator are the exception: it reads an absent or malformed flag
as `false`, and a malformed language as none.
-/

namespace Voom.Planner
open Fallible RustText ThreeValued List Option

/-! ## Conditions -/

def ConditionEval.answer : ConditionEval → Option Bool
  | matched => some true
  | notMatched => some false
  | unknown => none

theorem ConditionEval.answer_injective : Function.Injective answer := by
  intro v w h
  cases v <;> cases w <;> first | rfl | cases h

theorem ConditionEval.answer_negate (v : ConditionEval) : v.negate.answer = v.answer.map not := by
  cases v <;> rfl

/-- What is known of a condition. -/
def conditionAnswer (snapshot : MediaSnapshot) (condition : CompiledCondition) : Option Bool :=
  (evaluateCondition condition snapshot).answer

section Conditions
variable {snapshot filled : MediaSnapshot}

theorem evaluateAll_answer (conditions : List CompiledCondition) (sawUnknown : Bool) :
    (evaluateAll conditions snapshot sawUnknown).answer =
      scan false (conditions.map (conditionAnswer snapshot)) sawUnknown := by
  induction conditions generalizing sawUnknown with
  | nil => cases sawUnknown <;> rfl
  | cons condition _ ih =>
    rw [evaluateAll, map_cons, conditionAnswer]
    cases evaluateCondition condition snapshot with
    | matched => exact ih sawUnknown
    | notMatched => rfl
    | unknown => exact ih true

theorem evaluateAny_answer (conditions : List CompiledCondition) (sawUnknown : Bool) :
    (evaluateAny conditions snapshot sawUnknown).answer =
      scan true (conditions.map (conditionAnswer snapshot)) sawUnknown := by
  induction conditions generalizing sawUnknown with
  | nil => cases sawUnknown <;> rfl
  | cons condition _ ih =>
    rw [evaluateAny, map_cons, conditionAnswer]
    cases evaluateCondition condition snapshot with
    | matched => rfl
    | notMatched => exact ih sawUnknown
    | unknown => exact ih true

theorem conditionAnswer_and (conditions : List CompiledCondition) :
    conditionAnswer snapshot (.and conditions) =
      decidedBy false (conditions.map (conditionAnswer snapshot)) := by
  rw [conditionAnswer, evaluateCondition, evaluateAll_answer, scan_start]

theorem conditionAnswer_or (conditions : List CompiledCondition) :
    conditionAnswer snapshot (.or conditions) =
      decidedBy true (conditions.map (conditionAnswer snapshot)) := by
  rw [conditionAnswer, evaluateCondition, evaluateAny_answer, scan_start]

theorem conditionAnswer_not (condition : CompiledCondition) :
    conditionAnswer snapshot (.not condition) = (conditionAnswer snapshot condition).map not := by
  rw [conditionAnswer, evaluateCondition, ConditionEval.answer_negate]
  rfl

/-- No leaf asks if a field is there. -/
inductive WithoutFieldExists : CompiledCondition → Prop
  | exists (target : TrackTarget) (filter : Option TrackFilter) :
      WithoutFieldExists (.exists target filter)
  | count (target : TrackTarget) (op : ComparisonOp) (value : Nat) :
      WithoutFieldExists (.count target op value)
  | fieldComparison (path : List String) (op : ComparisonOp) (value : CompiledValue) :
      WithoutFieldExists (.fieldComparison path op value)
  | predicate (name : String) : WithoutFieldExists (.predicate name)
  | not {inner : CompiledCondition} : WithoutFieldExists inner → WithoutFieldExists (.not inner)
  | and {conditions : List CompiledCondition} :
      (∀ condition ∈ conditions, WithoutFieldExists condition) →
        WithoutFieldExists (.and conditions)
  | or {conditions : List CompiledCondition} :
      (∀ condition ∈ conditions, WithoutFieldExists condition) → WithoutFieldExists (.or conditions)

/-- A stream that is known better is of the same kind, or a video stream that turns out to be
cover art. -/
def SameKind (stream filled : SnapshotStreamFact) : Prop :=
  filled.kind = stream.kind ∨ stream.kind = .video ∧ filled.kind = .attachment

/-- `filled` has every fact that `snapshot` has: the fields that are present, and the streams
where they are valid. -/
structure FillsIn (snapshot filled : MediaSnapshot) : Prop where
  fields : ∀ field value, fieldOf snapshot field = some value → fieldOf filled field = some value
  streams : ∀ facts, streamFacts snapshot.toMediaSnapshotInput = .ok facts →
    ∃ known, streamFacts filled.toMediaSnapshotInput = .ok known ∧
      List.Forall₂ SameKind facts known

theorem snapshotField_filled (h : FillsIn snapshot filled) {path : List String}
    {value : SnapshotFieldValue} (hvalue : snapshotField path snapshot = some value) :
    snapshotField path filled = some value := by
  obtain ⟨field, hfield, hvalue⟩ := bind_eq_some_iff.mp hvalue
  exact bind_eq_some_iff.mpr ⟨field, hfield, h.fields field value hvalue⟩

theorem conditionValue_filled (h : FillsIn snapshot filled) {value : CompiledValue}
    {right : SnapshotFieldValue} (hright : conditionValue snapshot value = some right) :
    conditionValue filled value = some right := by
  cases value with
  | fieldPath => exact snapshotField_filled h hright
  | _ => exact hright

/-- A kind that is not among those of cover art is counted alike. -/
theorem countP_sameKind {target : TrackTarget} (htgt : target = .audio ∨ target = .subtitle)
    {facts known : List SnapshotStreamFact} (h : List.Forall₂ SameKind facts known) :
    known.countP (·.kind = target) = facts.countP (·.kind = target) := by
  induction h with
  | nil => rfl
  | cons hkind _ ih =>
    rw [countP_cons, countP_cons, ih]
    rcases hkind with hsame | ⟨hvideo, hcover⟩
    · rw [hsame]
    · rw [hvideo, hcover]
      rcases htgt with rfl | rfl <;> rfl

section
variable (h : FillsIn snapshot filled)
include h

theorem streamTargetCount_filled {target : TrackTarget} {count : Nat}
    (hcount : streamTargetCount target snapshot = some count) :
    streamTargetCount target filled = some count := by
  unfold streamTargetCount at hcount ⊢
  split_ifs at hcount ⊢ with htgt
  cases hfacts : streamFacts snapshot.toMediaSnapshotInput with
  | error =>
    rw [hfacts] at hcount
    cases hcount
  | ok facts =>
    obtain ⟨_, hknown, hkinds⟩ := h.streams facts hfacts
    rw [hfacts] at hcount
    rw [hknown, ← hcount]
    exact congrArg some (countP_sameKind htgt hkinds)

/-- A question about the count of streams, asked again. -/
theorem countAnswer_filled (target : TrackTarget) (ask : Nat → ConditionEval)
    {answer : Option Nat → ConditionEval}
    (hans : answer = fun count => match count with | some count => ask count | none => .unknown) :
    Keeps (answer (streamTargetCount target snapshot)).answer
      (answer (streamTargetCount target filled)).answer := by
  subst hans
  intro b hb
  cases hcount : streamTargetCount target snapshot with
  | none =>
    rw [hcount] at hb
    cases hb
  | some => rwa [streamTargetCount_filled h hcount, ← hcount]

theorem conditionAnswer_filled {condition : CompiledCondition}
    (hcond : WithoutFieldExists condition) :
    Keeps (conditionAnswer snapshot condition) (conditionAnswer filled condition) := by
  induction hcond with
  | «exists» target filter =>
    cases filter with
    | none => exact countAnswer_filled h target _ rfl
    | some => exact fun b hb => nomatch hb
  | count target => exact countAnswer_filled h target _ rfl
  | fieldComparison =>
    intro b hb
    simp only [conditionAnswer, evaluateCondition, evaluateFieldComparison] at hb ⊢
    split at hb
    case h_1 hleft hright =>
      rw [snapshotField_filled h hleft, conditionValue_filled h hright]
      exact hb
    case h_2 => cases hb
  | predicate => exact fun b hb => nomatch hb
  | not _ ih =>
    rw [conditionAnswer_not, conditionAnswer_not]
    exact ih.map not
  | and _ ih =>
    rw [conditionAnswer_and, conditionAnswer_and]
    exact decidedBy_keeps ih
  | or _ ih =>
    rw [conditionAnswer_or, conditionAnswer_or]
    exact decidedBy_keeps ih

end

end Conditions

/-- A condition never guesses: what it answers, it answers with more facts too, and its answer
is not a matter of the order of its parts. -/
theorem evaluateCondition_never_guesses :
    (∀ condition, WithoutFieldExists condition → ∀ snapshot filled, FillsIn snapshot filled →
      evaluateCondition condition snapshot ≠ .unknown →
        evaluateCondition condition filled = evaluateCondition condition snapshot) ∧
    ∀ (conditions reordered : List CompiledCondition) snapshot, conditions.Perm reordered →
      evaluateCondition (.and reordered) snapshot = evaluateCondition (.and conditions) snapshot ∧
      evaluateCondition (.or reordered) snapshot = evaluateCondition (.or conditions) snapshot := by
  constructor
  · intro condition hcondition snapshot _ hfilled hknown
    have hkeeps := conditionAnswer_filled hfilled hcondition
    apply ConditionEval.answer_injective
    cases hanswer : evaluateCondition condition snapshot with
    | unknown => exact absurd hanswer hknown
    | matched => exact hkeeps true (congrArg ConditionEval.answer hanswer)
    | notMatched => exact hkeeps false (congrArg ConditionEval.answer hanswer)
  · intro _ _ snapshot horder
    have hanswers := horder.symm.map (conditionAnswer snapshot)
    constructor <;> apply ConditionEval.answer_injective <;>
      show conditionAnswer snapshot _ = conditionAnswer snapshot _
    · rw [conditionAnswer_and, conditionAnswer_and, decidedBy_perm hanswers]
    · rw [conditionAnswer_or, conditionAnswer_or, decidedBy_perm hanswers]

/-- A file of which the scan knows the height, and may know the width and the streams. -/
def scannedFile (width : Option Nat) (streams : List (String × Json)) : MediaSnapshot where
  existingMediaSnapshotId := none
  container := none
  streamSummary := .object streams
  target := .stored .fileVersion 1
  videoCodec := none
  width := width
  height := some 1080
  hdr := none
  bitrate := none
  durationMillis := none

/-- The height decides before the width and the streams are known, and after. -/
theorem height_decides_alone :
    evaluateCondition (.or [.fieldComparison ["width"] .gte (.number "1280"),
      .count .audio .gt 0, .fieldComparison ["video", "height"] .gt (.number "720")])
      (scannedFile (some 640) [("streams", .array [])]) = .matched := by
  have hfills : FillsIn (scannedFile none [])
      (scannedFile (some 640) [("streams", .array [])]) := by
    constructor
    · intro field _ hvalue
      cases field with
      | width => cases hvalue
      | _ => exact hvalue
    · intro _ hfacts
      cases hfacts
  refine (evaluateCondition_never_guesses.1 _ (.or fun _ hcondition => ?_) _ _ hfills
    (by decide +kernel)).trans (by decide +kernel)
  simp only [mem_cons, not_mem_nil, or_false] at hcondition
  rcases hcondition with rfl | rfl | rfl
  · exact .fieldComparison _ _ _
  · exact .count _ _ _
  · exact .fieldComparison _ _ _

/-! ## Filters -/

/-- A filter over leaves that satisfy `Leaf`. -/
inductive Built (Leaf : TrackFilter → Prop) : TrackFilter → Prop
  | leaf {filter : TrackFilter} : Leaf filter → Built Leaf filter
  | not {inner : TrackFilter} : Built Leaf inner → Built Leaf (.not inner)
  | and {filters : List TrackFilter} :
      (∀ filter ∈ filters, Built Leaf filter) → Built Leaf (.and filters)
  | or {filters : List TrackFilter} :
      (∀ filter ∈ filters, Built Leaf filter) → Built Leaf (.or filters)

variable {ε : Type}

theorem known_find {e : ε} (answer : Option Bool) : Known e (find answer e) := by
  cases answer <;> rfl

theorem known_map {α : Type} {e : ε} (fact : Option α) (f : α → Bool) :
    Known e (do return f (← find fact e)) := by
  cases fact <;> rfl

theorem known_required (fact : SnapshotFact Bool) :
    Known .insufficientSnapshotFacts (requiredFact fact) := by
  cases fact <;> rfl

variable {value b : Bool} {filters : List TrackFilter}

theorem toOption_eq_some {x : Except ε Bool} : x.toOption = some b ↔ x = .ok b := by
  cases x <;> simp [Except.toOption]

theorem find_keeps {ε' α : Type} {e : ε} {e' : ε'} {fact fact' : Option α} (h : Keeps fact fact')
    {f : α → Bool} (hb : (do return f (← find fact e)) = Except.ok b) :
    (do return f (← find fact' e')) = Except.ok b := by
  simp only [bind_ok, find_ok, return_ok] at hb ⊢
  obtain ⟨a, ha, rfl⟩ := hb
  exact ⟨a, h a ha, rfl⟩

/-- What the answers of a list of filters are combined to, by a call that fails for want of an
answer. -/
def Combines {ε : Type} (e : ε) (eval : TrackFilter → Except ε Bool)
    (node : List TrackFilter → TrackFilter) (combine : List (Option Bool) → Option Bool) : Prop :=
  ∀ filters, (∀ f ∈ filters, Known e (eval f)) →
    eval (node filters) = find (combine (filters.map fun f => (eval f).toOption)) e

/-- An evaluation of filters: a conjunction is one of `conj`, and a disjunction is decided by a
match. -/
structure Evaluates {ε : Type} (e : ε) (Leaf : TrackFilter → Prop)
    (conj : List (Option Bool) → Option Bool) (eval : TrackFilter → Except ε Bool) : Prop where
  leaf : ∀ filter, Leaf filter → Known e (eval filter)
  not : ∀ inner, eval (.not inner) = do return !(← eval inner)
  and : Combines e eval .and conj
  or : Combines e eval .or (decidedBy true)

section Evaluates
variable {ε ε' : Type} {e : ε} {e' : ε'} {Leaf : TrackFilter → Prop}
  {conj conj' : List (Option Bool) → Option Bool} {eval : TrackFilter → Except ε Bool}
  {eval' : TrackFilter → Except ε' Bool} {filter : TrackFilter}

theorem Evaluates.known (h : Evaluates e Leaf conj eval) (hfilt : Built Leaf filter) :
    Known e (eval filter) := by
  induction hfilt with
  | leaf hfilt => exact h.leaf _ hfilt
  | not _ ih =>
    rw [h.not, ih]
    exact known_map _ _
  | and _ ih =>
    rw [h.and _ ih]
    exact known_find _
  | or _ ih =>
    rw [h.or _ ih]
    exact known_find _

/-- Where every leaf keeps its answer, so does every filter. -/
theorem Evaluates.keeps (h : Evaluates e Leaf conj eval) (h' : Evaluates e' Leaf conj' eval')
    (hconj : ∀ {l : List TrackFilter} {f g : TrackFilter → Option Bool},
      (∀ a ∈ l, Keeps (f a) (g a)) → Keeps (conj (l.map f)) (conj' (l.map g)))
    (hleaf : ∀ filter, Leaf filter → ∀ b, eval filter = .ok b → eval' filter = .ok b)
    (hfilt : Built Leaf filter) : Keeps (eval filter).toOption (eval' filter).toOption := by
  have toOption_find {ε : Type} (e : ε) (v : Option Bool) : (find v e).toOption = v := by
    cases v <;> rfl
  induction hfilt with
  | leaf hfilt =>
    intro b hb
    exact toOption_eq_some.mpr (hleaf _ hfilt b (toOption_eq_some.mp hb))
  | @not _ _ ih =>
    have hnot {ε : Type} (x : Except ε Bool) :
        (do return !(← x) : Except ε Bool).toOption = x.toOption.map Bool.not := by
      cases x <;> rfl
    rw [h.not, h'.not, hnot, hnot]
    exact ih.map Bool.not
  | and hfilts ih =>
    rw [h.and _ fun f hf => h.known (hfilts f hf), h'.and _ fun f hf => h'.known (hfilts f hf),
      toOption_find, toOption_find]
    exact hconj ih
  | or hfilts ih =>
    rw [h.or _ fun f hf => h.known (hfilts f hf), h'.or _ fun f hf => h'.known (hfilts f hf),
      toOption_find, toOption_find]
    exact decidedBy_keeps ih

end Evaluates

/-! ### Filters of a remux -/

section Remux
variable {stream : SnapshotStreamFact}

/-- The leaves that a remux can evaluate. -/
def RemuxLeaf : TrackFilter → Prop
  | .titleMatches _ | .not _ | .and _ | .or _ => False
  | _ => True

/-- The conjunction goes on after a filter that does not match, to see that the others have
an answer. -/
theorem evaluateAnd_answers (matched : Bool)
    (h : ∀ f ∈ filters, Known .insufficientSnapshotFacts (evaluateFilter f stream)) :
    evaluateAnd filters stream matched =
      find (strict (some matched :: filters.map fun f => (evaluateFilter f stream).toOption))
        .insufficientSnapshotFacts := by
  induction filters generalizing matched with
  | nil => cases matched <;> rfl
  | cons filter _ ih =>
    obtain ⟨hfilt, hrest⟩ := forall_mem_cons.mp h
    rw [evaluateAnd, hfilt, map_cons]
    rcases (evaluateFilter filter stream).toOption with _ | this
    · rfl
    · rw [strict_known]
      exact ih _ hrest

theorem remux_evaluates (stream : SnapshotStreamFact) {Leaf : TrackFilter → Prop}
    (hleaf : ∀ filter, Leaf filter → RemuxLeaf filter) :
    Evaluates .insufficientSnapshotFacts Leaf strict (evaluateFilter · stream) where
  leaf filter hfilt := by
    cases filter with
    | languageIn =>
      simp only [evaluateFilter, languageOf]
      cases stream.language <;> rfl
    | codecIn values => exact known_map stream.codecName (· ∈ values)
    | channels op value => exact known_map stream.channels (compareU64 · op value)
    | titleContains value => exact known_map stream.title (value.toList <:+: ·.toList)
    | commentary => exact known_required stream.commentary
    | forced => exact known_required stream.isForced
    | default => exact known_required stream.isDefault
    | font =>
      simp only [evaluateFilter, evaluateFontFilter]
      split
      · rfl
      · exact known_map stream.mimeType (· ∈ FONT_ATTACHMENT_MIME_TYPES)
    | _ => exact (hleaf _ hfilt).elim
  not inner := by simp only [evaluateFilter]
  and filters h := by
    simp only [evaluateFilter, evaluateAnd_answers true h]
    simp [strict, decidedBy]
  or filters h := by
    refine loop_eq_find (evaluateOr · stream) (fun _ => rfl)
      (fun _ _ _ b hb => ?_) (fun _ _ _ he => ?_) h
    · rw [evaluateOr, hb]
      cases b <;> rfl
    · rw [evaluateOr, he]

end Remux

def factValue {α : Type} : SnapshotFact α → Option α
  | .value a => some a
  | .missing | .malformed => none

/-- `filled` has every fact of `stream` that a filter reads, where no language is the language
`und`. -/
structure StreamFillsIn (stream filled : SnapshotStreamFact) : Prop where
  kind : filled.kind = stream.kind
  attachedPicture : filled.attachedPicture = stream.attachedPicture
  codecName : Keeps stream.codecName filled.codecName
  channels : Keeps stream.channels filled.channels
  title : Keeps stream.title filled.title
  mimeType : Keeps stream.mimeType filled.mimeType
  language : ∀ tag, languageOf stream = .ok tag → languageOf filled = .ok tag
  commentary : Keeps (factValue stream.commentary) (factValue filled.commentary)
  isDefault : Keeps (factValue stream.isDefault) (factValue filled.isDefault)
  isForced : Keeps (factValue stream.isForced) (factValue filled.isForced)

section
variable {stream filled : SnapshotStreamFact}

theorem requiredFact_ok_iff {α : Type} {fact : SnapshotFact α} {a : α} :
    requiredFact fact = .ok a ↔ factValue fact = some a := by
  cases fact <;> simp [requiredFact, factValue]

theorem remuxLeaf_filled (h : StreamFillsIn stream filled) {filter : TrackFilter}
    (hfilt : RemuxLeaf filter) (hb : evaluateFilter filter stream = .ok b) :
    evaluateFilter filter filled = .ok b := by
  cases filter with
  | languageIn =>
    simp only [evaluateFilter, bind_ok] at hb ⊢
    obtain ⟨language, hlang, hvalue⟩ := hb
    exact ⟨language, h.language language hlang, hvalue⟩
  | codecIn => exact find_keeps h.codecName hb
  | channels _ => exact find_keeps h.channels hb
  | titleContains => exact find_keeps h.title hb
  | commentary => exact requiredFact_ok_iff.mpr (h.commentary b (requiredFact_ok_iff.mp hb))
  | forced => exact requiredFact_ok_iff.mpr (h.isForced b (requiredFact_ok_iff.mp hb))
  | default => exact requiredFact_ok_iff.mpr (h.isDefault b (requiredFact_ok_iff.mp hb))
  | font =>
    simp only [evaluateFilter, evaluateFontFilter, h.kind, h.attachedPicture] at hb ⊢
    split_ifs at hb ⊢ with _
    · exact hb
    · exact find_keeps h.mimeType hb
  | _ => exact hfilt.elim

end

/-- A filter of a remux fails closed: what it answers without a fact, it answers with it. -/
theorem evaluateFilter_fails_closed {filter : TrackFilter} (hfilter : Built RemuxLeaf filter)
    {stream filled : SnapshotStreamFact} (h : StreamFillsIn stream filled) {b : Bool}
    (hb : evaluateFilter filter stream = .ok b) : evaluateFilter filter filled = .ok b :=
  toOption_eq_some.mp ((remux_evaluates stream fun _ => id).keeps
    (remux_evaluates filled fun _ => id) strict_keeps
    (fun _ hleaf _ => remuxLeaf_filled h hleaf) hfilter b (toOption_eq_some.mpr hb))

/-- A default stream, as far as it is known. -/
def defaultStream (commentary : SnapshotFact Bool) : SnapshotStreamFact where
  snapshotStreamId := "a"
  providerStreamIndex := 0
  kind := .audio
  codecName := none
  language := .missing
  channels := none
  title := none
  mimeType := none
  filename := none
  attachedPicture := false
  commentary := commentary
  isDefault := .value true
  isForced := .missing

theorem defaultStream_filled (commentary : Bool) :
    StreamFillsIn (defaultStream .missing) (defaultStream (.value commentary)) where
  kind := rfl
  attachedPicture := rfl
  codecName _ h := h
  channels _ h := h
  title _ h := h
  mimeType _ h := h
  language _ h := h
  commentary _ h := nomatch h
  isDefault _ h := h
  isForced _ h := h

theorem default_or_commentary :
    evaluateFilter (.or [.commentary, .default]) (defaultStream (.value false)) = .ok true := by
  refine evaluateFilter_fails_closed (.or fun _ hfilter => .leaf ?_)
    (defaultStream_filled false) (by decide +kernel)
  simp only [mem_cons, not_mem_nil, or_false] at hfilter
  rcases hfilter with rfl | rfl <;> trivial

/-- Without the fact, the conjunction is left before the leaf that no remux evaluates. -/
theorem unknown_fact_hides_title_matches :
    StreamFillsIn (defaultStream .missing) (defaultStream (.value true)) ∧
      evaluateFilter (.or [.and [.commentary, .titleMatches "x"], .default])
        (defaultStream .missing) = .ok true ∧
      evaluateFilter (.or [.and [.commentary, .titleMatches "x"], .default])
        (defaultStream (.value true)) = .error .unsupportedMediaShape :=
  ⟨defaultStream_filled true, rfl, rfl⟩

/-! ### Filters of audio -/

section Audio
open AudioFacts StreamFacts

/-- The leaves that an operation on audio can evaluate. -/
def AudioLeaf : TrackFilter → Prop
  | .font | .titleMatches _ | .not _ | .and _ | .or _ => False
  | _ => True

theorem audio_evaluates (stream : SnapshotAudioStreamFact) {Leaf : TrackFilter → Prop}
    (hleaf : ∀ filter, Leaf filter → AudioLeaf filter) :
    Evaluates .insufficientSnapshotFacts Leaf (decidedBy false)
      (evaluateSupportedAudioFilter · stream) where
  leaf filter hfilt := by
    cases filter with
    | languageIn => rfl
    | forced => rfl
    | default => rfl
    | codecIn values => exact known_map stream.codec (· ∈ values)
    | channels op value => exact known_map stream.channels (compareU64 · op value)
    | titleContains value => exact known_map stream.title (value.toList <:+: ·.toList)
    | commentary => exact known_find stream.commentary
    | _ => exact (hleaf _ hfilt).elim
  not inner := by simp only [evaluateSupportedAudioFilter]
  and filters h := by
    refine loop_eq_find (evaluateAudioAnd · stream) (fun _ => rfl)
      (fun filter rest unknown b hb => ?_) (fun filter rest unknown he => ?_) h
    · rw [evaluateAudioAnd, hb]
      cases b <;> rfl
    · rw [evaluateAudioAnd, he]
  or filters h := by
    refine loop_eq_find (evaluateAudioOr · stream) (fun _ => rfl)
      (fun _ _ _ b hb => ?_) (fun _ _ _ he => ?_) h
    · rw [evaluateAudioOr, hb]
      cases b <;> rfl
    · rw [evaluateAudioOr, he]

theorem anyHasUnsupportedSelector_eq_false
    (h : ∀ f ∈ filters, audioFilterHasUnsupportedSelector f = false) :
    anyHasUnsupportedSelector filters = false := by
  induction filters with
  | nil => rfl
  | cons _ _ ih =>
    obtain ⟨hfilt, hrest⟩ := forall_mem_cons.mp h
    exact Bool.or_eq_false_iff.mpr ⟨hfilt, ih hrest⟩

variable {filter : TrackFilter}

theorem evaluateAudioFilter_built {Leaf : TrackFilter → Prop}
    (hleaf : ∀ filter, Leaf filter → AudioLeaf filter) (hfilt : Built Leaf filter)
    (stream : SnapshotAudioStreamFact) :
    evaluateAudioFilter filter stream = evaluateSupportedAudioFilter filter stream := by
  refine bind_of_require ?_ _
  induction hfilt with
  | @leaf filter hfilt =>
    cases filter with
    | font | titleMatches | not | and | or => exact (hleaf _ hfilt).elim
    | _ => rfl
  | not _ ih => exact ih
  | and _ ih => exact anyHasUnsupportedSelector_eq_false ih
  | or _ ih => exact anyHasUnsupportedSelector_eq_false ih

/-- A flag of the disposition, where it is a boolean. -/
def flag (stream : Json) (key : String) : Option Bool :=
  ((stream.get "disposition").bind (·.get key)).bind Json.asBool

variable {stream : Json}

variable {key tag : String}

theorem flag_of_dispositionFact
    (h : requiredFact (dispositionFact (stream.get "disposition") key) = .ok value) :
    flag stream key = some value := by
  unfold dispositionFact at h
  unfold flag
  split at h
  case h_3 hobject =>
    rw [hobject]
    split at h
    case h_1 hvalue =>
      cases h
      simp [Json.get, Json.asObject, hvalue, Json.asBool]
    all_goals cases h
  all_goals cases h

/-- The language of a stream, where it can be told: none is the language `und`. -/
def languageTag : Option Json → Option String
  | some (.string tag) => some tag
  | some .null | none => some "und"
  | some _ => none

theorem languageTag_of_languageOf {fact : SnapshotStreamFact} {value : Option Json}
    (hfact : fact.language = optionalStringFact value) (h : languageOf fact = .ok tag) :
    languageTag value = some tag := by
  rw [languageOf, hfact] at h
  rcases value with _ | value
  · exact congrArg some (Except.ok.inj h)
  · cases value with
    | null => exact congrArg some (Except.ok.inj h)
    | string => exact congrArg some (Except.ok.inj h)
    | _ => cases h

theorem getD_of_languageTag {value : Option Json} (h : languageTag value = some tag) :
    (value.bind Json.asStr).getD "und" = tag := by
  rcases value with _ | value
  · exact some.inj h
  · cases value with
    | null => exact some.inj h
    | string => exact some.inj h
    | _ => cases h

/-- A commentary flag stands before the older `comment`. -/
theorem commentary_of_flag (h : flag stream "commentary" = some value) :
    (audioDisposition (stream.get "disposition")).commentary = some value := by
  obtain ⟨_, hjson, hvalue⟩ := bind_eq_some_iff.mp h
  obtain ⟨_, hdisposition, hget⟩ := bind_eq_some_iff.mp hjson
  rw [audioDisposition, hdisposition]
  simp only [bind_some, hget, some_or, hvalue]

variable {earlier : List SnapshotAudioStreamFact} {audio : SnapshotAudioStreamFact}

theorem audio_of_addStream (h : AudioFacts.addStream earlier stream = .ok (earlier ++ [audio])) :
    ∃ id index, audio = audioFact stream id index := by
  simp only [AudioFacts.addStream, bind_ok] at h
  obtain ⟨_, -, _, -, h⟩ := h
  split_ifs at h with _
  · simp at h
  · simp only [bind_ok, return_ok, append_cancel_left_eq] at h
    obtain ⟨id, -, _, -, index, -, _, -, h⟩ := h
    exact ⟨id, index, (cons.inj h).1.symm⟩

/-- Both evaluators read one stream object: where that of the remux has an answer, that of audio
has the same. -/
theorem audio_filter_agrees {before : List SnapshotStreamFact} {fact : SnapshotStreamFact}
    (hfact : streamFact before stream = .ok fact)
    (haudio : AudioFacts.addStream earlier stream = .ok (earlier ++ [audio]))
    (hfilter : Built AudioLeaf filter) {b : Bool} (hb : evaluateFilter filter fact = .ok b) :
    evaluateAudioFilter filter audio = .ok b := by
  obtain ⟨_, _, rfl⟩ := audio_of_addStream haudio
  rw [evaluateAudioFilter_built (fun _ hleaf => hleaf) hfilter]
  simp only [streamFact, bind_ok, return_ok] at hfact
  obtain ⟨_, -, _, -, _, -, _, -, _, -, _, -, _, -, _, -, rfl⟩ := hfact
  refine toOption_eq_some.mp ((remux_evaluates _ fun leaf hleaf => ?_).keeps
    (audio_evaluates _ fun _ hleaf => hleaf) strict_keeps_decidedBy (fun leaf hleaf b hb => ?_)
    hfilter b (toOption_eq_some.mpr hb))
  · cases leaf <;> trivial
  · cases leaf with
    | languageIn =>
      obtain ⟨_, hlanguage, hvalue⟩ := bind_ok.mp hb
      obtain rfl := getD_of_languageTag (languageTag_of_languageOf rfl hlanguage)
      exact congrArg Except.ok (Except.ok.inj hvalue)
    | codecIn => exact find_keeps (fun _ h => h) hb
    | channels _ => exact find_keeps (fun _ h => h) hb
    | titleContains => exact find_keeps (fun _ h => h) hb
    | commentary => exact find_ok.mpr (commentary_of_flag (flag_of_dispositionFact hb))
    | forced | default =>
      exact congrArg Except.ok (congrArg (getD · false) (flag_of_dispositionFact hb))
    | _ => exact hleaf.elim

/-- An audio stream object without tags. -/
def audioStream (disposition : List (String × Json)) : Json :=
  .object [("kind", .string "audio"), ("id", .string "a"), ("index", .integer 0),
    ("disposition", .object disposition)]

theorem default_audio_agrees :
    evaluateAudioFilter (.not .default) (audioFact (audioStream [("default", .bool true)]) "a" 0) =
      .ok false := by
  have hfact : streamFact [] (audioStream [("default", .bool true)]) =
      .ok (defaultStream .missing) :=
    rfl
  have haudio : AudioFacts.addStream [] (audioStream [("default", .bool true)]) =
      .ok ([] ++ [audioFact (audioStream [("default", .bool true)]) "a" 0]) := rfl
  have hfilter : Built AudioLeaf (.not .default) := .not (.leaf trivial)
  exact audio_filter_agrees hfact haudio hfilter rfl

/-- `filled` has every value of `stream` that is valid, where no language is the language `und`;
an older `comment` stays as it is.  What else the objects hold is not read. -/
structure AudioFillsIn (stream filled : Json) : Prop where
  codec : Keeps ((stream.get "codec_name").bind Json.asStr)
    ((filled.get "codec_name").bind Json.asStr)
  title : Keeps ((stream.get "title").bind Json.asStr) ((filled.get "title").bind Json.asStr)
  channels : Keeps ((stream.get "channels").bind (Json.asUnsigned 32))
    ((filled.get "channels").bind (Json.asUnsigned 32))
  language : Keeps (languageTag (stream.get "language")) (languageTag (filled.get "language"))
  flags : ∀ key ∈ ["default", "forced", "commentary"], Keeps (flag stream key) (flag filled key)
  comment : flag filled "commentary" = none →
    (audioDisposition (filled.get "disposition")).commentary =
      (audioDisposition (stream.get "disposition")).commentary

/-- What a flag may turn out to be. -/
def flagReadings (stream : Json) (key : String) : List Bool :=
  (flag stream key).elim [true, false] ([·])

/-- What the commentary flag may turn out to be; one that nothing is read for stays unknown. -/
def commentaryReadings (stream : Json) : List (Option Bool) :=
  match flag stream "commentary", (audioDisposition (stream.get "disposition")).commentary with
  | some value, _ => [some value]
  | none, some _ => [some true, some false]
  | none, none => [none]

/-- A tag that is none of these. -/
def otherTag (tags : List String) : String := tags.foldr (· ++ ·) "-"

/-- What the language may turn out to be, as far as a filter can tell. -/
def languageReadings (filter : TrackFilter) (stream : Json) : List String :=
  (languageTag (stream.get "language")).elim
    (otherTag (filterLanguages filter) :: filterLanguages filter) ([·])

/-- The stream with these values for what is misread. -/
def reading (stream : Json) (isDefault isForced : Bool) (commentary : Option Bool)
    (language : String) : Json :=
  .object [("codec_name", (stream.get "codec_name").getD .null),
    ("title", (stream.get "title").getD .null), ("channels", (stream.get "channels").getD .null),
    ("language", .string language),
    ("disposition", .object [("default", .bool isDefault), ("forced", .bool isForced),
      ("commentary", commentary.elim .null .bool)])]

/-- The filter answers `b` on every reading of the stream: a table of at most eight rows for each
language of the filter and one more. -/
def Settled (filter : TrackFilter) (stream : Json) (id : String) (index : Nat) (b : Bool) : Prop :=
  ∀ isDefault ∈ flagReadings stream "default", ∀ isForced ∈ flagReadings stream "forced",
    ∀ commentary ∈ commentaryReadings stream, ∀ language ∈ languageReadings filter stream,
      evaluateAudioFilter filter
        (audioFact (reading stream isDefault isForced commentary language) id index) = .ok b

instance (filter : TrackFilter) (stream : Json) (id : String) (index : Nat) (b : Bool) :
    Decidable (Settled filter stream id index b) :=
  decidable_of_iff ((flagReadings stream "default").all fun isDefault =>
    (flagReadings stream "forced").all fun isForced =>
      (commentaryReadings stream).all fun commentary =>
        (languageReadings filter stream).all fun language =>
          evaluateAudioFilter filter
            (audioFact (reading stream isDefault isForced commentary language) id index) = .ok b)
    (by simp [Settled])

theorem otherTag_notMem (tags : List String) : otherTag tags ∉ tags := by
  have hlonger : ∀ tag ∈ tags, tag.length < (otherTag tags).length := by
    induction tags with
    | nil => simp
    | cons first rest ih =>
      have hlength : (otherTag (first :: rest)).length =
          first.length + (otherTag rest).length := String.length_append _ _
      intro tag htag
      rcases mem_cons.mp htag with rfl | htag
      · have hpos : 0 < (otherTag rest).length := by
          cases rest with
          | nil => decide
          | cons second _ => have := ih second mem_cons_self; omega
        omega
      · have := ih tag htag
        omega
  exact fun h => lt_irrefl _ (hlonger _ h)

/-- A leaf for audio, whose languages are among these. -/
def LeafWithin (tags : List String) (filter : TrackFilter) : Prop :=
  AudioLeaf filter ∧ filterLanguages filter ⊆ tags

mutual

theorem built_of_supported {tags : List String} : ∀ {filter : TrackFilter},
    audioFilterHasUnsupportedSelector filter = false → filterLanguages filter ⊆ tags →
      Built (LeafWithin tags) filter
  | .not _, h, htags => .not (built_of_supported h htags)
  | .and _, h, htags => .and (all_built_of_supported h htags)
  | .or _, h, htags => .or (all_built_of_supported h htags)
  | .languageIn _, _, htags | .codecIn _, _, htags | .channels _ _, _, htags
  | .commentary, _, htags | .forced, _, htags | .default, _, htags
  | .titleContains _, _, htags => .leaf ⟨trivial, htags⟩

theorem all_built_of_supported {tags : List String} : ∀ {filters : List TrackFilter},
    anyHasUnsupportedSelector filters = false → filtersLanguages filters ⊆ tags →
      ∀ filter ∈ filters, Built (LeafWithin tags) filter
  | [], _, _ => by simp
  | _ :: _, h, htags => by
    obtain ⟨hfirst, hrest⟩ := Bool.or_eq_false_iff.mp h
    obtain ⟨htag, htags⟩ := append_subset.mp htags
    exact forall_mem_cons.mpr ⟨built_of_supported hfirst htag, all_built_of_supported hrest htags⟩

end

section Readings
variable {filled : Json} {isDefault isForced : Bool} {commentary : Option Bool} {language : String}

/-- A value that is missing is read like `null`. -/
theorem bind_getD_null {α : Type} {f : Json → Option α} (hnull : f .null = none)
    (value : Option Json) : (some (value.getD .null)).bind f = value.bind f := by
  cases value with
  | none => exact hnull
  | some => rfl

theorem fillsIn_reading (hdefault : isDefault ∈ flagReadings stream "default")
    (hforced : isForced ∈ flagReadings stream "forced")
    (hcommentary : commentary ∈ commentaryReadings stream)
    (hlanguage : language ∈ languageReadings filter stream) :
    AudioFillsIn stream (reading stream isDefault isForced commentary language) := by
  have hvalue {α : Type} {f : Json → Option α} (hnull : f .null = none) (value : Option Json) :
      Keeps (value.bind f) ((some (value.getD .null)).bind f) :=
    fun _ h => (bind_getD_null hnull value).trans h
  have hflag {key : String} {found : Bool} (hfound : found ∈ flagReadings stream key) :
      Keeps (flag stream key) (some found) := by
    intro value hkey
    rw [flagReadings, hkey] at hfound
    exact congrArg some (mem_singleton.mp hfound)
  have hcomment : flag (reading stream isDefault isForced commentary language) "commentary" =
      commentary := by
    cases commentary <;> rfl
  refine ⟨hvalue rfl _, hvalue rfl _, hvalue rfl _, fun tag htag => ?_, fun key hkey => ?_,
    fun h => ?_⟩
  · rw [languageReadings, htag] at hlanguage
    exact congrArg some (mem_singleton.mp hlanguage)
  · obtain rfl | rfl | rfl : key = "default" ∨ key = "forced" ∨ key = "commentary" := by
      simpa using hkey
    · exact hflag hdefault
    · exact hflag hforced
    · intro value hstream
      rw [commentaryReadings, hstream] at hcommentary
      exact hcomment.trans (mem_singleton.mp hcommentary)
  · obtain rfl : commentary = none := hcomment.symm.trans h
    unfold commentaryReadings at hcommentary
    split at hcommentary
    case h_3 hread => exact hread.symm
    all_goals simp at hcommentary

theorem AudioFillsIn.flag_mem (h : AudioFillsIn stream filled)
    (hkey : key ∈ ["default", "forced", "commentary"]) :
    dispositionFlag (filled.get "disposition") key ∈ flagReadings stream key := by
  cases hstream : flag stream key with
  | none => cases dispositionFlag (filled.get "disposition") key <;> simp [flagReadings, hstream]
  | some value =>
    have hfilled : (flag filled key).getD false = value := by
      rw [h.flags key hkey value hstream]; rfl
    rw [flagReadings, hstream]
    exact mem_singleton.mpr hfilled

theorem AudioFillsIn.commentary_mem (h : AudioFillsIn stream filled) :
    ∃ commentary ∈ commentaryReadings stream,
      Keeps commentary (audioDisposition (filled.get "disposition")).commentary := by
  unfold commentaryReadings
  split
  case h_1 value hstream =>
    have hfilled := commentary_of_flag (h.flags _ (by decide) value hstream)
    exact ⟨_, mem_singleton_self _, fun _ h => hfilled.trans h⟩
  case h_2 older hstream hread =>
    obtain ⟨value, hfilled⟩ : ∃ value,
        (audioDisposition (filled.get "disposition")).commentary = some value := by
      cases hflag : flag filled "commentary" with
      | none => exact ⟨older, (h.comment hflag).trans hread⟩
      | some value => exact ⟨value, commentary_of_flag hflag⟩
    exact ⟨some value, by cases value <;> simp, fun _ h => hfilled.trans h⟩
  case h_3 => exact ⟨none, mem_singleton_self _, by simp [Keeps]⟩

theorem AudioFillsIn.language_mem (h : AudioFillsIn stream filled) (filter : TrackFilter) :
    ∃ tag ∈ languageReadings filter stream, ∀ values ⊆ filterLanguages filter,
      (tag ∈ values ↔ ((filled.get "language").bind Json.asStr).getD "und" ∈ values) := by
  generalize hread : ((filled.get "language").bind Json.asStr).getD "und" = found
  cases hstream : languageTag (stream.get "language") with
  | some tag =>
    obtain rfl := hread.symm.trans (getD_of_languageTag (h.language tag hstream))
    exact ⟨found, by simp [languageReadings, hstream], fun _ _ => Iff.rfl⟩
  | none =>
    by_cases hfound : found ∈ filterLanguages filter
    · exact ⟨found, by simp [languageReadings, hstream, hfound], fun _ _ => Iff.rfl⟩
    · refine ⟨otherTag (filterLanguages filter), by simp [languageReadings, hstream], ?_⟩
      intro values hvalues
      exact iff_of_false (fun h => otherTag_notMem _ (hvalues h)) fun h => hfound (hvalues h)

end Readings

-- An answer may be settled that no leaf settles.
example : Settled (.or [.default, .not .default]) (audioStream []) "a" 0 true := by decide

end Audio

end Voom.Planner
