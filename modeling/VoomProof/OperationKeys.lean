import VoomProof.OperationServer

/-!
# Which keys are left active

Every execution that was started has an `Active` entry under its key; a retry is refused as a
duplicate until the entry is completed or cleared. The calls that do it are spread over the
three parties of an execution: `handle_operations` when the handler returns, the frame writer
when it is dropped, the response body when it is polled. Here it is said in which orders of
cancellation, early drop and disconnect none is made.

An execution is over (`Over`) when its handler has returned an error or a buffered body,
when its pending handler was dropped, or when its writer is gone and its response body
dropped or polled to its end. `Lost` gives the two ways for it to be over without a
call: the pending handler was dropped, or the writer was dropped before the finalizer was
stored and the body before its `Abort` was polled. Every other execution that is over
has left no active entry (`Freed`, kept by every step), and a lost one has left its own,
unless a late call of an older execution removes it (`Untouched`).
-/

namespace Voom
open ListUpdate List Option Nat

namespace Execution
variable {Key Hash Response Body : Type} {e e' : Execution Key Hash Response Body}
  {call : Option (CacheCall Response Body)} {acts : List (Action Response Body)}
  {a : Action Response Body} {request : RequestPhase Response Body} {w w' : WriterPhase Body}
  {body : BodyPhase} {channel : List (StreamingMessage Body)}
  {cachedBody : List (ProgressFrame Body)} {sent : Bool}

/-- The response body was dropped, or polled to its end. -/
def responseDone (e : Execution Key Hash Response Body) : Prop :=
  e.body = .dropped ∨ e.body = .aborted ∨
    (e.body = .live true ∧ e.channel = [] ∧ e.writer = .dropped)

/-- Nothing is left to happen that the execution waits for. -/
def Over (e : Execution Key Hash Response Body) : Prop :=
  e.request = .refused ∨ e.request = .answered ∨ e.request = .gone ∨
    (e.request = .responded ∧ e.writer = .dropped ∧ e.responseDone)

instance [DecidableEq Response] [DecidableEq Body] (e : Execution Key Hash Response Body) :
    Decidable e.Over :=
  inferInstanceAs (Decidable (_ ∨ _ ∨ _ ∨ (_ ∧ _ ∧ (_ ∨ _ ∨ (_ ∧ _ ∧ _)))))

/-- The writer looked for the finalizer, when it was dropped, before it was stored. -/
def ClearedEarly (acts : List (Action Response Body)) : Prop :=
  [.writer .clearDropped, .request .storeFinalizer].Sublist acts

/-- The execution is over and none of its parties has cleared its entry: the pending
handler was dropped, or neither the writer nor a poll of its `Abort` found the
finalizer. -/
def Lost (acts : List (Action Response Body)) (e : Execution Key Hash Response Body) : Prop :=
  e.request = .gone ∨ (ClearedEarly acts ∧ e.body = .dropped ∧ .abort ∈ e.channel)

instance [DecidableEq Response] [DecidableEq Body] (acts : List (Action Response Body))
    (e : Execution Key Hash Response Body) : Decidable (Lost acts e) :=
  inferInstanceAs (Decidable (_ ∨ (List.Sublist _ _ ∧ _ ∧ _)))

/-! ## One execution and what it did so far -/

/-- What is known of an execution from what it did. -/
structure Local (acts : List (Action Response Body)) (e : Execution Key Hash Response Body) :
    Prop where
  sound : e.Sound
  finalized : e.finalizer ≠ none ↔ e.request = .finalizing ∨ e.request = .responded
  bodied : e.body ≠ .absent → e.request = .responded
  -- `Abort` is the last message, and sent instead of a terminal frame
  abort_last : e.channel.Pairwise fun m _ => m ≠ .abort
  abort_taken : e.body = .clearing ∨ e.body = .ending ∨ e.body = .aborted →
    e.writerGone ∧ .abort ∉ e.channel
  abort_open : .abort ∈ e.channel → e.terminalSent = false
  dropped : .writer .clearDropped ∈ acts → e.writer = .dropped
  cleared : e.writer = .dropped → e.terminalSent = false → .writer .clearDropped ∈ acts

theorem local_start (key : Key) (hash : Hash) :
    Local [] ({ key := key, hash := hash } : Execution Key Hash Response Body) where
  sound := ⟨by simp, by simp, by simp, by simp, by simp⟩
  finalized := by simp
  bodied := by simp
  abort_last := .nil
  abort_taken := by simp
  abort_open := by simp
  dropped := by simp
  cleared := by simp

/-- Steps of the request and of the body say nothing about the writer. -/
theorem Local.concat (hl : Local acts e) (ha : ∀ b, a ≠ .writer b) : Local (acts ++ [a]) e := by
  have hmem : .writer .clearDropped ∈ acts ++ [a] ↔ .writer .clearDropped ∈ acts := by
    rw [mem_append, mem_singleton]
    exact or_iff_left fun h => ha _ h.symm
  exact { hl with
    dropped := fun h => hl.dropped (hmem.mp h)
    cleared := fun hw hopen => hmem.mpr (hl.cleared hw hopen) }

section
variable (hl : Local acts e)
include hl

/-- Another request phase, when neither has a finalizer. -/
theorem Local.of_request {a : RequestAction Response Body}
    (hsound : Sound { e with request := request })
    (hold : ¬ (e.request = .finalizing ∨ e.request = .responded))
    (hnew : ¬ (request = .finalizing ∨ request = .responded)) :
    Local (acts ++ [.request a]) { e with request := request } :=
  { hl.concat (by simp) with
    sound := hsound
    finalized := hl.finalized.trans (iff_of_false hold hnew)
    bodied := fun hbody => absurd (.inr (hl.bodied hbody)) hold }

theorem local_request {a : RequestAction Response Body} (h : e.requestStep a = some (e', call)) :
    Local (acts ++ [.request a]) e' := by
  have hsound := (requestStep_steps hl.sound h).sound
  cases requestStep_move h with
  | handled _ hreq hnew =>
    exact hl.of_request hsound (by simp [hreq]) (not_or.mpr ⟨hnew.1, hnew.2.1⟩)
  | cleared hreq | completed hreq => exact hl.of_request hsound (by simp [hreq]) (by simp)
  | stored hreq =>
    exact { hl.concat (by simp) with
      sound := hsound
      finalized := by simp
      bodied := fun hbody => by
        have hresponded := hl.bodied hbody
        rw [hreq] at hresponded
        cases hresponded }
  | responded hreq =>
    exact { hl.concat (by simp) with
      sound := hsound
      finalized := by
        rw [hl.finalized, hreq]
        simp
      bodied := fun _ => rfl
      abort_taken := by simp }

/-- A writer that is not gone has sent no `Abort` and was not dropped. -/
theorem Local.writer_kept (hkept : ¬ e.writerGone) :
    .abort ∉ e.channel ∧ .writer .clearDropped ∉ acts ∧
      ¬ (e.body = .clearing ∨ e.body = .ending ∨ e.body = .aborted) :=
  ⟨fun hm => hkept (hl.sound.abort_gone hm), fun hm => hkept (.inr (hl.dropped hm)),
    fun hb => hkept (hl.abort_taken hb).1⟩

/-- A message is sent by a writer that has not sent `Abort`. -/
theorem Local.abort_last_concat (hno : .abort ∉ e.channel) (m : StreamingMessage Body) :
    (e.channel ++ [m]).Pairwise fun m _ => m ≠ .abort := by
  rw [pairwise_append]
  refine ⟨hl.abort_last, pairwise_singleton _ _, ?_⟩
  rintro _ hm' _ _ rfl
  exact hno hm'

/-- A step of a writer that is not gone. -/
theorem Local.of_writer {a : WriterAction Body} (hw : e.writer = w)
    (hkept : ¬ (w = .closing ∨ w = .dropped)) (hsound : Sound { e with
      writer := w', channel := channel, cachedBody := cachedBody, terminalSent := sent })
    (hlast : .abort ∉ e.channel → channel.Pairwise fun m _ => m ≠ .abort)
    (hopen : .abort ∉ e.channel → .abort ∈ channel → sent = false)
    (hdropped : a = .clearDropped ↔ w' = .dropped ∧ sent = false) :
    Local (acts ++ [.writer a]) { e with
      writer := w', channel := channel, cachedBody := cachedBody, terminalSent := sent } := by
  subst hw
  obtain ⟨hno, hnot, hbody⟩ := hl.writer_kept hkept
  exact { hl with
    sound := hsound
    abort_last := hlast hno
    abort_taken := fun hb => absurd hb hbody
    abort_open := hopen hno
    dropped := fun hmem => by
      rcases mem_append.mp hmem with hold | hnew
      · exact absurd hold hnot
      · cases mem_singleton.mp hnew
        exact (hdropped.mp rfl).1
    cleared := fun hd hs => by rw [hdropped.mpr ⟨hd, hs⟩]; simp }

theorem local_writer {a : WriterAction Body}
    (h : e.writerStep a = some (e', call)) : Local (acts ++ [.writer a]) e' := by
  have hsound := (writerStep_steps hl.sound h).sound
  have hlast := fun _ : .abort ∉ e.channel => hl.abort_last
  have hclosed : ∀ {sent : Bool}, .abort ∉ e.channel → .abort ∈ e.channel → sent = false :=
    fun hno hm => absurd hm hno
  cases writerStep_move h with
  | created _ hw | completed hw | terminal hw =>
    exact hl.of_writer hw (by simp) hsound hlast hclosed (by simp)
  | refused hw => exact hl.of_writer rfl (by simp [hw]) hsound hlast hclosed (by simp [hw])
  | frame hw | sent hw =>
    refine hl.of_writer hw (by simp) hsound (hl.abort_last_concat · _) (fun hno hm => ?_)
      (by simp [hw])
    exact absurd hm (by simpa using hno)
  | dropped hw hsent =>
    exact hl.of_writer hw (by simp) hsound hlast hclosed (by simp [hsent])
  | aborted hw hopen =>
    exact hl.of_writer hw (by simp) hsound (hl.abort_last_concat · _)
      (fun _ _ => Bool.eq_false_iff.mpr hopen) (by simp)
  | cleared =>
    exact { hl with
      sound := hsound
      abort_taken := fun hb => ⟨.inr rfl, (hl.abort_taken hb).2⟩
      dropped := fun _ => rfl
      cleared := fun _ _ => by simp }

/-- The body takes messages off the channel, and only its new phase is to be
justified. -/
theorem Local.of_body {a : BodyAction}
    (hsound : Sound { e with body := body, channel := channel }) (hbody : e.body ≠ .absent)
    (hsub : channel.Sublist e.channel)
    (htaken : body = .clearing ∨ body = .ending ∨ body = .aborted →
      e.writerGone ∧ .abort ∉ channel) :
    Local (acts ++ [.body a]) { e with body := body, channel := channel } :=
  { hl.concat (by simp) with
    sound := hsound
    bodied := fun _ => hl.bodied hbody
    abort_last := hl.abort_last.sublist hsub
    abort_taken := htaken
    abort_open := fun hm => hl.abort_open (hsub.mem hm) }

theorem local_body {a : BodyAction}
    (h : e.bodyStep a = some (e', call)) : Local (acts ++ [.body a]) e' := by
  have hsound := (bodyStep_steps hl.sound h).sound
  cases bodyStep_move h with
  | awake hbody | completed hbody | ended hbody =>
    exact hl.of_body hsound (by simp [hbody]) (List.Sublist.refl _) (by simp)
  | terminal hbody hch =>
    exact hl.of_body hsound (by simp [hbody]) (hch ▸ sublist_cons_self _ _) (by simp)
  | frame hbody hch =>
    exact hl.of_body hsound (by simp [hbody]) (hch ▸ sublist_cons_self _ _) (by simp [hbody])
  | abort hbody hch =>
    have hlast := hl.abort_last
    have hgone := hl.sound.abort_gone (hch ▸ mem_cons_self)
    rw [hch, pairwise_cons] at hlast
    refine hl.of_body hsound (by simp [hbody]) (hch ▸ sublist_cons_self _ _) fun _ => ?_
    exact ⟨hgone, fun hm => hlast.1 _ hm rfl⟩
  | closed hbody hch hw =>
    exact hl.of_body hsound (by simp [hbody]) (List.Sublist.refl _)
      fun _ => ⟨.inr hw, by simp [hch]⟩
  | idle hbody => exact hl.of_body hl.sound hbody (List.Sublist.refl _) hl.abort_taken
  | cleared hbody =>
    exact hl.of_body hsound (by simp [hbody]) (List.Sublist.refl _)
      fun _ => hl.abort_taken (.inl hbody)
  | dropped hbody => exact hl.of_body hsound hbody.1 (List.Sublist.refl _) (by simp)

theorem local_step (h : e.step a = some (e', call)) : Local (acts ++ [a]) e' := by
  cases a with
  | request a => exact local_request hl h
  | writer a => exact local_writer hl h
  | body a => exact local_body hl h

end

/-! ## Executions that have cleared or completed their entry -/

/-- A call on the cache was made. -/
inductive Freed (acts : List (Action Response Body)) (e : Execution Key Hash Response Body) :
    Prop where
  /-- By `handle_operations`. -/
  | returned (hreq : e.request = .refused ∨ e.request = .answered)
  /-- By the writer or by `set_finalizer`, whichever came second. -/
  | completed (hsent : e.terminalSent = true) (hreq : e.request = .responded)
      (hw : ∀ f, e.writer ≠ .completing f)
  /-- By the drop of the writer. -/
  | cleared (hw : e.writer = .dropped) (hopen : e.terminalSent = false)
      (hfin : e.finalizer ≠ none) (hearly : ¬ ClearedEarly acts)
  /-- By the poll of an `Abort`. -/
  | polled (hgone : e.writerGone) (hopen : e.terminalSent = false) (hno : .abort ∉ e.channel)
      (hbody : e.body ≠ .clearing)

theorem not_freed_start (key : Key) (hash : Hash) :
    ¬ Freed [] ({ key := key, hash := hash } : Execution Key Hash Response Body) := by
  intro hf
  cases hf with
  | returned hreq => simp at hreq
  | completed hsent => cases hsent
  | cleared hw => cases hw
  | polled hgone => simp [writerGone] at hgone

theorem ClearedEarly.concat (h : ClearedEarly acts) (a : Action Response Body) :
    ClearedEarly (acts ++ [a]) :=
  List.Sublist.trans h (sublist_append_left _ _)

/-- A new request phase alone frees nothing, unless the response is built. -/
theorem Freed.of_request (hf : Freed (acts ++ [a]) { e with request := request })
    (hreq : request ≠ .refused ∧ request ≠ .answered ∧ request ≠ .responded) : Freed acts e := by
  cases hf with
  | returned h => exact absurd h (not_or.mpr ⟨hreq.1, hreq.2.1⟩)
  | completed _ h => exact absurd h hreq.2.2
  | cleared hw hopen hfin hearly =>
    exact .cleared hw hopen hfin fun he => hearly (he.concat _)
  | polled hgone hopen hno hbody => exact .polled hgone hopen hno hbody

theorem freed_request {a : RequestAction Response Body} (hl : Local acts e)
    (h : e.requestStep a = some (e', call)) (hf : Freed (acts ++ [.request a]) e') :
    call ≠ none ∨ Freed acts e := by
  cases requestStep_move h with
  | cleared | completed => exact .inl (by simp)
  | handled _ _ hnew => exact .inr (hf.of_request ⟨hnew.2.2.1, hnew.2.2.2, hnew.2.1⟩)
  | stored =>
    cases hf with
    | returned hreq => simp at hreq
    | completed _ hreq => cases hreq
    | cleared hw hopen _ hearly =>
      -- a writer that is gone by now has looked for the finalizer before
      have hclr := hl.cleared hw hopen
      refine absurd ?_ hearly
      exact List.Sublist.append (singleton_sublist.mpr hclr) (List.Sublist.refl _)
    | polled hgone hopen hno hbody => exact .inr (.polled hgone hopen hno hbody)
  | responded hreq =>
    have hfin := hl.finalized.mpr (.inl hreq)
    cases hf with
    | returned hreq => simp at hreq
    | completed hsent =>
      refine .inl ?_
      have hsent' : e.terminalSent = true := hsent
      rw [if_pos hsent', completeIfReady, ne_eq, map_eq_none_iff]
      exact hfin
    | cleared hw hopen _ hearly =>
      exact .inr (.cleared hw hopen hfin fun he => hearly (he.concat _))
    | polled hgone hopen hno =>
      refine .inr (.polled hgone hopen hno fun hbody => ?_)
      have hresponded := hl.bodied (by simp [hbody])
      rw [hreq] at hresponded
      cases hresponded

theorem freed_writer {a : WriterAction Body} (hl : Local acts e)
    (h : e.writerStep a = some (e', call)) (hf : Freed (acts ++ [.writer a]) e') :
    call ≠ none ∨ Freed acts e := by
  cases hf with
  | returned hreq => cases writerStep_move h <;> exact .inr (.returned hreq)
  | completed hsent hreq hw' =>
    cases writerStep_move h with
    | created hreq' => exact absurd hreq (by simp [hreq'])
    | refused => exact .inr (.completed hsent hreq hw')
    | @terminal f => exact absurd rfl (hw' f)
    | frame _ hopen | aborted _ hopen => exact absurd hsent hopen
    | completed =>
      refine .inl ?_
      rw [completeIfReady, ne_eq, map_eq_none_iff]
      exact hl.finalized.mpr (.inr hreq)
    | sent hw | dropped hw | cleared hw => exact .inr (.completed hsent hreq (by simp [hw]))
  | cleared hw' hopen hfin =>
    cases writerStep_move h with
    | refused hw | frame hw => exact absurd hw' (by simp [hw])
    | dropped _ hsent => exact absurd hsent (by simpa using hopen)
    | cleared =>
      refine .inl ?_
      rw [clearIfReady, ne_eq, map_eq_none_iff]
      exact hfin
    | _ => cases hw'
  | polled hgone hopen hno hbody =>
    cases writerStep_move h with
    | dropped _ hsent => exact absurd hsent (by simpa using hopen)
    | aborted => exact absurd (mem_append_right _ (mem_singleton_self _)) hno
    | cleared hw => exact .inr (.polled (.inl hw) hopen hno hbody)
    | created _ hw | refused hw | terminal hw | frame hw | completed hw | sent hw =>
      simp [writerGone, hw] at hgone

/-- A step of the body frees something only by the poll of an `Abort`. -/
theorem Freed.of_body (hf : Freed (acts ++ [a]) { e with body := body, channel := channel })
    (hpolled : .abort ∉ channel → body ≠ .clearing → .abort ∉ e.channel ∧ e.body ≠ .clearing) :
    Freed acts e := by
  cases hf with
  | returned hreq => exact .returned hreq
  | completed hsent hreq hw => exact .completed hsent hreq hw
  | cleared hw hopen hfin hearly =>
    exact .cleared hw hopen hfin fun he => hearly (he.concat _)
  | polled hgone hopen hno hbody =>
    obtain ⟨hno', hbody'⟩ := hpolled hno hbody
    exact .polled hgone hopen hno' hbody'

theorem freed_body {a : BodyAction} (hl : Local acts e)
    (h : e.bodyStep a = some (e', call)) (hf : Freed (acts ++ [.body a]) e') :
    call ≠ none ∨ Freed acts e := by
  cases bodyStep_move h with
  | awake hbody | closed hbody | completed hbody | ended hbody =>
    exact .inr (hf.of_body fun hno _ => ⟨hno, by simp [hbody]⟩)
  | terminal hbody hch | frame hbody hch =>
    refine .inr (hf.of_body fun hno _ => ⟨?_, by simp [hbody]⟩)
    rw [hch]
    simpa using hno
  | abort => exact .inr (hf.of_body fun _ hbody' => absurd rfl hbody')
  | idle => exact .inr (hf.of_body fun hno hbody' => ⟨hno, hbody'⟩)
  | cleared hbody =>
    refine .inl ?_
    rw [clearIfReady, ne_eq, map_eq_none_iff]
    exact hl.finalized.mpr (.inr (hl.bodied (by simp [hbody])))
  | dropped hbody => exact .inr (hf.of_body fun hno _ => ⟨hno, hbody.2⟩)

/-- **What is freed by a step is freed by a call it makes.** -/
theorem freed_step (hl : Local acts e) (h : e.step a = some (e', call))
    (hf : Freed (acts ++ [a]) e') : call ≠ none ∨ Freed acts e := by
  cases a with
  | request a => exact freed_request hl h hf
  | writer a => exact freed_writer hl h hf
  | body a => exact freed_body hl h hf

/-- An execution that is over and not lost has made a call. -/
theorem freed_of_over (hl : Local acts e) (hover : e.Over) (hkept : ¬ Lost acts e) :
    Freed acts e := by
  rcases hover with hreq | hreq | hreq | ⟨hreq, hw, hdone⟩
  · exact .returned (.inl hreq)
  · exact .returned (.inr hreq)
  · exact absurd (.inl hreq) hkept
  · cases hsent : e.terminalSent with
    | true => exact .completed hsent hreq (by simp [hw])
    | false =>
      by_cases hearly : ClearedEarly acts
      · have hgone : e.writerGone := .inr hw
        rcases hdone with hbody | hbody | ⟨hbody, hch, _⟩
        · refine .polled hgone hsent (fun habort => ?_) (by simp [hbody])
          exact hkept (.inr ⟨hearly, hbody, habort⟩)
        · exact .polled hgone hsent (hl.abort_taken (.inr (.inr hbody))).2 (by simp [hbody])
        · exact .polled hgone hsent (by simp [hch]) (by simp [hbody])
      · exact .cleared hw hsent (hl.finalized.mpr (.inr hreq)) hearly

/-! ## Executions that have left their entry alone -/

/-- No call on the cache was made. -/
structure Untouched (acts : List (Action Response Body)) (e : Execution Key Hash Response Body) :
    Prop where
  unreturned : e.request ≠ .refused ∧ e.request ≠ .answered
  unfinished : e.finalizer ≠ none → e.terminalSent = false
  early : e.finalizer ≠ none → e.writer = .dropped → ClearedEarly acts
  unpolled : e.finalizer ≠ none → e.writerGone → .abort ∈ e.channel ∨ e.body = .clearing

theorem ClearedEarly.of_concat (h : ClearedEarly (acts ++ [a]))
    (ha : a ≠ .request .storeFinalizer) : ClearedEarly acts := by
  obtain ⟨_, _, hsplit, hfront, hback⟩ := sublist_append_iff.mp h
  rcases sublist_singleton.mp hback with rfl | rfl
  · rw [append_nil] at hsplit
    rw [← hsplit] at hfront
    exact hfront
  · have hlast := congrArg getLast? hsplit
    rw [getLast?_concat] at hlast
    exact absurd (some.inj hlast).symm ha

/-- With a finalizer and no terminal frame, nothing is completed. -/
theorem completeIfReady_eq_none (hfin : e.finalizer ≠ none → e.terminalSent = false)
    (hsent : e.terminalSent = true) : e.completeIfReady = none := by
  rw [completeIfReady, map_eq_none_iff]
  by_contra hsome
  rw [hfin hsome] at hsent
  cases hsent

theorem untouched_request {a : RequestAction Response Body} (hl : Local acts e)
    (h : e.requestStep a = some (e', call)) (hu : Untouched (acts ++ [.request a]) e') :
    call = none ∧ Untouched acts e := by
  cases requestStep_move h with
  | cleared => exact absurd rfl hu.unreturned.1
  | completed => exact absurd rfl hu.unreturned.2
  | handled ha hreq =>
    exact ⟨rfl, by simp [hreq], hu.unfinished,
      fun hfin hw => (hu.early hfin hw).of_concat (by simpa using ha), hu.unpolled⟩
  | stored hreq =>
    have hnone : ¬ e.finalizer ≠ none := by simp [hl.finalized, hreq]
    exact ⟨rfl, by simp [hreq], fun hfin => absurd hfin hnone, fun hfin => absurd hfin hnone,
      fun hfin => absurd hfin hnone⟩
  | responded hreq =>
    refine ⟨?_, by simp [hreq], hu.unfinished,
      fun hfin hw => (hu.early hfin hw).of_concat (by simp), ?_⟩
    · split
      · next hsent => exact completeIfReady_eq_none hu.unfinished hsent
      · rfl
    · intro hfin hgone
      exact .inl ((hu.unpolled hfin hgone).resolve_right (by simp))

/-- Before its writer is gone, an execution that has not finished is untouched. -/
theorem Untouched.of_kept (hreq : e.request ≠ .refused ∧ e.request ≠ .answered)
    (hopen : e.finalizer ≠ none → e.terminalSent = false) {w : WriterPhase Body}
    (hw : e.writer = w) (hclosing : w ≠ .closing) (hdropped : w ≠ .dropped) : Untouched acts e := by
  subst hw
  refine ⟨hreq, hopen, fun _ hd => absurd hd hdropped, ?_⟩
  rintro _ (hgone | hgone)
  · exact absurd hgone hclosing
  · exact absurd hgone hdropped

theorem untouched_writer {a : WriterAction Body} (hl : Local acts e)
    (h : e.writerStep a = some (e', call)) (hu : Untouched (acts ++ [.writer a]) e') :
    call = none ∧ Untouched acts e := by
  cases writerStep_move h with
  | created _ hw | refused hw | sent hw | dropped hw | aborted hw =>
    exact ⟨rfl, .of_kept hu.unreturned hu.unfinished hw (by simp) (by simp)⟩
  | terminal hw hopen | frame hw hopen =>
    exact ⟨rfl, .of_kept hu.unreturned (fun _ => Bool.eq_false_iff.mpr hopen) hw (by simp)
      (by simp)⟩
  | @completed f hw =>
    have hsent := hl.sound.writer_terminal f (.inl hw)
    exact ⟨completeIfReady_eq_none hu.unfinished hsent,
      .of_kept hu.unreturned hu.unfinished hw (by simp) (by simp)⟩
  | cleared hw =>
    -- had there been a finalizer, it would have been stored after an earlier drop
    have hnone : ¬ e.finalizer ≠ none := by
      intro hfin
      have hearly := (hu.early hfin rfl).of_concat (by simp)
      have hdropped := hl.dropped (hearly.subset mem_cons_self)
      rw [hw] at hdropped
      cases hdropped
    refine ⟨?_, hu.unreturned, hu.unfinished, fun hfin => absurd hfin hnone,
      fun hfin => absurd hfin hnone⟩
    rw [clearIfReady, not_ne_iff.mp hnone]
    rfl

/-- A step of the body without a call: what is not polled after it was not before. -/
theorem Untouched.of_body {a : BodyAction}
    (hu : Untouched (acts ++ [.body a]) { e with body := body, channel := channel })
    (hpolled : e.writerGone → .abort ∈ channel ∨ body = .clearing →
      .abort ∈ e.channel ∨ e.body = .clearing) : Untouched acts e :=
  ⟨hu.unreturned, hu.unfinished, fun hfin hw => (hu.early hfin hw).of_concat (by simp),
    fun hfin hgone => hpolled hgone (hu.unpolled hfin hgone)⟩

theorem untouched_body {a : BodyAction} (hl : Local acts e)
    (h : e.bodyStep a = some (e', call)) (hu : Untouched (acts ++ [.body a]) e') :
    call = none ∧ Untouched acts e := by
  cases bodyStep_move h with
  | awake | closed | dropped =>
    exact ⟨rfl, hu.of_body fun _ hm => .inl (hm.resolve_right (by simp))⟩
  | terminal _ hch =>
    refine ⟨rfl, hu.of_body fun _ hm => .inl ?_⟩
    exact hch ▸ mem_cons_of_mem _ (hm.resolve_right (by simp))
  | frame _ hch =>
    exact ⟨rfl, hu.of_body fun _ hm => hm.imp_left fun hm => hch ▸ mem_cons_of_mem _ hm⟩
  | abort _ hch => exact ⟨rfl, hu.of_body fun _ _ => .inl (hch ▸ mem_cons_self)⟩
  | idle => exact ⟨rfl, hu.of_body fun _ hm => hm⟩
  | completed hbody =>
    have hsent := hl.sound.body_terminal hbody
    exact ⟨completeIfReady_eq_none hu.unfinished hsent,
      hu.of_body fun _ hm => .inl (hm.resolve_right (by simp))⟩
  | cleared hbody | ended hbody =>
    -- no `Abort` is left on the channel
    have htaken := hl.abort_taken (by simp [hbody])
    have hfin := hl.finalized.mpr (.inr (hl.bodied (by simp [hbody])))
    rcases hu.unpolled hfin htaken.1 with hm | hm
    · exact absurd hm htaken.2
    · cases hm

/-- **An execution that is untouched after a step was so before, and made no call.** -/
theorem untouched_step (hl : Local acts e) (h : e.step a = some (e', call))
    (hu : Untouched (acts ++ [a]) e') : call = none ∧ Untouched acts e := by
  cases a with
  | request a => exact untouched_request hl h hu
  | writer a => exact untouched_writer hl h hu
  | body a => exact untouched_body hl h hu

/-- A lost execution has made no call. -/
theorem untouched_of_lost (hl : Local acts e) (hlost : Lost acts e) : Untouched acts e := by
  rcases hlost with hreq | ⟨hearly, hbody, habort⟩
  · have hnone : ¬ e.finalizer ≠ none := by simp [hl.finalized, hreq]
    exact ⟨by simp [hreq], fun hfin => absurd hfin hnone, fun hfin => absurd hfin hnone,
      fun hfin => absurd hfin hnone⟩
  · have hreq := hl.bodied (by simp [hbody])
    exact ⟨by simp [hreq], fun _ => hl.abort_open habort, fun _ _ => hearly, fun _ _ => .inl habort⟩

end Execution

/-! ## The server -/

namespace Server
variable {Key Hash Response Body : Type} [DecidableEq Key] [DecidableEq Hash]
  {s t : Server Key Hash Response Body} {events : List (ServerEvent Key Hash Response Body)}
  {i j : Nat} {ev : ServerEvent Key Hash Response Body} {e e' : Execution Key Hash Response Body}
  {c : IdempotencyCache Key Hash Response Body} {key : Key} {hash : Hash}
  {cacheCall : Option (CacheCall Response Body)} {a : Execution.Action Response Body}

/-- What an event does for the `i`-th execution. -/
def actionOf (i : Nat) :
    ServerEvent Key Hash Response Body → Option (Execution.Action Response Body)
  | .arrive _ _ => none
  | .act j a => if j = i then some a else none

/-- What the `i`-th execution did. -/
def actsOf (i : Nat) (events : List (ServerEvent Key Hash Response Body)) :
    List (Execution.Action Response Body) :=
  events.filterMap (actionOf i)

/-- No execution under the same key was started after the `i`-th, `e`: the entry of
the key, if it is active, is that of `e`. -/
def Latest (s : Server Key Hash Response Body) (i : Nat)
    (e : Execution Key Hash Response Body) : Prop :=
  ∀ j e', i < j → s.executions[j]? = some e' → e'.key ≠ e.key

/-- No execution makes a call on the cache after a later one was started under its
key. -/
def Prompt (s : Server Key Hash Response Body) : ServerEvent Key Hash Response Body → Prop
  | .arrive _ _ => True
  | .act i a => ∀ e e' cacheCall, s.executions[i]? = some e →
      e.step a = some (e', some cacheCall) → s.Latest i e

omit [DecidableEq Key] [DecidableEq Hash] in
theorem actsOf_arrive (i : Nat) (key : Key) (hash : Hash) :
    actsOf i (events ++ [.arrive key hash]) = actsOf i events := by
  simp [actsOf, actionOf]

omit [DecidableEq Key] [DecidableEq Hash] in
theorem actsOf_act_self (i : Nat) (a : Execution.Action Response Body) :
    actsOf i (events ++ [.act i a]) = actsOf i events ++ [a] := by
  simp [actsOf, actionOf]

omit [DecidableEq Key] [DecidableEq Hash] in
theorem actsOf_act_ne (hne : j ≠ i) (a : Execution.Action Response Body) :
    actsOf i (events ++ [.act j a]) = actsOf i events := by
  simp [actsOf, actionOf, hne]

section
variable {key : Key} {hash : Hash} (h : s.step (.arrive key hash) = some t)
include h

theorem step_arrive_started (hstart : (s.cache.begin key hash).1 = .started) :
    t.executions = s.executions ++ [{ key := key, hash := hash }] :=
  (step_arrive_cases h).2.elim (fun hsame => absurd hstart hsame.1) (·.2)

/-- An execution is there before a request arrives, or started by it. -/
theorem arrive_execution {e : Execution Key Hash Response Body} (hi : t.executions[i]? = some e) :
    s.executions[i]? = some e ∨ (i = s.executions.length ∧ e = { key := key, hash := hash } ∧
      (s.cache.begin key hash).1 = .started) := by
  rcases (step_arrive_cases h).2 with ⟨-, hsame⟩ | ⟨hstart, hnew⟩
  · exact .inl (hsame ▸ hi)
  · rw [hnew] at hi
    exact (getElem?_concat_cases hi).imp_right fun ⟨hlen, he⟩ => ⟨hlen, he, hstart⟩

theorem arrive_isPrefix : s.executions <+: t.executions := by
  rcases (step_arrive_cases h).2 with ⟨-, hsame⟩ | ⟨-, hnew⟩
  · exact hsame ▸ prefix_refl _
  · exact hnew ▸ prefix_append _ _

end

/-- Each execution runs by itself. -/
structure Histories (events : List (ServerEvent Key Hash Response Body))
    (s : Server Key Hash Response Body) : Prop where
  capacity : s.cache.capacity ≠ 0
  locals : ∀ i e, s.executions[i]? = some e → Execution.Local (actsOf i events) e
  unstarted : ∀ i, s.executions.length ≤ i → actsOf i events = []

omit [DecidableEq Key] [DecidableEq Hash] in
theorem histories_initial : Histories [] (initial : Server Key Hash Response Body) where
  capacity := by simp [initial, IdempotencyCache.new, IDEMPOTENCY_CACHE_CAPACITY]
  locals := by simp [initial]
  unstarted _ _ := rfl

theorem histories_step (hs : Histories events s) (h : s.step ev = some t) :
    Histories (events ++ [ev]) t := by
  cases ev with
  | arrive key hash =>
    have hcap : t.cache.capacity ≠ 0 := by
      rw [(step_arrive_cases h).1, IdempotencyCache.begin_edit.capacity]
      exact hs.capacity
    refine ⟨hcap, fun i e hi => ?_, fun i hi => ?_⟩
    · rw [actsOf_arrive]
      rcases arrive_execution h hi with hi | ⟨rfl, rfl, -⟩
      · exact hs.locals i e hi
      · rw [hs.unstarted _ (le_refl _)]
        exact Execution.local_start key hash
    · rw [actsOf_arrive]
      exact hs.unstarted i (le_trans (arrive_isPrefix h).length_le hi)
  | act j a =>
    obtain ⟨e, _, _, hj, hstep, rfl⟩ := step_act_cases h
    refine ⟨by rw [call_edit.capacity]; exact hs.capacity, fun i e₁ hi => ?_, fun i hi => ?_⟩
    · rcases getElem?_set_cases hj hi with ⟨rfl, rfl⟩ | ⟨hij, hi⟩
      · rw [actsOf_act_self]
        exact Execution.local_step (hs.locals i e hj) hstep
      · rw [actsOf_act_ne hij.symm]
        exact hs.locals i e₁ hi
    · rw [length_set] at hi
      have hlt := lt_length hj
      rw [actsOf_act_ne (by omega)]
      exact hs.unstarted i hi

/-- An execution keeps its place, its key and its hash. -/
theorem step_execution (hs : Histories events s) (h : s.step ev = some t)
    (hi : s.executions[i]? = some e) :
    ∃ e', t.executions[i]? = some e' ∧ e'.key = e.key ∧ e'.hash = e.hash := by
  cases ev with
  | arrive _ =>
    exact ⟨e, getElem?_of_isPrefix (arrive_isPrefix h) hi, rfl, rfl⟩
  | act j a =>
    obtain ⟨e₀, e', _, hj, hstep, rfl⟩ := step_act_cases h
    have hsteps := Execution.step_steps (hs.locals j e₀ hj).sound hstep
    exact exists_getElem?_set (R := fun e e' => e'.key = e.key ∧ e'.hash = e.hash)
      (fun _ => ⟨rfl, rfl⟩) hj ⟨hsteps.same_key, hsteps.same_hash⟩ hi

/-- The latest execution of a key was so before. -/
theorem latest_of_step (hs : Histories events s) (h : s.step ev = some t) (hkey : e'.key = e.key)
    (hlast : t.Latest i e') : s.Latest i e := by
  intro j _ hij hj
  obtain ⟨e₂, hj', hkey', _⟩ := step_execution hs h hj
  have hne := hlast j e₂ hij hj'
  rwa [hkey', hkey] at hne

theorem active_of_call {k : Key} {h : Hash}
    (hk : (call c key hash cacheCall).status k = some (.active h)) :
    c.status k = some (.active h) := by
  cases cacheCall with
  | none => exact hk
  | some cacheCall =>
    cases cacheCall with
    | complete => exact IdempotencyCache.active_of_complete hk
    | clear => exact IdempotencyCache.active_of_clearActive hk

theorem call_released (hcap : c.capacity ≠ 0) (hcall : cacheCall ≠ none) :
    (call c key hash cacheCall).status key ≠ some (.active hash) := by
  cases cacheCall with
  | none => exact absurd rfl hcall
  | some cacheCall =>
    cases cacheCall with
    | complete response => exact IdempotencyCache.complete_released response hcap
    | clear => exact IdempotencyCache.clearActive_released

/-- An active entry belongs to the latest execution of its key, and not to one that
was freed. -/
structure Released (events : List (ServerEvent Key Hash Response Body))
    (s : Server Key Hash Response Body) : Prop where
  histories : Histories events s
  owned : ∀ k h, s.cache.status k = some (.active h) →
    ∃ i e, s.executions[i]? = some e ∧ e.key = k ∧ e.hash = h ∧ s.Latest i e
  freed : ∀ i e, s.executions[i]? = some e → s.Latest i e →
    Execution.Freed (actsOf i events) e → s.cache.status e.key ≠ some (.active e.hash)

omit [DecidableEq Hash] in
theorem released_initial : Released [] (initial : Server Key Hash Response Body) where
  histories := histories_initial
  owned := by
    intro k h hk
    have hnil : (initial : Server Key Hash Response Body).cache.status k = none :=
      AList.lookup_empty k
    cases hk
  freed := by simp [initial]

theorem released_arrive (hs : Released events s) (h : s.step (.arrive key hash) = some t) :
    Released (events ++ [.arrive key hash]) t := by
  have hcache := (step_arrive_cases h).1
  refine ⟨histories_step hs.histories h, ?_, ?_⟩
  · intro k h' hk
    rw [hcache] at hk
    rcases IdempotencyCache.active_of_begin hk with hk | ⟨rfl, rfl, hstart⟩
    · obtain ⟨i, e, hi, rfl, rfl, hlast⟩ := hs.owned k h' hk
      refine ⟨i, e, getElem?_of_isPrefix (arrive_isPrefix h) hi, rfl, rfl, ?_⟩
      intro j e' hij hj hkey
      rcases arrive_execution h hj with hj | ⟨-, rfl, hstart⟩
      · exact hlast j e' hij hj hkey
      · -- the new execution has another key: there was no entry under its own
        rw [← hkey, IdempotencyCache.status_of_begin_started hstart] at hk
        cases hk
    · have hnew := step_arrive_started h hstart
      refine ⟨s.executions.length, { key := k, hash := h' }, ?_, rfl, rfl, ?_⟩
      · rw [hnew, getElem?_concat_length]
      · intro j _ _ hj
        rw [hnew] at hj
        have hlt := lt_length hj
        rw [length_append, length_singleton] at hlt
        omega
  · intro i e hi hlast hfreed hk
    rw [actsOf_arrive] at hfreed
    rw [hcache] at hk
    rcases arrive_execution h hi with hold | ⟨rfl, rfl, -⟩
    · rcases IdempotencyCache.active_of_begin hk with hk | ⟨hkey, _, hstart⟩
      · exact hs.freed i e hold (latest_of_step hs.histories h rfl hlast) hfreed hk
      · refine hlast s.executions.length { key := key, hash := hash } ?_ ?_ hkey.symm
        · exact lt_length hold
        · rw [step_arrive_started h hstart, getElem?_concat_length]
    · rw [hs.histories.unstarted _ (le_refl _)] at hfreed
      exact Execution.not_freed_start key hash hfreed

theorem latest_act (hs : Histories events s) (h : s.step (.act j a) = some t)
    (hkey : e'.key = e.key) (hlast : s.Latest i e) : t.Latest i e' := by
  have hlen : t.executions.length = s.executions.length := by
    obtain ⟨_, _, _, _, _, rfl⟩ := step_act_cases h
    exact length_set
  intro i₁ _ hlt hi₁
  obtain ⟨e₂, hi₂⟩ : ∃ e₂, s.executions[i₁]? = some e₂ :=
    ⟨_, List.getElem?_eq_getElem (hlen ▸ lt_length hi₁)⟩
  obtain ⟨_, hi₃, hkey₃, _⟩ := step_execution hs h hi₂
  rw [hi₁] at hi₃
  cases hi₃
  rw [hkey₃, hkey]
  exact hlast i₁ e₂ hlt hi₂

theorem released_act (hs : Released events s) (h : s.step (.act j a) = some t) :
    Released (events ++ [.act j a]) t := by
  have hhist := hs.histories
  refine ⟨histories_step hhist h, ?_, ?_⟩
  · intro k h' hk
    have hact : s.cache.status k = some (.active h') := by
      obtain ⟨_, _, _, _, _, rfl⟩ := step_act_cases h
      exact active_of_call hk
    obtain ⟨i, e, hi, rfl, rfl, hlast⟩ := hs.owned k h' hact
    obtain ⟨e', hi', hkey, hhash⟩ := step_execution hhist h hi
    exact ⟨i, e', hi', hkey, hhash, latest_act hhist h hkey hlast⟩
  · intro i e hi hlast hfreed hk
    have hbef : ∀ {e₁}, e.key = e₁.key → s.Latest i e₁ :=
      fun hkey => latest_of_step hhist h hkey hlast
    obtain ⟨e₀, _, _, hj, hstep, rfl⟩ := step_act_cases h
    have hlocal := hhist.locals j e₀ hj
    have hsteps := Execution.step_steps hlocal.sound hstep
    rcases getElem?_set_cases hj hi with ⟨rfl, rfl⟩ | ⟨hij, hi⟩
    · rw [actsOf_act_self] at hfreed
      rw [hsteps.same_key, hsteps.same_hash] at hk
      rcases Execution.freed_step hlocal hstep hfreed with hcall | hfreed
      · exact call_released hhist.capacity hcall hk
      · exact hs.freed i e₀ hj (hbef hsteps.same_key) hfreed (active_of_call hk)
    · rw [actsOf_act_ne hij.symm] at hfreed
      exact hs.freed i e hi (hbef rfl) hfreed (active_of_call hk)

theorem released_step (hs : Released events s) (_ : Runs.always s ev) (h : s.step ev = some t) :
    Released (events ++ [ev]) t := by
  cases ev with
  | arrive => exact released_arrive hs h
  | act j a => exact released_act hs h

/-- Without late calls, the latest execution of a key has its active entry for as long
as it has made no call itself. -/
structure Kept (events : List (ServerEvent Key Hash Response Body))
    (s : Server Key Hash Response Body) : Prop where
  histories : Histories events s
  kept : ∀ i e, s.executions[i]? = some e → s.Latest i e →
    Execution.Untouched (actsOf i events) e → s.cache.status e.key = some (.active e.hash)

theorem kept_arrive (hs : Kept events s) (h : s.step (.arrive key hash) = some t) :
    Kept (events ++ [.arrive key hash]) t := by
  refine ⟨histories_step hs.histories h, ?_⟩
  intro i e hi hlast huntouch
  rw [actsOf_arrive] at huntouch
  rw [(step_arrive_cases h).1]
  rcases arrive_execution h hi with hold | ⟨-, rfl, hstart⟩
  · exact IdempotencyCache.begin_keeps_active
      (hs.kept i e hold (latest_of_step hs.histories h rfl hlast) huntouch)
  · exact IdempotencyCache.begin_started hstart hs.histories.capacity

theorem kept_act (hs : Kept events s) (hok : s.Prompt (.act j a)) (h : s.step (.act j a) = some t) :
    Kept (events ++ [.act j a]) t := by
  have hhist := hs.histories
  refine ⟨histories_step hhist h, ?_⟩
  intro i e hi hlast huntouch
  have hbef : ∀ {e₁}, e.key = e₁.key → s.Latest i e₁ :=
    fun hkey => latest_of_step hhist h hkey hlast
  obtain ⟨e₀, e₀', cacheCall, hj, hstep, rfl⟩ := step_act_cases h
  have hlocal := hhist.locals j e₀ hj
  have hsteps := Execution.step_steps hlocal.sound hstep
  rcases getElem?_set_cases hj hi with ⟨rfl, rfl⟩ | ⟨hij, hold⟩
  · rw [actsOf_act_self] at huntouch
    obtain ⟨rfl, hunt⟩ := Execution.untouched_step hlocal hstep huntouch
    rw [hsteps.same_key, hsteps.same_hash]
    exact hs.kept i e₀ hj (hbef hsteps.same_key) hunt
  · rw [actsOf_act_ne hij.symm] at huntouch
    have hlast' : s.Latest i e := hbef rfl
    refine call_keeps_active (hs.kept i e hold hlast' huntouch) ?_
    -- a call under the same key would come from an older execution
    rintro hcall ⟨hkey, _⟩
    obtain ⟨cacheCall, rfl⟩ := ne_none_iff_exists'.mp hcall
    rcases lt_or_gt_of_ne hij with hlt | hgt
    · exact hlast' j e₀ hlt hj hkey.symm
    · exact hok e₀ e₀' cacheCall hj hstep i e hgt hold hkey

theorem kept_step (hs : Kept events s) (hok : s.Prompt ev) (h : s.step ev = some t) :
    Kept (events ++ [ev]) t := by
  cases ev with
  | arrive => exact kept_arrive hs h
  | act j a => exact kept_act hs hok h

/-- **Which executions leave their key active.**  An execution that is over, and after
which none was started under its key, leaves an active entry only if it is lost; and
if it is lost, then, unless an older execution of the key made a late call, its entry
stays and every further request under its key is refused as a duplicate. -/
theorem key_active_only_if_lost (hrun : Runs.Run step Runs.always initial events s) {i : Nat}
    {e : Execution Key Hash Response Body} (hi : s.executions[i]? = some e) (hover : e.Over)
    (hlatest : s.Latest i e) :
    ((∃ h, s.cache.status e.key = some (.active h)) →
      Execution.Lost (actsOf i events) e) ∧
    (Runs.Run step Prompt initial events s → Execution.Lost (actsOf i events) e →
      s.cache.status e.key = some (.active e.hash) ∧
        ∀ hash, s.cache.begin e.key hash = (.duplicate e.key "active", s.cache)) := by
  have hs : Released events s := hrun.invariant_history released_step released_initial
  have hlocal := hs.histories.locals i e hi
  refine ⟨?_, ?_⟩
  · rintro ⟨h, hactive⟩
    by_contra hkept
    have hfreed := Execution.freed_of_over hlocal hover hkept
    -- the entry is that of the latest execution of the key, which is this one
    obtain ⟨j, e₁, hj, hkey, rfl, hlatest₁⟩ := hs.owned e.key h hactive
    rcases lt_trichotomy i j with hlt | rfl | hgt
    · exact hlatest j e₁ hlt hj hkey
    · rw [hi] at hj
      cases hj
      exact hs.freed i e hi hlatest hfreed hactive
    · exact hlatest₁ i e hgt hi hkey.symm
  · intro hprompt hlost
    have hkept : Kept events s :=
      hprompt.invariant_history kept_step ⟨histories_initial, by simp [initial]⟩
    have hactive := hkept.kept i e hi hlatest (Execution.untouched_of_lost hlocal hlost)
    refine ⟨hactive, fun _ => ?_⟩
    simp only [IdempotencyCache.begin, IdempotencyCache.lookup, hactive]

/-! ### Two clients that go away -/

section Witnesses

/-- A stream that was cleared when its writer was dropped, and is never read. -/
def unread : Execution String Nat Unit Unit where
  key := "k"
  hash := 7
  request := .responded
  writer := .dropped
  body := .dropped
  finalizer := some ()
  channel := [.abort]

/-- The writer is dropped after the finalizer was stored: the entry is cleared, and it
does not matter that the response is never read. -/
theorem abandoned_stream_releases_key :
    ∃ s, Runs.Run step Runs.always (initial : Server String Nat Unit Unit)
        (abandonedStream ++ [.act 0 (.body .drop)]) s ∧
      ¬ ∃ h, s.cache.status "k" = some (.active h) := by
  have hexec : ∃ s, Runs.Run step Runs.always (initial : Server String Nat Unit Unit)
      (abandonedStream ++ [.act 0 (.body .drop)]) s ∧ s.executions = [unread] :=
    Runs.exists_run step Runs.always (by decide)
  obtain ⟨s, hrun, hexecutions⟩ := hexec
  have hi : s.executions[0]? = some unread := by
    rw [hexecutions]
    rfl
  have hlatest : s.Latest 0 unread := by
    intro j e _ hget
    have hlt := lt_length hget
    rw [hexecutions, length_singleton] at hlt
    omega
  refine ⟨s, hrun, fun hactive => ?_⟩
  exact absurd ((key_active_only_if_lost hrun hi (by decide) hlatest).1 hactive) (by decide)

/-- The client goes away while the handler is pending. -/
def handlerDropped : List (ServerEvent String Nat Unit Unit) :=
  [.arrive "k" 7, .act 0 (.request .clientGone)]

/-- The handler drops the writer before it returns, and the client goes away before it
reads the response. -/
def droppedUnread : List (ServerEvent String Nat Unit Unit) :=
  [.arrive "k" 7,
   .act 0 (.writer .create),
   .act 0 (.writer .drop),
   .act 0 (.writer .clearDropped),
   .act 0 (.request (.handlerStreaming ())),
   .act 0 (.request .storeFinalizer),
   .act 0 (.request .respond),
   .act 0 (.body .drop)]

/-- After either of them nothing is left to happen to the one execution there was, and
the retry is refused. -/
theorem key_stuck_after_disconnect :
    (∃ s, Runs.Run step Runs.always (initial : Server String Nat Unit Unit) handlerDropped s ∧
      (∀ e ∈ s.executions, e.Over) ∧ s.cache.status "k" = some (.active 7) ∧
        (s.cache.begin "k" 7).1 = .duplicate "k" "active") ∧
    (∃ s, Runs.Run step Runs.always (initial : Server String Nat Unit Unit) droppedUnread s ∧
      (∀ e ∈ s.executions, e.Over) ∧ s.cache.status "k" = some (.active 7) ∧
        (s.cache.begin "k" 7).1 = .duplicate "k" "active") :=
  ⟨Runs.exists_run step Runs.always (by decide), Runs.exists_run step Runs.always (by decide)⟩

end Witnesses

end Server
end Voom
