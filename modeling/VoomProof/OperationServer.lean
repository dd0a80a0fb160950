import VoomProof.IdempotencyCache
import VoomProof.ListUpdate
import VoomProof.Runs

/-!
# Operations on one worker server

One `HttpServer` of `voom-worker-protocol`: requests, handlers, frame writers and
response bodies over the shared idempotency cache (`http/server.rs`,
`http/streaming.rs`).

An `Execution` is one request that `begin` has `Started`, with the three parties that act for
it, each on its own task: `handle_operations` (`RequestPhase`), the handler's
`StreamingFrameWriter` (`WriterPhase`), and the `LiveOperationBody` that hyper polls
(`BodyPhase`). They share the finalizer, the `terminal_sent` flag, the cached body and the
channel. Every call on the cache takes its mutex, so it is one step; anything may happen
elsewhere between two such steps of a party, so a phase stands for each point between them.
Dropping a writer is two steps, `Abort` sent and entry cleared, and so is polling an `Abort`.

An execution is over (`ended`) once it has written its terminal frame, has dropped
its writer, or its handler has returned an error or a buffered body.
-/

namespace Voom
open List

/-- What the writer sends to the response body. -/
inductive StreamingMessage (Body : Type) where
  | frame (f : ProgressFrame Body)
  | abort
  deriving DecidableEq

/-- Where `handle_operations` stands, after `begin` returned `Started`. -/
inductive RequestPhase (Response Body : Type) where
  /-- The handler's future is pending. -/
  | handling
  /-- The handler returned an error; the entry is not cleared yet. -/
  | failed
  | refused
  /-- The handler returned a buffered body; it is not recorded yet. -/
  | buffered (response : CachedResponse Response Body)
  | answered
  /-- The handler returned a streaming body; its finalizer is not set yet. -/
  | streaming (response : Response)
  /-- The finalizer is set; whether a terminal frame came first is not checked yet. -/
  | finalizing
  | responded
  /-- The client went away and the pending handler was dropped. -/
  | gone
  deriving DecidableEq

/-- Where the handler's frame writer stands. -/
inductive WriterPhase (Body : Type) where
  | absent
  | opened
  /-- `terminal_sent` is stored; `complete_if_ready` is not called yet. -/
  | completing (f : ProgressFrame Body)
  /-- The response is recorded; the terminal frame is not sent yet. -/
  | sending (f : ProgressFrame Body)
  /-- `Drop` has sent `Abort`; the entry is not cleared yet. -/
  | closing
  | dropped
  deriving DecidableEq

/-- Where the live response body stands. -/
inductive BodyPhase where
  | absent
  /-- Being polled; `lineTaken` once the response line was handed out. -/
  | live (lineTaken : Bool)
  /-- A terminal frame was received; `complete_if_ready` is not called yet. -/
  | completing
  /-- `Abort` was received; the entry is not cleared yet. -/
  | clearing
  /-- The channel closed without a terminal frame; the entry is not cleared yet. -/
  | ending
  | aborted
  | dropped
  deriving DecidableEq

/-- A call on the cache that an execution makes, under its own key and hash. -/
inductive CacheCall (Response Body : Type) where
  | complete (response : CachedResponse Response Body)
  | clear
  deriving DecidableEq

/-- One request that was started, and what its three parties share. -/
structure Execution (Key Hash Response Body : Type) where
  key : Key
  hash : Hash
  request : RequestPhase Response Body := .handling
  writer : WriterPhase Body := .absent
  body : BodyPhase := .absent
  terminalSent : Bool := false
  cachedBody : List (ProgressFrame Body) := []
  finalizer : Option Response := none
  channel : List (StreamingMessage Body) := []
  deriving DecidableEq

/-- What `handle_operations` does next, the handler's answer included. -/
inductive RequestAction (Response Body : Type) where
  | handlerError
  | clearFailed
  | handlerBuffered (response : CachedResponse Response Body)
  | completeBuffered
  | handlerStreaming (response : Response)
  | storeFinalizer
  | respond
  | clientGone
  deriving DecidableEq

/-- What the frame writer does next. -/
inductive WriterAction (Body : Type) where
  | create
  | writeFrame (f : ProgressFrame Body)
  | completeTerminal
  | sendTerminal
  | drop
  | clearDropped
  deriving DecidableEq

/-- What the response body does next. -/
inductive BodyAction where
  | poll
  | completePolled
  | clearPolled
  | clearEnded
  | drop
  deriving DecidableEq

namespace Execution
variable {Key Hash Response Body : Type} {e e' : Execution Key Hash Response Body}
  {call : Option (CacheCall Response Body)} {a : RequestAction Response Body}

/-- `StreamingShared::complete_if_ready`: nothing without a finalizer. -/
def completeIfReady (e : Execution Key Hash Response Body) : Option (CacheCall Response Body) :=
  e.finalizer.map fun response => .complete ⟨response, e.cachedBody⟩

/-- `StreamingShared::clear_active`: nothing without a finalizer. -/
def clearIfReady (e : Execution Key Hash Response Body) : Option (CacheCall Response Body) :=
  e.finalizer.map fun _ => .clear

/-- `handle_operations` from `Started` on. -/
def requestStep (e : Execution Key Hash Response Body) :
    RequestAction Response Body →
      Option (Execution Key Hash Response Body × Option (CacheCall Response Body))
  | .handlerError =>
      match e.request with
      | .handling => some ({ e with request := .failed }, none)
      | _ => none
  | .clearFailed =>
      match e.request with
      | .failed => some ({ e with request := .refused }, some .clear)
      | _ => none
  | .handlerBuffered response =>
      match e.request with
      | .handling => some ({ e with request := .buffered response }, none)
      | _ => none
  | .completeBuffered =>
      match e.request with
      | .buffered response => some ({ e with request := .answered }, some (.complete response))
      | _ => none
  | .handlerStreaming response =>
      match e.request, e.writer with
      | .handling, .absent => none -- a streaming dispatch is built together with its writer
      | .handling, _ => some ({ e with request := .streaming response }, none)
      | _, _ => none
  | .storeFinalizer =>
      match e.request with
      | .streaming response =>
          some ({ e with request := .finalizing, finalizer := some response }, none)
      | _ => none
  | .respond =>
      match e.request with
      | .finalizing =>
          some ({ e with request := .responded, body := .live false },
            if e.terminalSent then e.completeIfReady else none)
      | _ => none
  | .clientGone =>
      match e.request with
      | .handling => some ({ e with request := .gone }, none)
      | _ => none

/-- `StreamingFrameWriter::write_frame` and `Drop`. -/
def writerStep (e : Execution Key Hash Response Body) :
    WriterAction Body →
      Option (Execution Key Hash Response Body × Option (CacheCall Response Body))
  | .create =>
      match e.request, e.writer with
      | .handling, .absent => some ({ e with writer := .opened }, none)
      | _, _ => none
  | .writeFrame f =>
      match e.writer with
      | .opened =>
          -- a frame after the terminal one is refused and changes nothing
          if e.terminalSent then some (e, none)
          else if f.isTerminal then
            some ({ e with writer := .completing f, terminalSent := true,
                           cachedBody := e.cachedBody ++ [f] }, none)
          else
            some ({ e with cachedBody := e.cachedBody ++ [f],
                           channel := e.channel ++ [.frame f] }, none)
      | _ => none
  | .completeTerminal =>
      match e.writer with
      | .completing f => some ({ e with writer := .sending f }, e.completeIfReady)
      | _ => none
  | .sendTerminal =>
      match e.writer with
      | .sending f =>
          some ({ e with writer := .opened, channel := e.channel ++ [.frame f] }, none)
      | _ => none
  | .drop =>
      match e.writer with
      | .opened =>
          if e.terminalSent then some ({ e with writer := .dropped }, none)
          else some ({ e with writer := .closing, channel := e.channel ++ [.abort] }, none)
      | _ => none
  | .clearDropped =>
      match e.writer with
      | .closing => some ({ e with writer := .dropped }, e.clearIfReady)
      | _ => none

/-- `LiveOperationBody::poll_frame`, and the body dropped by a client that is gone. -/
def bodyStep (e : Execution Key Hash Response Body) :
    BodyAction →
      Option (Execution Key Hash Response Body × Option (CacheCall Response Body))
  | .poll =>
      match e.body with
      | .live false => some ({ e with body := .live true }, none)
      | .live true =>
          match e.channel with
          | .frame f :: rest =>
              if f.isTerminal then some ({ e with body := .completing, channel := rest }, none)
              else some ({ e with channel := rest }, none)
          | .abort :: rest => some ({ e with body := .clearing, channel := rest }, none)
          | [] =>
              -- the channel is closed once the writer is gone
              match e.writer, e.terminalSent with
              | .dropped, false => some ({ e with body := .ending }, none)
              | _, _ => some (e, none)
      | .aborted => some (e, none)
      | _ => none
  | .completePolled =>
      match e.body with
      | .completing => some ({ e with body := .live true }, e.completeIfReady)
      | _ => none
  | .clearPolled =>
      match e.body with
      | .clearing => some ({ e with body := .aborted }, e.clearIfReady)
      | _ => none
  | .clearEnded =>
      match e.body with
      | .ending => some ({ e with body := .live true }, e.clearIfReady)
      | _ => none
  | .drop =>
      match e.body with
      | .live _ | .aborted => some ({ e with body := .dropped }, none)
      | _ => none

/-! ### What each party can do -/

section Moves
variable (e : Execution Key Hash Response Body)

/-- The steps of `handle_operations`.  A handler that returns, or whose client is gone, leads to a
phase in which nothing is settled yet. -/
inductive RequestMove : RequestAction Response Body → Execution Key Hash Response Body →
    Option (CacheCall Response Body) → Prop
  | handled {a request} (ha : a ≠ .storeFinalizer) (hreq : e.request = .handling)
      (hnew : request ≠ .finalizing ∧ request ≠ .responded ∧ request ≠ .refused ∧
        request ≠ .answered) : RequestMove a { e with request := request } none
  | cleared (hreq : e.request = .failed) :
      RequestMove .clearFailed { e with request := .refused } (some .clear)
  | completed {response} (hreq : e.request = .buffered response) :
      RequestMove .completeBuffered { e with request := .answered } (some (.complete response))
  | stored {response} (hreq : e.request = .streaming response) :
      RequestMove .storeFinalizer
        { e with request := .finalizing, finalizer := some response } none
  | responded (hreq : e.request = .finalizing) :
      RequestMove .respond { e with request := .responded, body := .live false }
        (if e.terminalSent then e.completeIfReady else none)

/-- The steps of the writer. -/
inductive WriterMove : WriterAction Body → Execution Key Hash Response Body →
    Option (CacheCall Response Body) → Prop
  | created (hreq : e.request = .handling) (hw : e.writer = .absent) :
      WriterMove .create { e with writer := .opened } none
  | refused {f} (hw : e.writer = .opened) : WriterMove (.writeFrame f) e none
  | terminal {f} (hw : e.writer = .opened) (hopen : ¬ e.terminalSent = true) :
      WriterMove (.writeFrame f) { e with
        writer := .completing f, terminalSent := true, cachedBody := e.cachedBody ++ [f] } none
  | frame {f} (hw : e.writer = .opened) (hopen : ¬ e.terminalSent = true)
      (hterm : ¬ f.isTerminal = true) :
      WriterMove (.writeFrame f) { e with
        cachedBody := e.cachedBody ++ [f], channel := e.channel ++ [.frame f] } none
  | completed {f} (hw : e.writer = .completing f) :
      WriterMove .completeTerminal { e with writer := .sending f } e.completeIfReady
  | sent {f} (hw : e.writer = .sending f) :
      WriterMove .sendTerminal
        { e with writer := .opened, channel := e.channel ++ [.frame f] } none
  | dropped (hw : e.writer = .opened) (hsent : e.terminalSent = true) :
      WriterMove .drop { e with writer := .dropped } none
  | aborted (hw : e.writer = .opened) (hopen : ¬ e.terminalSent = true) :
      WriterMove .drop { e with writer := .closing, channel := e.channel ++ [.abort] } none
  | cleared (hw : e.writer = .closing) :
      WriterMove .clearDropped { e with writer := .dropped } e.clearIfReady

/-- The steps of the body. -/
inductive BodyMove : BodyAction → Execution Key Hash Response Body →
    Option (CacheCall Response Body) → Prop
  | awake (hbody : e.body = .live false) : BodyMove .poll { e with body := .live true } none
  | terminal {f rest} (hbody : e.body = .live true) (hch : e.channel = .frame f :: rest)
      (hterm : f.isTerminal = true) :
      BodyMove .poll { e with body := .completing, channel := rest } none
  | frame {f rest} (hbody : e.body = .live true) (hch : e.channel = .frame f :: rest) :
      BodyMove .poll { e with channel := rest } none
  | abort {rest} (hbody : e.body = .live true) (hch : e.channel = .abort :: rest) :
      BodyMove .poll { e with body := .clearing, channel := rest } none
  | closed (hbody : e.body = .live true) (hch : e.channel = []) (hw : e.writer = .dropped) :
      BodyMove .poll { e with body := .ending } none
  | idle (hbody : e.body ≠ .absent) : BodyMove .poll e none
  | completed (hbody : e.body = .completing) :
      BodyMove .completePolled { e with body := .live true } e.completeIfReady
  | cleared (hbody : e.body = .clearing) :
      BodyMove .clearPolled { e with body := .aborted } e.clearIfReady
  | ended (hbody : e.body = .ending) :
      BodyMove .clearEnded { e with body := .live true } e.clearIfReady
  | dropped (hbody : e.body ≠ .absent ∧ e.body ≠ .clearing) :
      BodyMove .drop { e with body := .dropped } none

end Moves

/-! ## One execution -/

/-- The writer was dropped, or is being dropped. -/
def writerGone (e : Execution Key Hash Response Body) : Prop :=
  e.writer = .closing ∨ e.writer = .dropped

/-- The handler returned an error, or a buffered body. -/
def handlerDone (e : Execution Key Hash Response Body) : Bool :=
  match e.request with
  | .failed | .refused | .buffered _ | .answered => true
  | _ => false

/-- The execution is over: it wrote its terminal frame, dropped its writer, or its
handler returned an error or a buffered body. -/
def ended (e : Execution Key Hash Response Body) : Prop :=
  e.terminalSent = true ∨ e.writerGone ∨ e.handlerDone = true

instance [DecidableEq Body] (e : Execution Key Hash Response Body) : Decidable e.ended :=
  inferInstanceAs (Decidable (_ ∨ (_ ∨ _) ∨ _))

/-- What the channel and the phases say about the writer: an `Abort` comes from a
writer that is gone, a terminal frame from one that has stored `terminal_sent`. -/
structure Sound (e : Execution Key Hash Response Body) : Prop where
  abort_gone : .abort ∈ e.channel → e.writerGone
  frame_terminal : ∀ f, .frame f ∈ e.channel → f.isTerminal = true → e.terminalSent = true
  writer_terminal : ∀ f, e.writer = .completing f ∨ e.writer = .sending f → e.terminalSent = true
  body_gone : e.body = .clearing ∨ e.body = .ending → e.writerGone
  body_terminal : e.body = .completing → e.terminalSent = true

/-- What one step of an execution does, whichever party takes it. -/
structure Steps (e e' : Execution Key Hash Response Body)
    (call : Option (CacheCall Response Body)) : Prop where
  same_key : e'.key = e.key
  same_hash : e'.hash = e.hash
  sound : e'.Sound
  stays_ended : e.ended → e'.ended
  call_ended : call ≠ none → e.ended

theorem requestStep_move (h : e.requestStep a = some (e', call)) : RequestMove e a e' call := by
  cases a with simp only [requestStep] at h
  | handlerError | handlerBuffered _ | clientGone =>
    split at h <;> cases h
    next hreq => exact .handled (by simp) hreq (by simp)
  | handlerStreaming _ =>
    split at h <;> cases h
    next hreq _ => exact .handled (by simp) hreq (by simp)
  | clearFailed =>
    split at h <;> cases h
    next hreq => exact .cleared hreq
  | completeBuffered =>
    split at h <;> cases h
    next hreq => exact .completed hreq
  | storeFinalizer =>
    split at h <;> cases h
    next hreq => exact .stored hreq
  | respond =>
    split at h <;> cases h
    next hreq => exact .responded hreq

theorem writerStep_move {a : WriterAction Body}
    (h : e.writerStep a = some (e', call)) : WriterMove e a e' call := by
  cases a with simp only [writerStep] at h
  | create =>
    split at h <;> cases h
    next hreq hw => exact .created hreq hw
  | writeFrame f =>
    split at h
    next hw =>
      split at h
      · cases h
        exact .refused hw
      next hopen =>
      split at h <;> cases h
      · exact .terminal hw hopen
      next hterm => exact .frame hw hopen hterm
    · cases h
  | completeTerminal =>
    split at h <;> cases h
    next hw => exact .completed hw
  | sendTerminal =>
    split at h <;> cases h
    next hw => exact .sent hw
  | drop =>
    split at h
    next hw =>
      split at h <;> cases h
      next hsent => exact .dropped hw hsent
      next hopen => exact .aborted hw hopen
    · cases h
  | clearDropped =>
    split at h <;> cases h
    next hw => exact .cleared hw

theorem bodyStep_move {a : BodyAction}
    (h : e.bodyStep a = some (e', call)) : BodyMove e a e' call := by
  cases a with simp only [bodyStep] at h
  | poll =>
    split at h
    next hbody =>
      cases h
      exact .awake hbody
    next hbody =>
      split at h
      next hch =>
        split at h <;> cases h
        next hterm => exact .terminal hbody hch hterm
        · exact .frame hbody hch
      next hch =>
        cases h
        exact .abort hbody hch
      next hch =>
      split at h <;> cases h
      next hw _ => exact .closed hbody hch hw
      · exact .idle (by simp [hbody])
    next hbody =>
      cases h
      exact .idle (by simp [hbody])
    · cases h
  | completePolled =>
    split at h <;> cases h
    next hbody => exact .completed hbody
  | clearPolled =>
    split at h <;> cases h
    next hbody => exact .cleared hbody
  | clearEnded =>
    split at h <;> cases h
    next hbody => exact .ended hbody
  | drop =>
    split at h <;> cases h
    next hbody => exact .dropped (by simp [hbody])
    next hbody => exact .dropped (by simp [hbody])

/-- Another request phase, when the old one did not mean that the handler is done. -/
theorem Steps.of_request (hs : e.Sound) (hreq : ¬ e.handlerDone = true)
    (request : RequestPhase Response Body) : Steps e { e with request := request } none where
  same_key := rfl
  same_hash := rfl
  sound := ⟨hs.abort_gone, hs.frame_terminal, hs.writer_terminal, hs.body_gone, hs.body_terminal⟩
  stays_ended := by
    rintro (hsent | hgone | hdone)
    · exact .inl hsent
    · exact .inr (.inl hgone)
    · exact absurd hdone hreq
  call_ended := by simp

theorem requestStep_steps (hs : e.Sound) (h : e.requestStep a = some (e', call)) :
    Steps e e' call := by
  have hsound : ∀ request, Sound { e with request := request } := fun _ =>
    ⟨hs.abort_gone, hs.frame_terminal, hs.writer_terminal, hs.body_gone, hs.body_terminal⟩
  cases requestStep_move h with
  | handled _ hreq => exact .of_request hs (by simp [handlerDone, hreq]) _
  | cleared hreq | completed hreq =>
    have hdone : e.handlerDone = true := by rw [handlerDone, hreq]
    exact ⟨rfl, rfl, hsound _, fun _ => .inr (.inr rfl), fun _ => .inr (.inr hdone)⟩
  | stored hreq =>
    have hsteps := Steps.of_request hs (by simp [handlerDone, hreq]) .finalizing
    exact ⟨rfl, rfl, ⟨hs.abort_gone, hs.frame_terminal, hs.writer_terminal, hs.body_gone,
      hs.body_terminal⟩, hsteps.stays_ended, by simp⟩
  | responded hreq =>
    have hsteps := Steps.of_request hs (by simp [handlerDone, hreq]) .responded
    refine ⟨rfl, rfl, ⟨hs.abort_gone, hs.frame_terminal, hs.writer_terminal, by simp, by simp⟩,
      hsteps.stays_ended, ?_⟩
    intro hcall
    by_cases hsent : e.terminalSent = true
    · exact .inl hsent
    · exact absurd (if_neg hsent) hcall

theorem mem_channel_append {m m' : StreamingMessage Body}
    (h : m ∈ e.channel ++ [m']) : m ∈ e.channel ∨ m = m' := by
  simpa using h

theorem writerStep_steps {a : WriterAction Body} (hs : e.Sound)
    (h : e.writerStep a = some (e', call)) : Steps e e' call := by
  -- a writer that is open, or in the middle of its terminal frame, is not gone
  have hkept : ∀ {w}, e.writer = w → w ≠ .closing → w ≠ .dropped → ¬ e.writerGone := by
    rintro w rfl hc hd (hgone | hgone)
    · exact hc hgone
    · exact hd hgone
  cases writerStep_move h with
  | created _ hw =>
    have hnot := hkept hw (by simp) (by simp)
    refine ⟨rfl, rfl, ⟨fun hm => absurd (hs.abort_gone hm) hnot, hs.frame_terminal, by simp,
      fun hb => absurd (hs.body_gone hb) hnot, hs.body_terminal⟩, ?_, by simp⟩
    rintro (hsent | hgone | hdone)
    · exact .inl hsent
    · exact absurd hgone hnot
    · exact .inr (.inr hdone)
  | refused => exact ⟨rfl, rfl, hs, id, by simp⟩
  | terminal hw =>
    have hnot := hkept hw (by simp) (by simp)
    exact ⟨rfl, rfl, ⟨fun hm => absurd (hs.abort_gone hm) hnot, fun _ _ _ => rfl,
      fun _ _ => rfl, fun hb => absurd (hs.body_gone hb) hnot, fun _ => rfl⟩,
      fun _ => .inl rfl, by simp⟩
  | frame _ _ hterm =>
    refine ⟨rfl, rfl, ⟨?_, ?_, hs.writer_terminal, hs.body_gone, hs.body_terminal⟩, id, by simp⟩
    · intro hm
      rcases mem_channel_append hm with hm | hm
      · exact hs.abort_gone hm
      · cases hm
    · intro g hm hg
      rcases mem_channel_append hm with hm | hm
      · exact hs.frame_terminal g hm hg
      · cases hm
        exact absurd hg hterm
  | @completed f hw =>
    have hnot := hkept hw (by simp) (by simp)
    have hsent := hs.writer_terminal f (.inl hw)
    exact ⟨rfl, rfl, ⟨fun hm => absurd (hs.abort_gone hm) hnot, hs.frame_terminal,
      fun _ _ => hsent, fun hb => absurd (hs.body_gone hb) hnot, hs.body_terminal⟩,
      fun _ => .inl hsent, fun _ => .inl hsent⟩
  | @sent f hw =>
    have hnot := hkept hw (by simp) (by simp)
    have hsent := hs.writer_terminal f (.inr hw)
    refine ⟨rfl, rfl, ⟨?_, fun _ _ _ => hsent, by simp, fun hb => absurd (hs.body_gone hb) hnot,
      hs.body_terminal⟩, fun _ => .inl hsent, by simp⟩
    intro hm
    rcases mem_channel_append hm with hm | hm
    · exact absurd (hs.abort_gone hm) hnot
    · cases hm
  | dropped =>
    exact ⟨rfl, rfl, ⟨fun _ => .inr rfl, hs.frame_terminal, by simp, fun _ => .inr rfl,
      hs.body_terminal⟩, fun _ => .inr (.inl (.inr rfl)), by simp⟩
  | aborted =>
    refine ⟨rfl, rfl, ⟨fun _ => .inl rfl, ?_, by simp, fun _ => .inl rfl, hs.body_terminal⟩,
      fun _ => .inr (.inl (.inl rfl)), by simp⟩
    intro g hm hg
    rcases mem_channel_append hm with hm | hm
    · exact hs.frame_terminal g hm hg
    · cases hm
  | cleared hw =>
    exact ⟨rfl, rfl, ⟨fun _ => .inr rfl, hs.frame_terminal, by simp, fun _ => .inr rfl,
      hs.body_terminal⟩, fun _ => .inr (.inl (.inr rfl)), fun _ => .inr (.inl (.inl hw))⟩

/-- The body only takes messages off the channel: what `Sound` says of the channel
stays, and only the new body phase is to be justified. -/
theorem Steps.of_body (hs : e.Sound) {body : BodyPhase} {channel : List (StreamingMessage Body)}
    (hsub : ∀ m ∈ channel, m ∈ e.channel) (hgone : body = .clearing ∨ body = .ending → e.writerGone)
    (hterm : body = .completing → e.terminalSent = true) (hcall : call ≠ none → e.ended) :
    Steps e { e with body := body, channel := channel } call where
  same_key := rfl
  same_hash := rfl
  sound := ⟨fun hm => hs.abort_gone (hsub _ hm), fun f hm => hs.frame_terminal f (hsub _ hm),
    hs.writer_terminal, hgone, hterm⟩
  stays_ended := id
  call_ended := hcall

theorem bodyStep_steps {a : BodyAction} (hs : e.Sound)
    (h : e.bodyStep a = some (e', call)) : Steps e e' call := by
  cases bodyStep_move h with
  | awake | dropped => exact .of_body hs (fun _ => id) (by simp) (by simp) (by simp)
  | @terminal f _ _ hch hterm =>
    have hhead : .frame f ∈ e.channel := hch ▸ mem_cons_self
    exact .of_body hs (fun m hm => hch ▸ mem_cons_of_mem _ hm) (by simp)
      (fun _ => hs.frame_terminal f hhead hterm) (by simp)
  | frame _ hch =>
    exact .of_body hs (fun m hm => hch ▸ mem_cons_of_mem _ hm) hs.body_gone hs.body_terminal
      (by simp)
  | abort _ hch =>
    have hhead : .abort ∈ e.channel := hch ▸ mem_cons_self
    exact .of_body hs (fun m hm => hch ▸ mem_cons_of_mem _ hm)
      (fun _ => hs.abort_gone hhead) (by simp) (by simp)
  | closed _ _ hw => exact .of_body hs (fun _ => id) (fun _ => .inr hw) (by simp) (by simp)
  | idle => exact ⟨rfl, rfl, hs, id, by simp⟩
  | completed hbody =>
    exact .of_body hs (fun _ => id) (by simp) (by simp) fun _ => .inl (hs.body_terminal hbody)
  | cleared hbody | ended hbody =>
    have hgone := hs.body_gone (by simp [hbody])
    exact .of_body hs (fun _ => id) (by simp) (by simp) fun _ => .inr (.inl hgone)

/-- A step of one of the three parties. -/
inductive Action (Response Body : Type) where
  | request (a : RequestAction Response Body)
  | writer (a : WriterAction Body)
  | body (a : BodyAction)
  deriving DecidableEq

def step (e : Execution Key Hash Response Body) :
    Action Response Body →
      Option (Execution Key Hash Response Body × Option (CacheCall Response Body))
  | .request a => e.requestStep a
  | .writer a => e.writerStep a
  | .body a => e.bodyStep a

theorem step_steps {a : Action Response Body} (hs : e.Sound)
    (h : e.step a = some (e', call)) : Steps e e' call := by
  cases a with
  | request a => exact requestStep_steps hs h
  | writer a => exact writerStep_steps hs h
  | body a => exact bodyStep_steps hs h

end Execution

/-! ## The server -/

/-- The shared cache, and every execution started so far, in the order they began. -/
structure Server (Key Hash Response Body : Type) where
  cache : IdempotencyCache Key Hash Response Body
  executions : List (Execution Key Hash Response Body)

/-- A request arrives, or a party of the `i`-th execution takes a step. -/
inductive ServerEvent (Key Hash Response Body : Type) where
  | arrive (key : Key) (hash : Hash)
  | act (i : Nat) (a : Execution.Action Response Body)
  deriving DecidableEq

namespace Server
variable {Key Hash Response Body : Type} [DecidableEq Key] [DecidableEq Hash]
  {s t : Server Key Hash Response Body} {key : Key} {hash : Hash}
  {a : Execution.Action Response Body} {c : IdempotencyCache Key Hash Response Body}
  {cacheCall : Option (CacheCall Response Body)}

def initial : Server Key Hash Response Body where
  cache := .new IDEMPOTENCY_CACHE_CAPACITY
  executions := []

/-- Make a call on the cache, if there is one to make. -/
def call (c : IdempotencyCache Key Hash Response Body) (key : Key) (hash : Hash) :
    Option (CacheCall Response Body) → IdempotencyCache Key Hash Response Body
  | none => c
  | some (.complete response) => c.complete key hash response
  | some .clear => c.clearActive key hash

def step (s : Server Key Hash Response Body) :
    ServerEvent Key Hash Response Body → Option (Server Key Hash Response Body)
  | .arrive key hash =>
      match s.cache.begin key hash with
      | (.started, cache) =>
          some { cache := cache, executions := s.executions ++ [{ key := key, hash := hash }] }
      | (_, cache) => some { s with cache := cache }
  | .act i a =>
      match s.executions[i]? with
      | none => none
      | some e =>
          match e.step a with
          | none => none
          | some (e', cacheCall) =>
              some { cache := call s.cache e.key e.hash cacheCall,
                     executions := s.executions.set i e' }

/-- **At most one handler execution per key is in flight.** -/
def AtMostOneInFlight (s : Server Key Hash Response Body) : Prop :=
  s.executions.Pairwise fun e₁ e₂ => e₁.key = e₂.key → e₁.ended ∨ e₂.ended

instance [DecidableEq Body] (s : Server Key Hash Response Body) : Decidable s.AtMostOneInFlight :=
  inferInstanceAs (Decidable (List.Pairwise _ _))

/-- No call on the cache comes late: when an execution completes or clears its entry,
no other execution of the same key and hash is in flight. -/
def Timely (s : Server Key Hash Response Body) : ServerEvent Key Hash Response Body → Prop
  | .arrive _ _ => True
  | .act i a =>
      match s.executions[i]? with
      | none => True
      | some e =>
          match e.step a with
          | some (_, some _) =>
              ∀ e₁ ∈ s.executions.eraseIdx i, e₁.key = e.key ∧ e₁.hash = e.hash → e₁.ended
          | _ => True

instance [DecidableEq Body] (s : Server Key Hash Response Body) :
    ∀ ev, Decidable (s.Timely ev)
  | .arrive _ _ => .isTrue trivial
  | .act i a =>
      match h : s.executions[i]? with
      | none => .isTrue (by simp [Timely, h])
      | some e =>
          match hstep : e.step a with
          | some (_, some _) =>
              decidable_of_iff (∀ e₁ ∈ s.executions.eraseIdx i,
                e₁.key = e.key ∧ e₁.hash = e.hash → e₁.ended) (by simp [Timely, h, hstep])
          | some (_, none) => .isTrue (by simp [Timely, h, hstep])
          | none => .isTrue (by simp [Timely, h, hstep])

/-- What the server keeps: every execution in flight has its own active entry. -/
structure Inv (s : Server Key Hash Response Body) : Prop where
  capacity : s.cache.capacity ≠ 0
  bounded : s.cache.Bounded
  sound : ∀ e ∈ s.executions, e.Sound
  active : ∀ e ∈ s.executions, ¬ e.ended → s.cache.status e.key = some (.active e.hash)
  one : s.AtMostOneInFlight

theorem step_arrive_cases (h : s.step (.arrive key hash) = some t) :
    t.cache = (s.cache.begin key hash).2 ∧
      (((s.cache.begin key hash).1 ≠ .started ∧ t.executions = s.executions) ∨
        ((s.cache.begin key hash).1 = .started ∧
          t.executions = s.executions ++ [{ key := key, hash := hash }])) := by
  simp only [step] at h
  split at h
  · next hb =>
    cases h
    exact ⟨by rw [hb], .inr ⟨by rw [hb], rfl⟩⟩
  · next hb =>
    cases h
    exact ⟨by rw [hb], .inl ⟨by rwa [hb], rfl⟩⟩

theorem step_act_cases {i : Nat} (h : s.step (.act i a) = some t) :
    ∃ e e' cacheCall, s.executions[i]? = some e ∧ e.step a = some (e', cacheCall) ∧
      t = { cache := call s.cache e.key e.hash cacheCall,
            executions := s.executions.set i e' } := by
  simp only [step] at h
  split at h
  · cases h
  · next e he =>
    split at h
    · cases h
    · next e' cacheCall hstep =>
      cases h
      exact ⟨e, e', cacheCall, he, hstep, rfl⟩

theorem call_edit : c.Edit key (call c key hash cacheCall) := by
  match cacheCall with
  | none => exact .same
  | some (.complete response) => exact IdempotencyCache.complete_edit
  | some .clear => exact IdempotencyCache.clearActive_edit

theorem call_keeps_active {k : Key} {h : Hash} (hk : c.status k = some (.active h))
    (hother : cacheCall ≠ none → ¬ (k = key ∧ h = hash)) :
    (call c key hash cacheCall).status k = some (.active h) := by
  match cacheCall with
  | none => exact hk
  | some (.complete response) =>
    exact IdempotencyCache.complete_keeps_active response hk (hother (by simp))
  | some .clear => exact IdempotencyCache.clearActive_keeps_active hk (hother (by simp))

omit [DecidableEq Hash] in
theorem inv_initial : (initial : Server Key Hash Response Body).Inv where
  capacity := by simp [initial, IdempotencyCache.new, IDEMPOTENCY_CACHE_CAPACITY]
  bounded := Nat.zero_le _
  sound := by simp [initial]
  active := by simp [initial]
  one := .nil

/-- An arriving request keeps the invariant: it starts only under a key without an
entry, so under a key without an execution in flight. -/
theorem inv_arrive (hs : s.Inv) (h : s.step (.arrive key hash) = some t) : t.Inv := by
  obtain ⟨hcache, hexec⟩ := step_arrive_cases h
  have hcap : t.cache.capacity ≠ 0 := by
    rw [hcache, IdempotencyCache.begin_edit.capacity]
    exact hs.capacity
  have hbounded : t.cache.Bounded := hcache ▸ IdempotencyCache.begin_edit.bounded hs.bounded
  rcases hexec with ⟨-, hsame⟩ | ⟨hstart, hnew⟩
  · refine ⟨hcap, hbounded, hsame ▸ hs.sound, ?_, ?_⟩
    · rw [hsame, hcache]
      exact fun e he hopen => IdempotencyCache.begin_keeps_active (hs.active e he hopen)
    · rw [AtMostOneInFlight, hsame]
      exact hs.one
  · have hnone := IdempotencyCache.status_of_begin_started hstart
    refine ⟨hcap, hbounded, ?_, ?_, ?_⟩
    · rw [hnew]
      intro e he
      rcases mem_append.mp he with he | he
      · exact hs.sound e he
      · rw [mem_singleton.mp he]
        exact ⟨by simp, by simp, by simp, by simp, by simp⟩
    · rw [hnew, hcache]
      intro e he hopen
      rcases mem_append.mp he with he | he
      · exact IdempotencyCache.begin_keeps_active (hs.active e he hopen)
      · rw [mem_singleton.mp he]
        exact IdempotencyCache.begin_started hstart hs.capacity
    · rw [AtMostOneInFlight, hnew, pairwise_append]
      refine ⟨hs.one, pairwise_singleton _ _, ?_⟩
      intro e he _ he₂ hkey
      rw [mem_singleton.mp he₂] at hkey
      refine .inl (Classical.byContradiction fun hopen => ?_)
      have hact := hs.active e he hopen
      rw [hkey, hnone] at hact
      cases hact

/-- A step of an execution keeps the invariant when its call on the cache is timely. -/
theorem inv_act {i : Nat} (hs : s.Inv) (hok : s.Timely (.act i a))
    (h : s.step (.act i a) = some t) : t.Inv := by
  obtain ⟨e, _, cacheCall, hi, hstep, rfl⟩ := step_act_cases h
  have hmem := mem_of_getElem? hi
  have hsteps := Execution.step_steps (hs.sound e hmem) hstep
  have hother : ∀ e₁ ∈ s.executions.eraseIdx i, cacheCall ≠ none → ¬ e₁.ended →
      ¬ (e₁.key = e.key ∧ e₁.hash = e.hash) := by
    intro e₁ he₁ hcall hopen hsame
    simp only [Timely, hi, hstep] at hok
    cases cacheCall with
    | none => exact hcall rfl
    | some c => exact hopen (hok e₁ he₁ hsame)
  refine ⟨?_, call_edit.bounded hs.bounded, ?_, ?_, ?_⟩
  · rw [call_edit.capacity]
    exact hs.capacity
  · intro e₁ he₁
    rcases ListUpdate.mem_set_cases he₁ with rfl | he₁
    · exact hsteps.sound
    · exact hs.sound e₁ (mem_of_mem_eraseIdx he₁)
  · intro e₁ he₁ hopen
    rcases ListUpdate.mem_set_cases he₁ with rfl | he₁
    · -- the execution itself is still in flight, so it made no call
      have hopen' : ¬ e.ended := fun he => hopen (hsteps.stays_ended he)
      rw [hsteps.same_key, hsteps.same_hash]
      refine call_keeps_active (hs.active e hmem hopen') fun hcall => ?_
      exact absurd (hsteps.call_ended hcall) hopen'
    · exact call_keeps_active (hs.active e₁ (mem_of_mem_eraseIdx he₁) hopen)
        fun hcall => hother e₁ he₁ hcall hopen
  · refine ListUpdate.pairwise_set hi hs.one ?_ ?_
    · intro _ hone hkey
      exact (hone (hsteps.same_key ▸ hkey)).imp_left hsteps.stays_ended
    · intro _ hone hkey
      exact (hone (hsteps.same_key ▸ hkey)).imp_right hsteps.stays_ended

theorem inv_step {ev : ServerEvent Key Hash Response Body} (hs : s.Inv) (hok : s.Timely ev)
    (h : s.step ev = some t) : t.Inv := by
  cases ev with
  | arrive => exact inv_arrive hs h
  | act i a => exact inv_act hs hok h

/-- A clear that comes late lets the next request under the key start beside the
execution in flight. -/
theorem late_clear (hs : s.Inv) {i : Nat} {e e' e₁ : Execution Key Hash Response Body}
    (hi : s.executions[i]? = some e) (hstep : e.step a = some (e', some .clear))
    (he₁ : e₁ ∈ s.executions.eraseIdx i) (hkey : e₁.key = e.key) (hhash : e₁.hash = e.hash)
    (hopen : ¬ e₁.ended) : ∃ t, Runs.Run step Runs.always s [.act i a, .arrive e.key e.hash] t ∧
      ¬ t.AtMostOneInFlight := by
  have hact := hs.active e₁ (mem_of_mem_eraseIdx he₁) hopen
  rw [hkey, hhash] at hact
  have hbegin := IdempotencyCache.begin_after_clearActive hs.bounded hact e.hash
  let s₁ : Server Key Hash Response Body :=
    { cache := s.cache.clearActive e.key e.hash, executions := s.executions.set i e' }
  have hstep₁ : s.step (.act i a) = some s₁ := by
    simp only [step, hi, hstep]
    rfl
  let t : Server Key Hash Response Body :=
    { cache := (s₁.cache.begin e.key e.hash).2,
      executions := s₁.executions ++ [{ key := e.key, hash := e.hash }] }
  have hstep₂ : s₁.step (.arrive e.key e.hash) = some t := by
    cases hb : s₁.cache.begin e.key e.hash with
    | mk began =>
      have hbegan : began = .started := (congrArg Prod.fst hb).symm.trans hbegin
      subst hbegan
      simp only [step, t, hb]
  refine ⟨t, .cons trivial hstep₁ (.cons trivial hstep₂ (.nil t)), ?_⟩
  intro hone
  have hmem : e₁ ∈ s₁.executions := by
    obtain ⟨j, _, hji, hget⟩ := mem_eraseIdx_iff_getElem.mp he₁
    refine mem_iff_getElem.mpr ⟨j, by rwa [length_set], ?_⟩
    rw [getElem_set_ne (fun h => hji h.symm), hget]
  rcases (pairwise_append.mp hone).2.2 e₁ hmem _ (mem_singleton_self _) hkey with
    hended | hended
  · exact hopen hended
  rcases hended with hsent | (hgone | hgone) | hdone
  · cases hsent
  · cases hgone
  · cases hgone
  · cases hdone

/-- **At most one execution per key is in flight as long as no call on the cache
comes late**, in every state such a run reaches; and from each of those states a
`clear_active` that does come late, followed by one request under the same key, puts
two in flight. -/
theorem at_most_one_in_flight {s : Server Key Hash Response Body}
    {evs : List (ServerEvent Key Hash Response Body)}
    (h : Runs.Run step Timely initial evs s) :
    s.AtMostOneInFlight ∧
      ∀ (i : Nat) (a : Execution.Action Response Body) (e e' e₁ : Execution Key Hash Response Body),
        s.executions[i]? = some e → e.step a = some (e', some .clear) →
        e₁ ∈ s.executions.eraseIdx i → e₁.key = e.key → e₁.hash = e.hash → ¬ e₁.ended →
        ∃ t, Runs.Run step Runs.always s [.act i a, .arrive e.key e.hash] t ∧
          ¬ t.AtMostOneInFlight := by
  have hinv := h.invariant inv_step inv_initial
  exact ⟨hinv.one, fun _ _ _ _ _ hi hstep he₁ hkey hhash hopen =>
    late_clear hinv hi hstep he₁ hkey hhash hopen⟩

/-! ### The stale `Abort` -/

section Witnesses

/-- The first execution is streaming, its client reads the response line, and its
writer is dropped without a terminal frame. -/
def abandonedStream : List (ServerEvent String Nat Unit Unit) :=
  [.arrive "k" 7,
   .act 0 (.writer .create),
   .act 0 (.request (.handlerStreaming ())),
   .act 0 (.request .storeFinalizer),
   .act 0 (.request .respond),
   .act 0 (.body .poll),
   .act 0 (.writer .drop),
   .act 0 (.writer .clearDropped)]

/-- The client retries, and only then the old body is polled to its `Abort`: this
clears the entry of the retry, and a third request starts beside it. -/
def staleAbort : List (ServerEvent String Nat Unit Unit) :=
  abandonedStream ++
    [.arrive "k" 7, .act 0 (.body .poll), .act 0 (.body .clearPolled), .arrive "k" 7]

theorem stale_abort_starts_twice :
    ∃ s, Runs.Run step Runs.always (initial : Server String Nat Unit Unit) staleAbort s ∧
      ¬ s.AtMostOneInFlight :=
  Runs.exists_run step Runs.always (by decide)

/-- A run without a late call: the abandoned stream and its retry. -/
theorem abandoned_stream_retry_in_flight :
    ∃ s, Runs.Run step Timely (initial : Server String Nat Unit Unit)
        (abandonedStream ++ [.arrive "k" 7]) s ∧ s.AtMostOneInFlight := by
  have hexec : ∃ s, Runs.Run step Timely (initial : Server String Nat Unit Unit)
      (abandonedStream ++ [.arrive "k" 7]) s ∧ True :=
    Runs.exists_run step Timely (by decide)
  obtain ⟨s, hrun, -⟩ := hexec
  exact ⟨s, hrun, (at_most_one_in_flight hrun).1⟩

end Witnesses

end Server
end Voom
