import VoomProof.IdempotencyCache
import VoomProof.Runs

/-!
# Completion of a streaming operation

`StreamingFrameWriter`, `StreamingBody::set_finalizer` and `LiveOperationBody` of
`voom-worker-protocol`'s `http/streaming.rs`, lock by lock.

The response of a streaming operation is recorded by `complete_if_ready`, which needs the
finalizer and is called from three sides: by the writer after it has stored `terminal_sent`, by
`set_finalizer` when it finds `terminal_sent` stored, and by a poll of the live body that takes
the terminal frame off the channel. Each access to the flag, the cached body, the finalizer
slot, the cache and the channel is one step here; `CompleteCall` stands between the three locks
that `complete_if_ready` takes in turn; each party may be held up between any two steps.

Why no completion is lost is the invariant `Settling.settled`: once `terminal_sent` is
stored the response is recorded, or the writer is still inside its call, or
`set_finalizer` has not returned yet. The writer stores the flag before it looks for
the finalizer and `set_finalizer` stores the finalizer before it looks for the flag, so
one of the two sees both. Why none is partial is `CompleteCall.Valid`: the flag is
stored after the terminal frame was appended, and nothing is appended after it.

A cached body is kept as the frames it has a line for.
-/

namespace Voom
open List Bool

/-- Where a call of `complete_if_ready` stands. -/
inductive CompleteCall (Response Body : Type) where
  | called
  | finalizerCloned (response : Response)
  | bodyCloned (cached : CachedResponse Response Body)
  deriving DecidableEq

/-- Where the writer stands: in no call, or in a call of `write_frame`. -/
inductive WriteCall (Response Body : Type) where
  | idle
  /-- `terminal_sent` was not stored and the frame was encoded. -/
  | checked (f : ProgressFrame Body)
  /-- The frame's line is in the cached body. -/
  | appended (f : ProgressFrame Body)
  /-- `terminal_sent` is stored. -/
  | completing (f : ProgressFrame Body) (c : CompleteCall Response Body)
  /-- All but the message to the body is done. -/
  | sending (f : ProgressFrame Body)
  deriving DecidableEq

/-- Where `set_finalizer` stands. -/
inductive FinalizerCall (Response Body : Type) where
  | pending
  /-- The finalizer is stored; `terminal_sent` is not looked at yet. -/
  | stored
  | completing (c : CompleteCall Response Body)
  | returned
  deriving DecidableEq

/-- Where the live response body stands. -/
inductive LiveBody (Response Body : Type) where
  /-- Between two polls; `lineTaken` once the response line was handed out. -/
  | live (lineTaken : Bool)
  /-- A poll has taken the terminal frame off the channel. -/
  | completing (f : ProgressFrame Body) (c : CompleteCall Response Body)
  | dropped
  deriving DecidableEq

/-- One streaming operation: the cache, what its parties share, where each of them
stands, and what was written and delivered so far. -/
structure Streaming (Key Hash Response Body : Type) where
  cache : IdempotencyCache Key Hash Response Body
  terminalSent : Bool := false
  cachedBody : List (ProgressFrame Body) := []
  finalizer : Option Response := none
  channel : List (ProgressFrame Body) := []
  writer : WriteCall Response Body := .idle
  request : FinalizerCall Response Body := .pending
  body : LiveBody Response Body := .live false
  /-- The frames whose `write_frame` has returned `Ok`. -/
  written : List (ProgressFrame Body) := []
  /-- The frames the live body has handed out. -/
  delivered : List (ProgressFrame Body) := []

/-- A call is made, or a call in progress takes its next step; `elsewhere` is whatever
other operations do to the cache. -/
inductive StreamingEvent (Key Hash Response Body : Type) where
  | writeFrame (f : ProgressFrame Body)
  | writer
  | setFinalizer (response : Response)
  | request
  | poll
  | body
  | dropBody
  | elsewhere (cache : IdempotencyCache Key Hash Response Body)

namespace Streaming
variable {Key Hash Response Body : Type} [DecidableEq Key] [DecidableEq Hash]
  (encode : ProgressFrame Body → Except String (List UInt8)) (key : Key) (hash : Hash)

/-- The next step of `complete_if_ready`, and `none` when it returns. -/
def completeStep (s : Streaming Key Hash Response Body) :
    CompleteCall Response Body →
      Option (CompleteCall Response Body) × IdempotencyCache Key Hash Response Body
  | .called => (s.finalizer.map .finalizerCloned, s.cache)
  | .finalizerCloned response => (some (.bodyCloned ⟨response, s.cachedBody⟩), s.cache)
  | .bodyCloned cached => (none, s.cache.complete key hash cached)

/-- What `write_frame` does before it takes a lock. -/
def beginWrite (s : Streaming Key Hash Response Body) (f : ProgressFrame Body) :
    Except ProtocolError (List UInt8) :=
  if s.terminalSent then .error (.malformedFrame "second terminal frame")
  else
    match encode f with
    | .error e => .error (.malformedFrame ("json encode: " ++ e))
    | .ok payload => .ok payload

/-- The channel after a frame was sent: a message to a body that is gone is lost. -/
def channelAfter (s : Streaming Key Hash Response Body) (f : ProgressFrame Body) :
    List (ProgressFrame Body) :=
  match s.body with
  | .dropped => s.channel
  | _ => s.channel ++ [f]

/-- The next step of a write in progress. -/
def writerStep (s : Streaming Key Hash Response Body) :
    Option (Streaming Key Hash Response Body) :=
  match s.writer with
  | .idle => none
  | .checked f => some { s with writer := .appended f, cachedBody := s.cachedBody ++ [f] }
  | .appended f =>
      if f.isTerminal then
        some { s with writer := .completing f .called, terminalSent := true }
      else some { s with writer := .sending f }
  | .completing f c =>
      match s.completeStep key hash c with
      | (some c', cache) => some { s with writer := .completing f c', cache := cache }
      | (none, cache) => some { s with writer := .sending f, cache := cache }
  | .sending f =>
      some { s with writer := .idle, written := s.written ++ [f], channel := s.channelAfter f }

/-- The next step of `set_finalizer`, after it has stored the finalizer. -/
def requestStep (s : Streaming Key Hash Response Body) :
    Option (Streaming Key Hash Response Body) :=
  match s.request with
  | .pending | .returned => none
  | .stored =>
      if s.terminalSent then some { s with request := .completing .called }
      else some { s with request := .returned }
  | .completing c =>
      match s.completeStep key hash c with
      | (some c', cache) => some { s with request := .completing c', cache := cache }
      | (none, cache) => some { s with request := .returned, cache := cache }

/-- A poll, up to the call of `complete_if_ready` if it makes one. -/
def poll (s : Streaming Key Hash Response Body) : Option (Streaming Key Hash Response Body) :=
  match s.body with
  | .live false => some { s with body := .live true }
  | .live true =>
      match s.channel with
      | [] => some s
      | f :: rest =>
          if f.isTerminal then some { s with body := .completing f .called, channel := rest }
          else some { s with channel := rest, delivered := s.delivered ++ [f] }
  | _ => none

/-- The next step of a poll that has taken the terminal frame. -/
def bodyStep (s : Streaming Key Hash Response Body) : Option (Streaming Key Hash Response Body) :=
  match s.body with
  | .completing f c =>
      match s.completeStep key hash c with
      | (some c', cache) => some { s with body := .completing f c', cache := cache }
      | (none, cache) =>
          some { s with body := .live true, cache := cache, delivered := s.delivered ++ [f] }
  | _ => none

/-- The response is built when `set_finalizer` has returned, so only then is there a
body to be polled or dropped. -/
def step (s : Streaming Key Hash Response Body) :
    StreamingEvent Key Hash Response Body → Option (Streaming Key Hash Response Body)
  | .writeFrame f =>
      match s.writer, s.beginWrite encode f with
      | .idle, .ok _ => some { s with writer := .checked f }
      | .idle, .error _ => some s
      | _, _ => none
  | .writer => s.writerStep key hash
  | .setFinalizer response =>
      match s.request with
      | .pending => some { s with request := .stored, finalizer := some response }
      | _ => none
  | .request => s.requestStep key hash
  | .poll =>
      match s.request with
      | .returned => s.poll
      | _ => none
  | .body => s.bodyStep key hash
  | .dropBody =>
      match s.request, s.body with
      | .returned, .live _ => some { s with body := .dropped, channel := [] }
      | _, _ => none
  | .elsewhere cache => some { s with cache := cache }

/-- No other operation touches this key. -/
def Undisturbed (s : Streaming Key Hash Response Body) :
    StreamingEvent Key Hash Response Body → Prop
  | .elsewhere cache =>
      cache.capacity = s.cache.capacity ∧ cache.status key = s.cache.status key
  | _ => True

instance [DecidableEq Response] [DecidableEq Body] (s : Streaming Key Hash Response Body) :
    ∀ ev, Decidable (s.Undisturbed key ev)
  | .elsewhere _ => inferInstanceAs (Decidable (_ ∧ _))
  | .writeFrame _ | .writer | .setFinalizer _ | .request | .poll | .body | .dropBody =>
      .isTrue trivial

/-! ## What the parties know -/

/-- The frame of the write in progress, once its line is in the cached body. -/
def unsent (s : Streaming Key Hash Response Body) : List (ProgressFrame Body) :=
  match s.writer with
  | .appended f | .completing f _ | .sending f => [f]
  | .idle | .checked _ => []

/-- The terminal frame of the poll in progress. -/
def inHand (s : Streaming Key Hash Response Body) : List (ProgressFrame Body) :=
  match s.body with
  | .completing f _ => [f]
  | _ => []

/-- A call of `complete_if_ready` is made after the terminal frame only, and what it
has cloned is what it would clone now. -/
def ValidCall (s : Streaming Key Hash Response Body) : CompleteCall Response Body → Prop
  | .called => s.terminalSent = true
  | .finalizerCloned response => s.terminalSent = true ∧ s.finalizer = some response
  | .bodyCloned cached => s.terminalSent = true ∧ s.finalizer = some cached.response ∧
      cached.body = s.cachedBody

/-- The response is recorded, with the whole cached body. -/
def Recorded (s : Streaming Key Hash Response Body) : Prop :=
  ∃ response, s.finalizer = some response ∧
    s.cache.status key = some (.completed hash ⟨response, s.cachedBody⟩)

/-- What holds between any two steps. -/
structure Settling (s : Streaming Key Hash Response Body) : Prop where
  capacity : s.cache.capacity ≠ 0
  entry : s.cache.status key = some (.active hash) ∨
    s.terminalSent = true ∧ s.Recorded key hash
  cached : s.cachedBody = s.written ++ s.unsent
  sent : s.body ≠ .dropped → s.delivered ++ s.inHand ++ s.channel = s.written
  writing : ∀ f, s.writer = .checked f ∨ s.writer = .appended f → s.terminalSent = false
  flagged : ∀ f c, s.writer = .completing f c → f.isTerminal = true
  sending : ∀ f, s.writer = .sending f → f.isTerminal = s.terminalSent
  -- the terminal frame is written last
  earlier : s.terminalSent = false ∨ s.writer ≠ .idle → ∀ f ∈ s.written, f.isTerminal = false
  finalizer : s.finalizer = none ↔ s.request = .pending
  writer_call : ∀ f c, s.writer = .completing f c → s.ValidCall c
  request_call : ∀ c, s.request = .completing c → s.ValidCall c
  body_call : ∀ f c, s.body = .completing f c → s.ValidCall c
  settled : s.terminalSent = true →
    s.Recorded key hash ∨ (∃ f c, s.writer = .completing f c) ∨ s.request ≠ .returned

variable {key hash} {s t : Streaming Key Hash Response Body}

omit [DecidableEq Key] [DecidableEq Hash] in
theorem ValidCall.terminalSent {c : CompleteCall Response Body} (h : s.ValidCall c) :
    s.terminalSent = true := by
  cases c with
  | called => exact h
  | finalizerCloned | bodyCloned => exact h.1

/-- A response recorded over the entry of its own key and hash is found there. -/
theorem complete_recorded {c : IdempotencyCache Key Hash Response Body}
    {cached : CachedResponse Response Body} {status : IdempotencyStatus Hash Response Body}
    (hcap : c.capacity ≠ 0) (hentry : c.status key = some status) (hhash : status.hash = hash) :
    (c.complete key hash cached).status key = some (.completed hash cached) := by
  rw [IdempotencyCache.complete_of_some hcap hentry, if_pos hhash]
  exact AList.lookup_insert c.entries

/-- **One step of `complete_if_ready`**: it goes on with what it has cloned, or returns, where
it finds no finalizer or has recorded the response. -/
theorem completeStep_cases (hs : s.Settling key hash) {c : CompleteCall Response Body}
    (hc : s.ValidCall c) :
    (∃ c', s.completeStep key hash c = (some c', s.cache) ∧ s.ValidCall c') ∨
    ∃ cache, s.completeStep key hash c = (none, cache) ∧
      Settling key hash { s with cache := cache } ∧
      (Recorded key hash { s with cache := cache } ∨ s.request = .pending) := by
  cases c with
  | called =>
    rcases Option.eq_none_or_eq_some s.finalizer with hf | ⟨response, hf⟩
    · exact .inr ⟨s.cache, by simp [completeStep, hf], hs, .inr (hs.finalizer.mp hf)⟩
    · exact .inl ⟨.finalizerCloned response, by rw [completeStep, hf]; rfl, hc, hf⟩
  | finalizerCloned => exact .inl ⟨_, rfl, hc.1, hc.2, rfl⟩
  | bodyCloned cached =>
    obtain ⟨response, body⟩ := cached
    obtain ⟨hsent, hf, hbody⟩ := hc
    have hrec : Recorded key hash
        { s with cache := s.cache.complete key hash ⟨response, body⟩ } := by
      refine ⟨response, hf, ?_⟩
      rw [show body = s.cachedBody from hbody]
      rcases hs.entry with hentry | ⟨_, _, _, hentry⟩
      · exact complete_recorded hs.capacity hentry rfl
      · exact complete_recorded hs.capacity hentry rfl
    exact .inr ⟨_, rfl, { hs with
      capacity := by rw [IdempotencyCache.complete_edit.capacity]; exact hs.capacity
      entry := .inr ⟨hsent, hrec⟩
      settled := fun _ => .inl hrec }, .inl hrec⟩

/-! ### Each step keeps what they know -/

theorem settling_writeFrame {f : ProgressFrame Body} (hs : s.Settling key hash)
    (h : s.step encode key hash (.writeFrame f) = some t) : t.Settling key hash := by
  simp only [step] at h
  split at h
  · next hidle hbegin =>
    cases h
    have hopen : s.terminalSent = false := by
      unfold beginWrite at hbegin
      split at hbegin
      · cases hbegin
      · next hsent => exact eq_false_iff.mpr hsent
    exact { hs with
      cached := by rw [hs.cached, unsent, hidle]; rfl
      writing := fun _ _ => hopen
      flagged := by simp
      sending := by simp
      earlier := fun _ => hs.earlier (.inl hopen)
      writer_call := by simp
      settled := by simp [hopen] }
  · cases h
    exact hs
  · cases h

section
variable (hs : s.Settling key hash)
include hs

omit [DecidableEq Hash] in
/-- Before the terminal frame there is no call of `complete_if_ready`, and so nothing
is recorded. -/
theorem Settling.before_terminal (hopen : s.terminalSent = false) :
    s.cache.status key = some (.active hash) ∧ (∀ c, s.request ≠ .completing c) ∧
      ∀ f c, s.body ≠ .completing f c := by
  have hno : ∀ c, ¬ s.ValidCall c := by
    intro c hc
    rw [hc.terminalSent] at hopen
    cases hopen
  refine ⟨?_, fun c h => hno c (hs.request_call c h), fun f c h => hno c (hs.body_call f c h)⟩
  rcases hs.entry with hact | ⟨hsent, _⟩
  · exact hact
  · rw [hopen] at hsent
    cases hsent

theorem settling_writer (h : s.step encode key hash .writer = some t) : t.Settling key hash := by
  simp only [step, writerStep] at h
  split at h
  · cases h
  · next f hw =>
    cases h
    have hopen := hs.writing f (.inl hw)
    obtain ⟨hact, hreq, hbody⟩ := hs.before_terminal hopen
    exact { hs with
      entry := .inl hact
      cached := by rw [hs.cached, unsent, hw, append_nil]; rfl
      writing := fun _ _ => hopen
      flagged := by simp
      sending := by simp
      earlier := fun _ => hs.earlier (.inl hopen)
      writer_call := by simp
      request_call := fun c hc => absurd hc (hreq c)
      body_call := fun g c hc => absurd hc (hbody g c)
      settled := by simp [hopen] }
  · next f hw =>
    have hopen := hs.writing f (.inr hw)
    obtain ⟨hact, hreq, hbody⟩ := hs.before_terminal hopen
    have hcached : s.cachedBody = s.written ++ [f] := by rw [hs.cached, unsent, hw]
    split at h
    · next hterm =>
      cases h
      exact { hs with
        entry := .inl hact
        cached := hcached
        writing := by simp
        flagged := by rintro g c ⟨⟩; exact hterm
        sending := by simp
        earlier := fun _ => hs.earlier (.inl hopen)
        writer_call := by rintro g c ⟨⟩; rfl
        request_call := fun c hc => absurd hc (hreq c)
        body_call := fun g c hc => absurd hc (hbody g c)
        settled := fun _ => .inr (.inl ⟨f, .called, rfl⟩) }
    · next hterm =>
      cases h
      exact { hs with
        cached := hcached
        writing := by simp
        flagged := by simp
        sending := by rintro g ⟨⟩; rw [hopen]; exact eq_false_iff.mpr hterm
        earlier := fun _ => hs.earlier (.inl hopen)
        writer_call := by simp
        settled := by simp [hopen] }
  · next f c hw =>
    have hcall := hs.writer_call f c hw
    have hsent := hcall.terminalSent
    have hterm := hs.flagged f c hw
    have hcached : s.cachedBody = s.written ++ [f] := by rw [hs.cached, unsent, hw]
    have hearlier := hs.earlier (.inr (by simp [hw]))
    rcases completeStep_cases hs hcall with ⟨c', hstep, hval⟩ | ⟨_, hstep, hs', hdone⟩
    · rw [hstep] at h
      cases h
      exact { hs with
        cached := hcached
        writing := by simp
        flagged := by rintro g c ⟨⟩; exact hterm
        sending := by simp
        earlier := fun _ => hearlier
        writer_call := by rintro g c ⟨⟩; exact hval
        settled := fun _ => .inr (.inl ⟨f, c', rfl⟩) }
    · rw [hstep] at h
      cases h
      exact { hs' with
        cached := hcached
        writing := by simp
        flagged := by simp
        sending := by rintro g ⟨⟩; rw [hterm, hsent]
        earlier := fun _ => hearlier
        writer_call := by simp
        settled := fun _ => hdone.imp_right fun hpend => .inr (by simp [hpend]) }
  · next f hw =>
    cases h
    have hflag := hs.sending f hw
    exact { hs with
      cached := by rw [hs.cached, unsent, hw]; exact (append_nil _).symm
      sent := by
        intro hbody
        have hchannel : s.channelAfter f = s.channel ++ [f] := by
          unfold channelAfter
          split
          · next hdropped => exact absurd hdropped hbody
          · rfl
        change s.delivered ++ s.inHand ++ s.channelAfter f = s.written ++ [f]
        rw [hchannel, ← hs.sent hbody, append_assoc _ s.channel]
      writing := by simp
      flagged := by simp
      sending := by simp
      earlier := by
        rintro (hopen | hwriting)
        · refine forall_mem_append.mpr ⟨hs.earlier (.inl hopen), ?_⟩
          rintro g hg
          rw [mem_singleton.mp hg, hflag]
          exact hopen
        · exact absurd rfl hwriting
      writer_call := by simp
      settled := by
        intro hsent
        rcases hs.settled hsent with hrec | ⟨g, c, hcall⟩ | hreq
        · exact .inl hrec
        · rw [hw] at hcall
          cases hcall
        · exact .inr (.inr hreq) }

theorem settling_setFinalizer {response : Response}
    (h : s.step encode key hash (.setFinalizer response) = some t) : t.Settling key hash := by
  simp only [step] at h
  split at h
  · next hpend =>
    cases h
    have hnone := hs.finalizer.mpr hpend
    -- whoever is in a call has not looked for the finalizer yet
    have hcall : ∀ {c}, s.ValidCall c →
        ValidCall { s with request := .stored, finalizer := some response } c := by
      intro c hc
      cases c with
      | called => exact hc
      | finalizerCloned r => rw [ValidCall, hnone] at hc; cases hc.2
      | bodyCloned => rw [ValidCall, hnone] at hc; cases hc.2.1
    exact { hs with
      entry := by
        rcases hs.entry with hact | ⟨_, r, hfin, _⟩
        · exact .inl hact
        · rw [hnone] at hfin
          cases hfin
      finalizer := by simp
      writer_call := fun f c hw => hcall (hs.writer_call f c hw)
      request_call := by simp
      body_call := fun f c hb => hcall (hs.body_call f c hb)
      settled := fun _ => .inr (.inr (by simp)) }
  · cases h

theorem settling_request (h : s.step encode key hash .request = some t) : t.Settling key hash := by
  simp only [step, requestStep] at h
  have hfinalizer : s.request ≠ .pending → s.finalizer ≠ none :=
    fun hne hnone => hne (hs.finalizer.mp hnone)
  split at h
  · cases h
  · cases h
  · next hstored =>
    have hsome := hfinalizer (by simp [hstored])
    split at h
    · next hsent =>
      cases h
      exact { hs with
        finalizer := by simp [hsome]
        request_call := by rintro c ⟨⟩; exact hsent
        settled := fun _ => .inr (.inr (by simp)) }
    · next hopen =>
      cases h
      exact { hs with
        finalizer := by simp [hsome]
        request_call := by simp
        settled := fun hsent => absurd hsent hopen }
  · next c hreq =>
    have hsome := hfinalizer (by simp [hreq])
    have hcall := hs.request_call c hreq
    rcases completeStep_cases hs hcall with ⟨_, hstep, hval⟩ | ⟨_, hstep, hs', hrec | hpend⟩
    · rw [hstep] at h
      cases h
      exact { hs with
        finalizer := by simp [hsome]
        request_call := by rintro c ⟨⟩; exact hval
        settled := fun _ => .inr (.inr (by simp)) }
    · rw [hstep] at h
      cases h
      exact { hs' with
        finalizer := by simp [hsome]
        request_call := by simp
        settled := fun _ => .inl hrec }
    · rw [hreq] at hpend
      cases hpend

theorem settling_poll (h : s.step encode key hash .poll = some t) : t.Settling key hash := by
  simp only [step] at h
  split at h
  · simp only [poll] at h
    split at h
    · next hbody =>
      cases h
      exact { hs with
        sent := fun _ => by
          have hsent := hs.sent (by simp [hbody])
          rw [inHand, hbody] at hsent
          exact hsent
        body_call := by simp }
    · next hbody =>
      have hsent := hs.sent (by simp [hbody])
      rw [inHand, hbody, append_nil] at hsent
      split at h
      · cases h
        exact hs
      · next f _ hch =>
        rw [hch] at hsent
        split at h
        · next hterm =>
          cases h
          -- a terminal frame comes after its flag
          have hflag : s.terminalSent = true := by
            by_contra hopen
            have hwrit : f ∈ s.written := by rw [← hsent]; simp
            rw [hs.earlier (.inl (eq_false_iff.mpr hopen)) f hwrit] at hterm
            cases hterm
          exact { hs with
            sent := fun _ => by
              rw [← hsent, append_assoc]
              rfl
            body_call := by rintro g c ⟨⟩; exact hflag }
        · cases h
          exact { hs with
            sent := fun _ => by
              rw [inHand, hbody, ← hsent, append_nil, append_assoc]
              rfl }
    · cases h
  · cases h

theorem settling_body (h : s.step encode key hash .body = some t) : t.Settling key hash := by
  simp only [step, bodyStep] at h
  split at h
  · next f c hbody =>
    have hcall := hs.body_call f c hbody
    have hsent := hs.sent (by simp [hbody])
    rw [inHand, hbody] at hsent
    rcases completeStep_cases hs hcall with ⟨_, hstep, hval⟩ | ⟨_, hstep, hs', -⟩
    · rw [hstep] at h
      cases h
      exact { hs with
        sent := fun _ => hsent
        body_call := by rintro g c ⟨⟩; exact hval }
    · rw [hstep] at h
      cases h
      exact { hs' with
        sent := fun _ => by
          change s.delivered ++ [f] ++ [] ++ s.channel = s.written
          rw [append_nil, hsent]
        body_call := by simp }
  · cases h

theorem settling_dropBody (h : s.step encode key hash .dropBody = some t) :
    t.Settling key hash := by
  simp only [step] at h
  split at h
  · cases h
    exact { hs with
      sent := by simp
      body_call := by simp }
  · cases h

end

variable {cache : IdempotencyCache Key Hash Response Body}

/-- Others may do to the cache what they like, as long as this key is left alone. -/
theorem settling_elsewhere (hs : s.Settling key hash) (hok : s.Undisturbed key (.elsewhere cache))
    (h : s.step encode key hash (.elsewhere cache) = some t) : t.Settling key hash := by
  cases h
  obtain ⟨hcap, hstat⟩ := hok
  have hrecorded : s.Recorded key hash → Recorded key hash { s with cache := cache } := by
    rintro ⟨response, hfin, hrec⟩
    exact ⟨response, hfin, hstat.trans hrec⟩
  exact { hs with
    capacity := by rw [hcap]; exact hs.capacity
    entry := hs.entry.imp hstat.trans (And.imp_right hrecorded)
    settled := fun hsent => (hs.settled hsent).imp_left hrecorded }

theorem settling_step {ev : StreamingEvent Key Hash Response Body} (hs : s.Settling key hash)
    (hok : s.Undisturbed key ev) (h : s.step encode key hash ev = some t) :
    t.Settling key hash := by
  cases ev with
  | writeFrame f => exact settling_writeFrame encode hs h
  | writer => exact settling_writer encode hs h
  | setFinalizer => exact settling_setFinalizer encode hs h
  | request => exact settling_request encode hs h
  | poll => exact settling_poll encode hs h
  | body => exact settling_body encode hs h
  | dropBody => exact settling_dropBody encode hs h
  | elsewhere => exact settling_elsewhere encode hs hok h

omit [DecidableEq Hash] in
theorem settling_start (hcap : cache.capacity ≠ 0)
    (hact : cache.status key = some (.active hash)) : Settling key hash { cache := cache } where
  capacity := hcap
  entry := .inl hact
  cached := rfl
  sent _ := rfl
  writing := by simp
  flagged := by simp
  sending := by simp
  earlier := by simp
  finalizer := by simp
  writer_call := by simp
  request_call := by simp
  body_call := by simp
  settled := by simp

/-- The writer looks for the finalizer just before it is stored, and the terminal frame
is polled off the channel in the end. -/
def crossing : List (StreamingEvent String Nat Unit Unit) :=
  [.writeFrame (.progress 1 0 ()), .writer, .writer, .writer,
   .writeFrame (.result 1 1 ()), .writer, .writer, .writer,
   .setFinalizer (), .writer, .request, .request, .request, .request,
   .poll, .poll, .poll, .body, .body, .body]

/-- A cache with one operation under way. -/
def oneActive : IdempotencyCache String Nat Unit Unit :=
  ((IdempotencyCache.new IDEMPOTENCY_CACHE_CAPACITY).begin "k" 7).2

end Streaming
end Voom
