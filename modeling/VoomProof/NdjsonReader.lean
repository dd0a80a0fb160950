import VoomProof.ChunkedInput
import VoomProof.WireEnvelope

/-!
# The NDJSON progress-stream reader

`NdjsonReader` of `voom-worker-protocol`'s `wire/ndjson.rs`, over a transport
whose reads arrive in arbitrary non-empty chunks (`Chunked.Chunk`) and which then
ends, cleanly or with a read error. `serde_json::from_slice` is the parameter
`decode`.

The frame bound is enforced at two places: `readCappedLine` gives up as soon as a newline-free
run has grown past the bound, and `checkLine` measures the payload again because the chunk that
carries the newline is appended whole. `readCappedLineLoop_line` and `readCappedLineLoop_tail`
say what one line read does, whatever the cut.
-/

namespace Voom
open Chunked List

/-! ## The reader -/

/-- One outcome from `nextFrame`. -/
inductive NdjsonOutcome (Body : Type) where
  | frame (f : ProgressFrame Body)
  | streamEnd
  | terminated (f : ProgressFrame Body)
  deriving DecidableEq

/-- The transport below the reader: the reads still to come, and how it ends
(`some e` for a read error `e`, `none` for a clean end of file). -/
structure BufReader where
  chunks : List (Chunk UInt8)
  readError : Option String

/-- The reader's own fields, as the source has them. -/
structure NdjsonReader where
  reader : BufReader
  expectedLeaseId : LeaseId
  lastSeq : Option UInt64
  terminalSeen : Bool
  maxFrameBytes : Nat
  lineBuf : List UInt8

/-- Largest NDJSON frame payload a reader accepts by default. -/
def MAX_FRAME_BYTES : Nat := 64 * 1024

/-- The byte that ends a line. -/
def newline : UInt8 := 10

/-- The error of a stream that ends inside a line. -/
def truncatedFrame (bytes : Nat) : ProtocolError :=
  .malformedFrame ("stream truncated mid-frame: " ++ toString bytes ++
    " bytes accumulated without newline")

namespace NdjsonReader

/-- A reader at the start of a stream, with `with_max_frame_bytes` applied. -/
def new (reader : BufReader) (expectedLeaseId : LeaseId)
    (max : Nat := MAX_FRAME_BYTES) : NdjsonReader where
  reader := reader
  expectedLeaseId := expectedLeaseId
  lastSeq := none
  terminalSeen := false
  maxFrameBytes := max
  lineBuf := []

/-- The bytes the transport has still to deliver. -/
def input (r : NdjsonReader) : List UInt8 := flat r.reader.chunks

/-- The loop of `read_capped_line` over the reads still to come, with the bytes
buffered so far: what it returns, the buffer, and the reads left. -/
def readCappedLineLoop (max : Nat) (readError : Option String) :
    List UInt8 → List (Chunk UInt8) →
      Except ProtocolError Bool × List UInt8 × List (Chunk UInt8)
  | buf, [] =>
      match readError with
      | some e => (.error (.malformedFrame ("read error: " ++ e)), buf, [])
      | none => (.ok false, buf, [])
  | buf, c :: cs =>
      match c.val.findIdx? (· == newline) with
      | some nl => (.ok true, buf ++ c.val.take (nl + 1), consume (nl + 1) (c :: cs))
      | none =>
          if max < (buf ++ c.val).length then
            (.error (.frameTooLarge (buf ++ c.val).length max), buf ++ c.val, cs)
          else
            readCappedLineLoop max readError (buf ++ c.val) cs

/-- The reader with another line buffer, and other reads left. -/
def buffered (r : NdjsonReader) (buf : List UInt8) (cs : List (Chunk UInt8)) : NdjsonReader :=
  { r with lineBuf := buf, reader := { r.reader with chunks := cs } }

/-- Read one line, up to and including its newline, into `lineBuf`. -/
def readCappedLine (r : NdjsonReader) : Except ProtocolError Bool × NdjsonReader :=
  match readCappedLineLoop r.maxFrameBytes r.reader.readError r.lineBuf r.reader.chunks with
  | (res, buf, cs) => (res, r.buffered buf cs)

/-! ### What one line read does -/

/-- Nothing is lost or invented: the buffer and the reads left are still the
bytes there were. -/
theorem readCappedLineLoop_conserves (max : Nat) (readError : Option String) (buf : List UInt8)
    (cs : List (Chunk UInt8)) :
    (readCappedLineLoop max readError buf cs).2.1 ++
      flat (readCappedLineLoop max readError buf cs).2.2 = buf ++ flat cs := by
  induction cs generalizing buf with
  | nil => cases readError <;> rfl
  | cons c _ ih =>
    rw [readCappedLineLoop]
    split
    · next _ =>
      rw [flat_consume_cons, flat_cons, append_assoc, ← append_assoc (c.val.take _),
        take_append_drop]
    · split
      · rw [flat_cons, append_assoc]
      · rw [ih, flat_cons, append_assoc]

/-- A line that ends in a newline within the bound is read whole, however it is
cut; one past the bound is either refused on the way or read whole. -/
theorem readCappedLineLoop_line (max : Nat) (readError : Option String) (buf : List UInt8)
    {cs : List (Chunk UInt8)} {line rest : List UInt8} (hline : newline ∉ line)
    (hflat : flat cs = line ++ newline :: rest) :
    (∃ cs', flat cs' = rest ∧
      readCappedLineLoop max readError buf cs = (.ok true, buf ++ line ++ [newline], cs')) ∨
    (max < (buf ++ line).length ∧ ∃ bytes buf' cs',
      readCappedLineLoop max readError buf cs =
        (.error (.frameTooLarge bytes max), buf', cs')) := by
  induction cs generalizing buf line with
  | nil => simp at hflat
  | cons c _ ih =>
    rw [readCappedLineLoop]
    rw [flat_cons] at hflat
    split
    · next hnl =>
      obtain ⟨hpre, htake, hcut⟩ := cut_at hnl
      rw [hcut, append_assoc, cons_append] at hflat
      obtain ⟨hhead, htail⟩ := cut_unique hpre hline hflat
      refine .inl ⟨_, ?_, by rw [htake, hhead, append_assoc]⟩
      rw [flat_consume_cons, htail]
    · next hnl =>
      obtain ⟨line', rfl, hrest⟩ := before_cut (no_cut hnl) hflat
      split
      · next hmax =>
        refine .inr ⟨?_, _, _, _, rfl⟩
        simp only [length_append] at hmax ⊢
        omega
      · have hline' : newline ∉ line' := fun h => hline (mem_append_right _ h)
        have := ih (buf ++ c.val) hline' hrest
        simpa only [append_assoc] using this

/-- The unterminated tail: refused once it has grown past the bound, and otherwise
buffered up to the end of the transport. -/
theorem readCappedLineLoop_tail {max : Nat} (readError : Option String) (buf : List UInt8)
    {cs : List (Chunk UInt8)} (htail : newline ∉ flat cs) (hbuf : buf.length ≤ max) :
    if max < (buf ++ flat cs).length then
      ∃ bytes buf' cs', readCappedLineLoop max readError buf cs =
        (.error (.frameTooLarge bytes max), buf', cs')
    else
      readCappedLineLoop max readError buf cs =
        ((match readError with
          | some e => .error (.malformedFrame ("read error: " ++ e))
          | none => .ok false), buf ++ flat cs, []) := by
  induction cs generalizing buf with
  | nil =>
    rw [if_neg (by simpa using hbuf)]
    cases readError <;> simp [readCappedLineLoop]
  | cons c cs ih =>
    have hc : newline ∉ c.val := fun h => htail (mem_append_left _ h)
    have hcs : newline ∉ flat cs := fun h => htail (mem_append_right _ h)
    have hnl : c.val.findIdx? (· == newline) = none := by
      rw [findIdx?_eq_none_iff]
      intro b hb
      exact beq_eq_false_iff_ne.mpr (fun h => hc (h ▸ hb))
    simp only [readCappedLineLoop, hnl, flat_cons, ← append_assoc]
    by_cases hmax : max < (buf ++ c.val).length
    · rw [if_pos (by rw [length_append]; omega), if_pos hmax]
      exact ⟨_, _, _, rfl⟩
    · rw [if_neg hmax]
      exact ih _ hcs (Nat.not_lt.mp hmax)

/-! ### One frame -/

section NextFrame
variable {Body : Type} (decode : List UInt8 → Except String (ProgressFrame Body))
  {r r' : NdjsonReader} {res : Except ProtocolError (NdjsonOutcome Body)}

/-- What the reader makes of a decoded frame: `none` when it drops it. -/
def checkFrame (r : NdjsonReader) (f : ProgressFrame Body) :
    Option (Except ProtocolError (NdjsonOutcome Body) × NdjsonReader) :=
  -- the lease boundary comes before any sequence or terminal logic
  if f.leaseId ≠ r.expectedLeaseId then
    some (.error (.wrongLeaseId r.expectedLeaseId f.leaseId), r)
  else
    match r.lastSeq with
    | none =>
        if f.seq ≠ 0 then some (.error (.outOfOrderFrame 0 f.seq), r) else some (deliver f)
    | some last =>
        if f.seq ≤ last then none
        else if f.seq ≠ last + 1 then some (.error (.outOfOrderFrame (last + 1) f.seq), r)
        else some (deliver f)
where
  deliver (f : ProgressFrame Body) : Except ProtocolError (NdjsonOutcome Body) × NdjsonReader :=
    if f.isTerminal then
      (.ok (.terminated f), { r with lastSeq := some f.seq, terminalSeen := true })
    else
      (.ok (.frame f), { r with lastSeq := some f.seq })

/-- What the reader makes of a line it has buffered, newline included. -/
def checkLine (r : NdjsonReader) :
    Option (Except ProtocolError (NdjsonOutcome Body) × NdjsonReader) :=
  let payloadLen := r.lineBuf.length - 1
  if r.maxFrameBytes < payloadLen then
    some (.error (.frameTooLarge payloadLen r.maxFrameBytes), r)
  else
    match decode (r.lineBuf.take payloadLen) with
    | .error e => some (.error (.malformedFrame ("json decode: " ++ e)), r)
    | .ok f => checkFrame r f

theorem readCappedLine_conserves (r : NdjsonReader) :
    (readCappedLine r).2.lineBuf ++ (readCappedLine r).2.input = r.lineBuf ++ r.input :=
  readCappedLineLoop_conserves _ _ _ _

theorem readCappedLine_consumes {res : Except ProtocolError Bool}
    (hread : readCappedLine { r with lineBuf := [] } = (res, r')) (hne : r'.lineBuf ≠ []) :
    r'.input.length < r.input.length := by
  have hsum := congrArg length (readCappedLine_conserves { r with lineBuf := [] })
  have hpos := length_pos_iff.mpr hne
  simp only [hread, length_append, nil_append] at hsum
  change _ = r.input.length at hsum
  omega

/-- The loop of `next_frame`: read a line, and read on when its frame was dropped.
Every line read uses input up, so the loop ends with the stream at the latest. -/
def nextFrameLoop (r : NdjsonReader) : Except ProtocolError (NdjsonOutcome Body) × NdjsonReader :=
  match _hread : readCappedLine { r with lineBuf := [] } with
  | (.error e, r') => (.error e, r')
  | (.ok hadNewline, r') =>
      if _hempty : r'.lineBuf = [] then (.ok .streamEnd, r')
      else if !hadNewline then
        (.error (truncatedFrame r'.lineBuf.length), r')
      else
        match checkLine decode r' with
        | some res => res
        | none => nextFrameLoop r'
termination_by r.input.length
decreasing_by exact readCappedLine_consumes ‹_› ‹_›

/-- Read the next NDJSON frame. -/
def nextFrame (r : NdjsonReader) : Except ProtocolError (NdjsonOutcome Body) × NdjsonReader :=
  if r.terminalSeen then (.error .unexpectedFrameAfterTerminal, r)
  else nextFrameLoop decode r

/-! ### Draining a stream -/

theorem checkFrame_reader {f : ProgressFrame Body} (h : checkFrame r f = some (res, r')) :
    r'.reader = r.reader := by
  have hdeliver : (checkFrame.deliver r f).2.reader = r.reader := by
    unfold checkFrame.deliver
    split <;> rfl
  unfold checkFrame at h
  split at h
  · cases h; rfl
  split at h <;> split at h
  · cases h; rfl
  · rwa [Option.some.inj h] at hdeliver
  · cases h
  · split at h
    · cases h; rfl
    · rwa [Option.some.inj h] at hdeliver

theorem checkLine_reader (h : checkLine decode r = some (res, r')) : r'.reader = r.reader := by
  simp only [checkLine] at h
  split at h
  · cases h; rfl
  · split at h
    · cases h; rfl
    · exact checkFrame_reader h

/-- A delivered frame has used input up. -/
theorem nextFrame_consumes {f : ProgressFrame Body}
    (h : nextFrame decode r = (.ok (.frame f), r')) : r'.input.length < r.input.length := by
  have hloop : nextFrameLoop decode r = (.ok (.frame f), r') := by
    unfold nextFrame at h
    split at h
    · cases h
    · exact h
  clear h
  fun_induction nextFrameLoop decode r with
  | case1 | case2 | case3 => cases hloop
  | case4 r _ _ hread hne _ _ hcheck =>
    subst hloop
    have hkeep := checkLine_reader decode hcheck
    have hlt := readCappedLine_consumes hread hne
    unfold input at hlt ⊢
    rwa [hkeep]
  | case5 r _ _ hread hne _ _ ih =>
    exact Nat.lt_trans (ih hloop) (readCappedLine_consumes hread hne)

/-- Repeated `next_frame` calls up to the first error, terminal frame or end of
stream: their results, and the reader they leave. -/
def drain (r : NdjsonReader) :
    List (Except ProtocolError (NdjsonOutcome Body)) × NdjsonReader :=
  match _h : nextFrame decode r with
  | (.ok (.frame f), r') => (.ok (.frame f) :: (drain r').1, (drain r').2)
  | (res, r') => ([res], r')
termination_by r.input.length
decreasing_by all_goals exact nextFrame_consumes decode ‹_›

end NextFrame

end NdjsonReader

end Voom
