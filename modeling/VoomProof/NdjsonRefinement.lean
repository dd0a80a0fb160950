import VoomProof.NdjsonReader

/-!
# The NDJSON reader refines a specification without chunks

`NdjsonSpec.results` knows nothing of reads and buffers: it splits the whole input
on newlines and walks the lines with the one number it needs, the sequence number
that must come next.

**The reader refines it** (`drain_refines`): draining a reader gives exactly those
results for every cut of the input into chunks, up to the byte count inside
`FrameTooLarge`, which does depend on the cut. The proof is one call at a time:
`Meets` says how one call's result stands to the specification of the rest of the
stream, `nextFrameLoop_meets` proves it by induction on the input left (dropped
duplicates are consumed inside the call), and `drain_meets` chains the calls.
-/

namespace Voom
open Chunked List

/-! ## The specification -/

namespace NdjsonSpec
variable {Body : Type} (decode : List UInt8 → Except String (ProgressFrame Body)) (lease max : Nat)
  (readError : Option String) {payload : List UInt8} {f : ProgressFrame Body}

/-- What a complete line means to the stream. -/
inductive Verdict (Body : Type) where
  | skip
  | deliver (f : ProgressFrame Body)
  | stop (res : Except ProtocolError (NdjsonOutcome Body))

/-- A complete line, when `next` is the sequence number that must come next. -/
def line (next : Nat) (payload : List UInt8) : Verdict Body :=
  if max < payload.length then .stop (.error (.frameTooLarge payload.length max))
  else
    match decode payload with
    | .error e => .stop (.error (.malformedFrame ("json decode: " ++ e)))
    | .ok f =>
        if f.leaseId ≠ lease then .stop (.error (.wrongLeaseId lease f.leaseId))
        else if f.seq.toNat < next then .skip
        else if next < f.seq.toNat then
          .stop (.error (.outOfOrderFrame (UInt64.ofNat next) f.seq))
        else if f.isTerminal then .stop (.ok (.terminated f))
        else .deliver f

/-- The bytes after the last newline, when the input is over. -/
def tail (bytes : List UInt8) : Except ProtocolError (NdjsonOutcome Body) :=
  if max < bytes.length then .error (.frameTooLarge bytes.length max)
  else
    match readError with
    | some e => .error (.malformedFrame ("read error: " ++ e))
    | none =>
        if bytes = [] then .ok .streamEnd
        else .error (truncatedFrame bytes.length)

/-- The results of a whole stream, given as its split on newlines: complete lines,
and last the unterminated tail. -/
def results (next : Nat) : List (List UInt8) → List (Except ProtocolError (NdjsonOutcome Body))
  | [] => []
  | [bytes] => [tail max readError bytes]
  | payload :: more :: rest =>
      match line decode lease max next payload with
      | .skip => results next (more :: rest)
      | .deliver f => .ok (.frame f) :: results (next + 1) (more :: rest)
      | .stop res => [res]

/-- A frame that is delivered is not terminal and carries the number that must
come next. -/
theorem line_deliver {next : Nat} (h : line decode lease max next payload = .deliver f) :
    f.isTerminal = false ∧ f.seq.toNat = next := by
  unfold line at h
  split at h
  · cases h
  split at h
  · cases h
  · next g _ =>
    repeat' split at h
    all_goals cases h
    exact ⟨by simp_all, by omega⟩

/-- A terminal frame the stream stops with carries the number that must come next. -/
theorem line_terminated {next : Nat}
    (h : line decode lease max next payload = .stop (.ok (.terminated f))) :
    f.isTerminal = true ∧ f.seq.toNat = next := by
  unfold line at h
  split at h
  · cases h
  split at h
  · cases h
  · repeat' split at h
    all_goals cases h
    exact ⟨by assumption, by omega⟩

theorem line_stop_ne_frame {next : Nat} :
    line decode lease max next payload ≠ .stop (.ok (.frame f)) := by
  intro h
  unfold line at h
  repeat' split at h
  all_goals cases h

theorem tail_ne_frame (bytes : List UInt8) (f : ProgressFrame Body) :
    tail max readError bytes ≠ .ok (.frame f) ∧
      tail max readError bytes ≠ .ok (.terminated f) := by
  unfold tail
  repeat' split
  all_goals simp

theorem results_line (next : Nat) (payload : List UInt8) (input : List UInt8) :
    results decode lease max readError next (payload :: input.splitOn newline) =
      match line decode lease max next payload with
      | .skip => results decode lease max readError next (input.splitOn newline)
      | .deliver f =>
          .ok (.frame f) :: results decode lease max readError (next + 1) (input.splitOn newline)
      | .stop res => [res] := by
  cases h : input.splitOn newline with
  | nil => exact absurd h (splitOn_ne_nil newline input)
  | cons => rfl

end NdjsonSpec

/-- A result without the byte count that `FrameTooLarge` reports. -/
def eraseBytes {Body : Type} :
    Except ProtocolError (NdjsonOutcome Body) → Except ProtocolError (NdjsonOutcome Body)
  | .error (.frameTooLarge _ max) => .error (.frameTooLarge 0 max)
  | res => res

/-! ## The reader refines the specification -/

namespace NdjsonReader
variable {Body : Type} (decode : List UInt8 → Except String (ProgressFrame Body))
  {r r' : NdjsonReader}

/-- The sequence number the reader must deliver next. -/
def nextSeq (r : NdjsonReader) : Nat :=
  match r.lastSeq with
  | none => 0
  | some last => last.toNat + 1

/-- What the specification says of the rest of a reader's stream. -/
def specified (r : NdjsonReader) : List (Except ProtocolError (NdjsonOutcome Body)) :=
  NdjsonSpec.results decode r.expectedLeaseId r.maxFrameBytes r.reader.readError r.nextSeq
    (r.input.splitOn newline)

/-- The reader after `f` was delivered. -/
def afterFrame (r : NdjsonReader) (f : ProgressFrame Body) : NdjsonReader :=
  { r with lastSeq := some f.seq }

/-- A sequence number below another has a successor that does not wrap. -/
theorem toNat_succ {last got : UInt64} (h : last < got) : (last + 1).toNat = last.toNat + 1 := by
  have hlt := UInt64.lt_iff_toNat_lt.mp h
  have hgot := got.toNat_lt
  rw [UInt64.toNat_add, Nat.mod_eq_of_lt (by simp; omega)]
  rfl

/-- On frames of the right lease, the two branches on `last_seq` are one
comparison with the sequence number that must come next. -/
theorem checkFrame_spec (r : NdjsonReader) (f : ProgressFrame Body)
    (hlease : f.leaseId = r.expectedLeaseId) :
    checkFrame r f =
      if f.seq.toNat < r.nextSeq then none
      else if r.nextSeq < f.seq.toNat then
        some (.error (.outOfOrderFrame (UInt64.ofNat r.nextSeq) f.seq), r)
      else some (checkFrame.deliver r f) := by
  unfold checkFrame nextSeq
  rw [if_neg (not_not_intro hlease)]
  cases r.lastSeq with
  | none =>
    have hzero : f.seq ≠ 0 ↔ 0 < f.seq.toNat := by
      rw [Nat.pos_iff_ne_zero, ne_eq, ← UInt64.toNat_inj]
      rfl
    simp only [hzero, Nat.not_lt_zero]
    rfl
  | some last =>
    simp only
    by_cases hdup : f.seq ≤ last
    · have hle := UInt64.le_iff_toNat_le.mp hdup
      rw [if_pos hdup, if_pos (Nat.lt_succ_of_le hle)]
    have hgt := UInt64.not_le.mp hdup
    have hlt := UInt64.lt_iff_toNat_lt.mp hgt
    have hsucc := toNat_succ hgt
    have hof : UInt64.ofNat (last.toNat + 1) = last + 1 := by
      rw [← hsucc, UInt64.ofNat_toNat]
    rw [if_neg hdup, if_neg (Nat.not_lt.mpr hlt), hof]
    by_cases hnext : f.seq = last + 1
    · have hle : f.seq.toNat ≤ last.toNat + 1 := Nat.le_of_eq (by rw [hnext, hsucc])
      rw [if_neg (not_not_intro hnext), if_neg (Nat.not_lt.mpr hle)]
    · have hne : last.toNat + 1 ≠ f.seq.toNat := by
        rw [← hsucc]
        exact fun h => hnext (UInt64.toNat_inj.mp h.symm)
      rw [if_pos hnext, if_pos (Nat.lt_of_le_of_ne hlt hne)]

/-- What the reader returns when the specification stops at a line. -/
def stopAt (r : NdjsonReader) (res : Except ProtocolError (NdjsonOutcome Body)) : NdjsonReader :=
  match res with
  | .ok (.terminated f) => { r.afterFrame f with terminalSeen := true }
  | _ => r

/-- Checking a buffered line is what the specification says of its payload. -/
theorem checkLine_spec {payload : List UInt8} (hbuf : r.lineBuf = payload ++ [newline]) :
    checkLine decode r =
      match NdjsonSpec.line decode r.expectedLeaseId r.maxFrameBytes r.nextSeq payload with
      | .skip => none
      | .deliver f => some (.ok (.frame f), r.afterFrame f)
      | .stop res => some (res, r.stopAt res) := by
  have htake : (payload ++ [newline]).take payload.length = payload := take_left
  simp only [checkLine, NdjsonSpec.line, hbuf, length_append, length_singleton,
    Nat.add_sub_cancel, htake]
  by_cases hmax : r.maxFrameBytes < payload.length
  · rw [if_pos hmax, if_pos hmax]
    rfl
  rw [if_neg hmax, if_neg hmax]
  cases decode payload with
  | error e => rfl
  | ok f =>
    simp only
    by_cases hlease : f.leaseId = r.expectedLeaseId
    · rw [if_neg (not_not_intro hlease), checkFrame_spec r f hlease]
      by_cases hdup : f.seq.toNat < r.nextSeq
      · rw [if_pos hdup, if_pos hdup]
      rw [if_neg hdup, if_neg hdup]
      by_cases hgap : r.nextSeq < f.seq.toNat
      · rw [if_pos hgap, if_pos hgap]
        rfl
      · rw [if_neg hgap, if_neg hgap, checkFrame.deliver]
        cases f.isTerminal <;> rfl
    · rw [if_pos hlease, checkFrame, if_pos hlease]
      rfl

/-- How a `next_frame` call on an open stream meets the specification: it delivers
the frame the specification delivers next, and leaves a reader for the rest, or it
returns the result the specification stops with. -/
inductive Meets (r : NdjsonReader) :
    Except ProtocolError (NdjsonOutcome Body) × NdjsonReader → Prop where
  | frame {f : ProgressFrame Body} {r' : NdjsonReader} (hterm : f.isTerminal = false)
      (hseq : f.seq.toNat = r.nextSeq) (hopen : r'.terminalSeen = false)
      (hnext : r'.nextSeq = r.nextSeq + 1)
      (hspec : r.specified decode = .ok (.frame f) :: r'.specified decode) :
      Meets r (.ok (.frame f), r')
  | stop {res res' : Except ProtocolError (NdjsonOutcome Body)} {r' : NdjsonReader}
      (hstop : ∀ f, res ≠ .ok (.frame f))
      (hterm : ∀ f, res = .ok (.terminated f) →
        f.isTerminal = true ∧ f.seq.toNat = r.nextSeq ∧ r'.terminalSeen = true)
      (hspec : r.specified decode = [res']) (hsame : eraseBytes res = eraseBytes res') :
      Meets r (res, r')

/-- A call that first drops a frame meets the specification if the rest does. -/
theorem Meets.of_skip {r₁ : NdjsonReader}
    {out : Except ProtocolError (NdjsonOutcome Body) × NdjsonReader} (h : Meets decode r₁ out)
    (hspec : r.specified decode = r₁.specified decode) (hseq : r₁.nextSeq = r.nextSeq) :
    Meets decode r out := by
  cases h with
  | frame hterm hf hopen hnext hrest =>
    exact .frame hterm (hseq ▸ hf) hopen (hseq ▸ hnext) (hspec.trans hrest)
  | stop hstop hterm hrest hsame =>
    exact .stop hstop (hseq ▸ hterm) (hspec.trans hrest) hsame

/-- One line read from the start of a line, by what the input holds: a line read
whole, a line refused, a tail refused, or a tail read up to the end. -/
theorem readCappedLine_cases (r : NdjsonReader) :
    (∃ payload rest cs, newline ∉ payload ∧ r.input = payload ++ newline :: rest ∧
      flat cs = rest ∧ readCappedLine { r with lineBuf := [] } =
        (.ok true, r.buffered (payload ++ [newline]) cs)) ∨
    (∃ payload rest bytes buf cs, newline ∉ payload ∧ r.input = payload ++ newline :: rest ∧
      r.maxFrameBytes < payload.length ∧ readCappedLine { r with lineBuf := [] } =
        (.error (.frameTooLarge bytes r.maxFrameBytes), r.buffered buf cs)) ∨
    (∃ bytes buf cs, newline ∉ r.input ∧ r.maxFrameBytes < r.input.length ∧
      readCappedLine { r with lineBuf := [] } =
        (.error (.frameTooLarge bytes r.maxFrameBytes), r.buffered buf cs)) ∨
    (newline ∉ r.input ∧ ¬ r.maxFrameBytes < r.input.length ∧
      readCappedLine { r with lineBuf := [] } =
        ((match r.reader.readError with
          | some e => .error (.malformedFrame ("read error: " ++ e))
          | none => .ok false), r.buffered r.input [])) := by
  have hrun : ∀ {res buf cs}, readCappedLineLoop r.maxFrameBytes r.reader.readError []
      r.reader.chunks = (res, buf, cs) →
      readCappedLine { r with lineBuf := [] } = (res, r.buffered buf cs) := by
    intro _ _ _ h
    simp only [readCappedLine, h]
    rfl
  by_cases hnl : newline ∈ r.input
  · obtain ⟨payload, rest, hinput, hpay⟩ := eq_append_cons_of_mem hnl
    rcases readCappedLineLoop_line r.maxFrameBytes r.reader.readError []
      hpay hinput with ⟨cs, hcs, hread⟩ | ⟨hmax, bytes, buf, cs, hread⟩
    · exact .inl ⟨payload, rest, cs, hpay, hinput, hcs, hrun hread⟩
    · exact .inr (.inl ⟨payload, rest, bytes, buf, cs, hpay, hinput, hmax, hrun hread⟩)
  · have htail := readCappedLineLoop_tail r.reader.readError [] hnl (Nat.zero_le r.maxFrameBytes)
    by_cases hmax : r.maxFrameBytes < r.input.length
    · obtain ⟨bytes, buf, cs, hread⟩ := (if_pos hmax).mp htail
      exact .inr (.inr (.inl ⟨bytes, buf, cs, hnl, hmax, hrun hread⟩))
    · exact .inr (.inr (.inr ⟨hnl, hmax, hrun ((if_neg hmax).mp htail)⟩))

theorem nextFrameLoop_eq (r : NdjsonReader) :
    nextFrameLoop decode r =
      match readCappedLine { r with lineBuf := [] } with
      | (.error e, r') => (.error e, r')
      | (.ok hadNewline, r') =>
          if r'.lineBuf = [] then (.ok .streamEnd, r')
          else if !hadNewline then
            (.error (truncatedFrame r'.lineBuf.length), r')
          else (checkLine decode r').getD (nextFrameLoop decode r') := by
  rw [nextFrameLoop]
  split
  · next h => rw [h]
  · next h =>
    rw [h]
    congr 2
    cases checkLine decode _ <;> rfl

/-- The specification of a stream that starts with a complete line. -/
theorem specified_line {payload rest : List UInt8} (hpay : newline ∉ payload)
    (hinput : r.input = payload ++ newline :: rest) {cs : List (Chunk UInt8)} (hcs : flat cs = rest)
    (buf : List UInt8) : r.specified decode =
      match NdjsonSpec.line decode r.expectedLeaseId r.maxFrameBytes r.nextSeq payload with
      | .skip => (r.buffered buf cs).specified decode
      | .deliver f => .ok (.frame f) :: ((r.buffered buf cs).afterFrame f).specified decode
      | .stop res => [res] := by
  rw [specified, hinput, splitOn_append_cons_self_of_not_mem hpay, NdjsonSpec.results_line]
  cases hline : NdjsonSpec.line decode r.expectedLeaseId r.maxFrameBytes r.nextSeq payload with
  | skip => rw [← hcs]; rfl
  | deliver f =>
    have hnext : ((r.buffered buf cs).afterFrame f).nextSeq = r.nextSeq + 1 :=
      congrArg (· + 1) (NdjsonSpec.line_deliver decode _ _ hline).2
    simp only [specified, hnext, ← hcs]
    rfl
  | stop => rfl

theorem specified_tail (htail : newline ∉ r.input) :
    r.specified decode = [NdjsonSpec.tail r.maxFrameBytes r.reader.readError r.input] := by
  rw [specified, splitOn_eq_singleton htail]
  rfl

theorem nextFrameLoop_line (hread : readCappedLine { r with lineBuf := [] } = (.ok true, r'))
    (hne : r'.lineBuf ≠ []) :
    nextFrameLoop decode r = (checkLine decode r').getD (nextFrameLoop decode r') := by
  rw [nextFrameLoop_eq, hread]
  exact if_neg hne

theorem nextFrameLoop_error {e : ProtocolError}
    (hread : readCappedLine { r with lineBuf := [] } = (.error e, r')) :
    nextFrameLoop decode r = (.error e, r') := by
  rw [nextFrameLoop_eq, hread]

/-- The call that reads the end of the transport returns what the specification
says of the tail. -/
theorem nextFrameLoop_end (hmax : ¬ r.maxFrameBytes < r.input.length)
    (hread : readCappedLine { r with lineBuf := [] } =
      ((match r.reader.readError with
        | some e => .error (.malformedFrame ("read error: " ++ e))
        | none => .ok false), r.buffered r.input [])) : nextFrameLoop decode r =
      (NdjsonSpec.tail r.maxFrameBytes r.reader.readError r.input, r.buffered r.input []) := by
  unfold NdjsonSpec.tail
  rw [nextFrameLoop_eq, hread, if_neg hmax]
  cases r.reader.readError with
  | some e => rfl
  | none =>
    change (if r.input = [] then _ else _) = ((if r.input = [] then _ else _), _)
    by_cases hnil : r.input = []
    · rw [if_pos hnil, if_pos hnil]
    · rw [if_neg hnil, if_neg hnil]
      rfl

/-- **One call meets the specification.** -/
theorem nextFrameLoop_meets (r : NdjsonReader) (hopen : r.terminalSeen = false) :
    Meets decode r (nextFrameLoop decode r) := by
  induction hn : r.input.length using Nat.strongRecOn generalizing r with
  | ind n ih =>
    rcases readCappedLine_cases r with
      ⟨payload, rest, cs, hpay, hinput, hcs, hread⟩ |
      ⟨payload, rest, bytes, buf, cs, hpay, hinput, hmax, hread⟩ |
      ⟨bytes, buf, cs, htail, hmax, hread⟩ | ⟨htail, hmax, hread⟩
    · have hne : (r.buffered (payload ++ [newline]) cs).lineBuf ≠ [] :=
        append_ne_nil_of_right_ne_nil payload (cons_ne_nil _ _)
      have hspec := specified_line decode hpay hinput hcs (payload ++ [newline])
      rw [nextFrameLoop_line decode hread hne,
        checkLine_spec decode (r := r.buffered (payload ++ [newline]) cs) rfl]
      change Meets decode r (Option.getD (match NdjsonSpec.line decode r.expectedLeaseId
        r.maxFrameBytes r.nextSeq payload with | .skip => _ | .deliver f => _ | .stop res => _) _)
      cases hline : NdjsonSpec.line decode r.expectedLeaseId r.maxFrameBytes r.nextSeq payload with
      | skip =>
        rw [hline] at hspec
        have hlt := readCappedLine_consumes hread hne
        have hrest := ih _ (hn ▸ hlt) (r.buffered (payload ++ [newline]) cs) hopen rfl
        exact hrest.of_skip decode hspec rfl
      | deliver f =>
        rw [hline] at hspec
        obtain ⟨hterm, hseq⟩ := NdjsonSpec.line_deliver decode _ _ hline
        exact .frame hterm hseq hopen (congrArg (· + 1) hseq) hspec
      | stop =>
        rw [hline] at hspec
        refine .stop ?_ ?_ hspec rfl
        · intro f hf
          exact NdjsonSpec.line_stop_ne_frame decode _ _ (hf ▸ hline)
        · intro f hf
          subst hf
          obtain ⟨hterm, hseq⟩ := NdjsonSpec.line_terminated decode _ _ hline
          exact ⟨hterm, hseq, rfl⟩
    · rw [nextFrameLoop_error decode hread]
      have hspec : r.specified decode =
          [.error (.frameTooLarge payload.length r.maxFrameBytes)] := by
        rw [specified, hinput, splitOn_append_cons_self_of_not_mem hpay,
          NdjsonSpec.results_line, NdjsonSpec.line, if_pos hmax]
      exact .stop (by simp) (by simp) hspec rfl
    · rw [nextFrameLoop_error decode hread]
      refine .stop (by simp) (by simp) (specified_tail decode htail) ?_
      unfold NdjsonSpec.tail
      rw [if_pos hmax]
      rfl
    · rw [nextFrameLoop_end decode hmax hread]
      refine .stop ?_ ?_ (specified_tail decode htail) rfl
      · exact fun f => (NdjsonSpec.tail_ne_frame _ _ _ f).1
      · exact fun f hf => absurd hf (NdjsonSpec.tail_ne_frame _ _ _ f).2

theorem nextFrame_meets (r : NdjsonReader) (hopen : r.terminalSeen = false) :
    Meets decode r (nextFrame decode r) := by
  rw [nextFrame, hopen]
  exact nextFrameLoop_meets decode r hopen

/-- What a drained stream looks like when its first frame must carry `start`: the
frames delivered, numbered one after the other, and one last result. -/
structure Drained (start : Nat)
    (out : List (Except ProtocolError (NdjsonOutcome Body)) × NdjsonReader)
    (frames : List (ProgressFrame Body)) (last : Except ProtocolError (NdjsonOutcome Body)) :
    Prop where
  results : out.1 = frames.map (fun f => .ok (.frame f)) ++ [last]
  nonterminal : ∀ f ∈ frames, f.isTerminal = false
  numbered : frames.map (fun f => f.seq.toNat) = List.range' start frames.length
  stopped : ∀ f, last ≠ .ok (.frame f)
  terminal : ∀ f, last = .ok (.terminated f) →
    f.isTerminal = true ∧ f.seq.toNat = start + frames.length ∧
      nextFrame decode out.2 = (.error .unexpectedFrameAfterTerminal, out.2)

theorem drain_frame {f : ProgressFrame Body} (h : nextFrame decode r = (.ok (.frame f), r')) :
    drain decode r = (.ok (.frame f) :: (drain decode r').1, (drain decode r').2) := by
  rw [drain, h]

theorem drain_stop {res : Except ProtocolError (NdjsonOutcome Body)}
    (h : nextFrame decode r = (res, r')) (hstop : ∀ f, res ≠ .ok (.frame f)) :
    drain decode r = ([res], r') := by
  rw [drain]
  split
  · next f _ heq => exact absurd (congrArg Prod.fst (h.symm.trans heq)) (hstop f)
  · next heq =>
    cases h.symm.trans heq
    rfl

/-- **A drained reader meets the specification**, from any point of its stream. -/
theorem drain_meets (r : NdjsonReader) (hopen : r.terminalSeen = false) :
    (drain decode r).1.map eraseBytes = (r.specified decode).map eraseBytes ∧
      ∃ frames last, Drained decode r.nextSeq (drain decode r) frames last := by
  induction hn : r.input.length using Nat.strongRecOn generalizing r with
  | ind n ih =>
    have hmeets := nextFrame_meets decode r hopen
    cases hcall : nextFrame decode r with
    | mk res r' =>
      rw [hcall] at hmeets
      cases hmeets with
      | @frame f _ hterm hseq hopen' hnext hspec =>
        obtain ⟨hsame, frames, last, hrest⟩ :=
          ih _ (hn ▸ nextFrame_consumes decode hcall) r' hopen' rfl
        rw [drain_frame decode hcall, hspec]
        refine ⟨by rw [map_cons, map_cons, hsame], f :: frames, last, ?_, ?_, ?_, ?_, ?_⟩
        · rw [hrest.results]; rfl
        · exact forall_mem_cons.mpr ⟨hterm, hrest.nonterminal⟩
        · rw [map_cons, hrest.numbered, hseq, hnext]; rfl
        · exact hrest.stopped
        · intro g hg
          obtain ⟨hg₁, hg₂, hg₃⟩ := hrest.terminal g hg
          exact ⟨hg₁, by rw [hg₂, length_cons]; omega, hg₃⟩
      | stop hstop hterm hspec hsame =>
        rw [drain_stop decode hcall hstop, hspec]
        refine ⟨by rw [map_singleton, map_singleton, hsame], [], res, rfl, by simp, rfl, hstop, ?_⟩
        intro f hf
        obtain ⟨hf₁, hf₂, hseen⟩ := hterm f hf
        exact ⟨hf₁, hf₂, by rw [nextFrame, hseen]; rfl⟩

/-- **The reader refines the specification, however the input is cut.**  The
results of a stream are those `NdjsonSpec.results` reads off the split of the whole
input on newlines, up to the byte count inside `FrameTooLarge`; the frames
delivered are numbered `0, 1, 2, …`, none before the last result is terminal, and
after a terminal frame there is nothing more. -/
theorem drain_refines (chunks : List (Chunk UInt8)) (readError : Option String)
    (lease : LeaseId) (max : Nat) :
    (drain decode (new ⟨chunks, readError⟩ lease max)).1.map eraseBytes =
        (NdjsonSpec.results decode lease max readError 0
          ((flat chunks).splitOn newline)).map eraseBytes ∧
      ∃ frames last, Drained decode 0 (drain decode (new ⟨chunks, readError⟩ lease max))
        frames last :=
  drain_meets decode (new ⟨chunks, readError⟩ lease max) rfl

end NdjsonReader
end Voom
