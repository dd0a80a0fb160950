import Mathlib.Data.Nat.Digits.Lemmas
import VoomProof.NdjsonRefinement

/-!
# The NDJSON progress-stream writer, and reading back what it wrote

`NdjsonWriter` of `voom-worker-protocol`'s `wire/ndjson.rs`. `serde_json::to_vec` is
the parameter `encode`; what it has to satisfy towards `decode` is `Encoded`.

The two halves meet at the bytes written: `emitAll_written` says that they are one
line per accepted frame, numbered in the order they were accepted, and
`results_lines` says what the specification of the reader (`NdjsonSpec.results`)
makes of such lines. With `NdjsonReader.drain_refines` this gives the round trip for
every cut of the bytes into reads (`reads_back_iff`).

The writer's counter is a `u64` that wraps around in a release build: the frame after number
`2^64 - 1` has number 0 again, and a reader drops it as a duplicate. So the round trip holds up
to `2^64` accepted frames only.
-/

namespace Voom
open Chunked List Nat

variable {Body : Type}

namespace ProgressFrame

/-- `set_frame_seq`. -/
def setSeq (f : ProgressFrame Body) (seq : UInt64) : ProgressFrame Body :=
  match f with
  | progress l _ b => progress l seq b
  | result l _ b => result l seq b
  | error l _ b => error l seq b

@[simp] theorem setSeq_leaseId (f : ProgressFrame Body) (seq : UInt64) :
    (f.setSeq seq).leaseId = f.leaseId := by
  cases f <;> rfl

@[simp] theorem setSeq_seq (f : ProgressFrame Body) (seq : UInt64) : (f.setSeq seq).seq = seq := by
  cases f <;> rfl

@[simp] theorem setSeq_isTerminal (f : ProgressFrame Body) (seq : UInt64) :
    (f.setSeq seq).isTerminal = f.isTerminal := by
  cases f <;> rfl

end ProgressFrame

/-! ## The writer -/

/-- The transport below the writer: the bytes it has taken, and the error it fails
with once it has taken a further number of bytes (`none` if it never fails). -/
structure BufWriter where
  bytes : List UInt8 := []
  writeError : Option (Nat × String) := none

/-- `write_all`: a transport that fails may have taken a part of the bytes. -/
def BufWriter.writeAll (b : BufWriter) (bytes : List UInt8) : Except String Unit × BufWriter :=
  match b.writeError with
  | none => (.ok (), { b with bytes := b.bytes ++ bytes })
  | some (room, e) =>
      if bytes.length ≤ room then
        (.ok (), { bytes := b.bytes ++ bytes, writeError := some (room - bytes.length, e) })
      else
        (.error e, { bytes := b.bytes ++ bytes.take room, writeError := some (0, e) })

/-- The writer's own fields, as the source has them. -/
structure NdjsonWriter where
  writer : BufWriter
  boundLeaseId : LeaseId
  nextSeq : UInt64
  terminalSent : Bool

namespace NdjsonWriter

/-- A writer at the start of a stream. -/
def new (writer : BufWriter) (boundLeaseId : LeaseId) : NdjsonWriter where
  writer := writer
  boundLeaseId := boundLeaseId
  nextSeq := 0
  terminalSent := false

section Emit
variable (encode : ProgressFrame Body → Except String (List UInt8))

/-- Write one frame, under the writer's own sequence number. -/
def emit (w : NdjsonWriter) (f : ProgressFrame Body) : Except ProtocolError Unit × NdjsonWriter :=
  if w.terminalSent then (.error (.malformedFrame "second terminal frame"), w)
  else if f.leaseId ≠ w.boundLeaseId then
    (.error (.wrongLeaseId w.boundLeaseId f.leaseId), w)
  else
    let frame := f.setSeq w.nextSeq
    -- the number is used up before the frame is encoded and written
    let w := { w with nextSeq := w.nextSeq + 1 }
    match encode frame with
    | .error e => (.error (.malformedFrame ("json encode: " ++ e)), w)
    | .ok payload =>
        match w.writer.writeAll (payload ++ [newline]) with
        | (.error e, writer) =>
            (.error (.malformedFrame ("write error: " ++ e)), { w with writer := writer })
        | (.ok _, writer) =>
            (.ok (), { w with writer := writer, terminalSent := frame.isTerminal })

/-- One `emit` after the other: the frames accepted, as they were passed, and the
writer left. -/
def emitAll (w : NdjsonWriter) :
    List (ProgressFrame Body) → List (ProgressFrame Body) × NdjsonWriter
  | [] => ([], w)
  | f :: fs =>
      match emit encode w f with
      | (.ok _, w') => (f :: (emitAll w' fs).1, (emitAll w' fs).2)
      | (.error _, w') => emitAll w' fs

end Emit

/-! ### What is written -/

/-- Frames numbered from `start` on, as far as 64 bits go. -/
def numbered (start : Nat) (fs : List (ProgressFrame Body)) : List (ProgressFrame Body) :=
  fs.mapIdx fun i f => f.setSeq (UInt64.ofNat (start + i))

@[simp] theorem numbered_nil (start : Nat) :
    numbered start ([] : List (ProgressFrame Body)) = [] := rfl

@[simp] theorem numbered_cons (start : Nat) (f : ProgressFrame Body)
    (fs : List (ProgressFrame Body)) :
    numbered start (f :: fs) = f.setSeq (UInt64.ofNat start) :: numbered (start + 1) fs := by
  unfold numbered
  rw [mapIdx_cons]
  simp only [add_zero, add_assoc, add_comm 1]

@[simp] theorem numbered_length (start : Nat) (fs : List (ProgressFrame Body)) :
    (numbered start fs).length = fs.length :=
  length_mapIdx

variable {n d : Nat}

section Stream
variable (encode : ProgressFrame Body → Except String (List UInt8))
  (decode : List UInt8 → Except String (ProgressFrame Body)) (max : Nat)

/-- The frame is encoded as one line within the bound that decodes to it again. -/
structure Encoded (f : ProgressFrame Body) (payload : List UInt8) : Prop where
  encoded : encode f = .ok payload
  decoded : decode payload = .ok f
  one_line : newline ∉ payload
  within : payload.length ≤ max

/-- The bytes of a stream of lines. -/
def ndjson (payloads : List (List UInt8)) : List UInt8 :=
  payloads.flatMap (· ++ [newline])

/-- The writer takes this frame: no terminal frame was sent, and the lease is right. -/
def Takes (w : NdjsonWriter) (f : ProgressFrame Body) : Prop :=
  w.terminalSent = false ∧ f.leaseId = w.boundLeaseId

/-- The writer after it took a frame. -/
def afterEmit (w : NdjsonWriter) (f : ProgressFrame Body) (payload : List UInt8) : NdjsonWriter :=
  { w with
    writer := { bytes := w.writer.bytes ++ (payload ++ [newline]) }
    nextSeq := w.nextSeq + 1
    terminalSent := f.isTerminal }

variable {encode decode max} {w : NdjsonWriter} {f : ProgressFrame Body}

variable {payload : List UInt8}

theorem emit_takes (hsink : w.writer.writeError = none) (htakes : w.Takes f)
    (henc : encode (f.setSeq w.nextSeq) = .ok payload) :
    emit encode w f = (.ok (), w.afterEmit f payload) := by
  unfold emit
  rw [if_neg (by simp [htakes.1]), if_neg (not_not_intro htakes.2)]
  simp only [henc, BufWriter.writeAll, hsink, ProgressFrame.setSeq_isTerminal]
  rfl

/-- A frame the writer does not take leaves it as it is. -/
theorem emit_refuses (htakes : ¬ w.Takes f) : ∃ e, emit encode w f = (.error e, w) := by
  unfold emit
  by_cases hsent : w.terminalSent = true
  · exact ⟨_, if_pos hsent⟩
  · by_cases hlease : f.leaseId = w.boundLeaseId
    · exact absurd ⟨Bool.eq_false_iff.mpr hsent, hlease⟩ htakes
    · exact ⟨_, by rw [if_neg hsent, if_pos hlease]⟩

/-- What a list of frames makes of the writer: the frames accepted are of its lease,
only the last of them can be terminal, and each of them is one line, numbered in the
order they were accepted. -/
structure Written (encode : ProgressFrame Body → Except String (List UInt8))
    (decode : List UInt8 → Except String (ProgressFrame Body)) (max : Nat) (w : NdjsonWriter)
    (start : Nat) (out : List (ProgressFrame Body) × NdjsonWriter)
    (payloads : List (List UInt8)) : Prop where
  lease : ∀ f ∈ out.1, f.leaseId = w.boundLeaseId
  taken : w.terminalSent = true → out.1 = []
  last : out.1.Pairwise fun f _ => f.isTerminal = false
  lines : List.Forall₂ (Encoded encode decode max) (numbered start out.1) payloads
  bytes : out.2.writer.bytes = w.writer.bytes ++ ndjson payloads

theorem emitAll_written (fs : List (ProgressFrame Body)) (start : Nat)
    (hseq : w.nextSeq = UInt64.ofNat start) (hsink : w.writer.writeError = none)
    (henc : ∀ f ∈ fs, ∀ seq, ∃ payload, Encoded encode decode max (f.setSeq seq) payload) :
    ∃ payloads, Written encode decode max w start (emitAll encode w fs) payloads := by
  induction fs generalizing w start with
  | nil => exact ⟨[], by simp [emitAll], fun _ => rfl, .nil, .nil, by simp [emitAll, ndjson]⟩
  | cons f _ ih =>
    have hrest := fun g hg => henc g (mem_cons_of_mem _ hg)
    by_cases htakes : w.Takes f
    · obtain ⟨payload, hpay⟩ := henc f mem_cons_self (UInt64.ofNat start)
      have hemit := emit_takes hsink htakes (hseq ▸ hpay.encoded)
      have hnext : (w.afterEmit f payload).nextSeq = UInt64.ofNat (start + 1) := by
        change w.nextSeq + 1 = _
        rw [hseq, UInt64.ofNat_add]
        rfl
      obtain ⟨payloads, hw⟩ := ih (w := w.afterEmit f payload) (start + 1) hnext rfl hrest
      refine ⟨payload :: payloads, ?_⟩
      simp only [emitAll, hemit]
      refine ⟨?_, ?_, ?_, ?_, ?_⟩
      · exact forall_mem_cons.mpr ⟨htakes.2, hw.lease⟩
      · intro hsent
        exact absurd hsent (by rw [htakes.1]; exact Bool.false_ne_true)
      · refine pairwise_cons.mpr ⟨?_, hw.last⟩
        -- nothing is accepted after a terminal frame
        intro g hg
        by_contra hterm
        rw [hw.taken (Bool.eq_true_of_not_eq_false hterm)] at hg
        exact absurd hg not_mem_nil
      · rw [numbered_cons]
        exact .cons hpay hw.lines
      · rw [hw.bytes]
        change w.writer.bytes ++ (payload ++ [newline]) ++ ndjson payloads = _
        rw [append_assoc]
        rfl
    · have hrefused : ∃ e, emit encode w f = (.error e, w) := emit_refuses htakes
      obtain ⟨e, hemit⟩ := hrefused
      obtain ⟨payloads, hw⟩ := ih start hseq hsink hrest
      refine ⟨payloads, ?_⟩
      simp only [emitAll, hemit]
      exact hw

/-! ### What is read -/

/-- The outcome a frame is delivered with. -/
def delivery (f : ProgressFrame Body) : NdjsonOutcome Body :=
  if f.isTerminal then .terminated f else .frame f

/-- The results of a stream that delivers exactly these frames: a terminal frame ends
it, and otherwise its end is reported. -/
def deliveries (fs : List (ProgressFrame Body)) :
    List (Except ProtocolError (NdjsonOutcome Body)) :=
  fs.map (fun f => .ok (delivery f)) ++
    if fs.any (·.isTerminal) then [] else [.ok .streamEnd]

@[simp] theorem deliveries_nil :
    deliveries ([] : List (ProgressFrame Body)) = [.ok .streamEnd] := rfl

variable {fs : List (ProgressFrame Body)}

theorem deliveries_frame (hterm : f.isTerminal = false) :
    deliveries (f :: fs) = .ok (.frame f) :: deliveries fs := by
  simp [deliveries, delivery, hterm]

theorem deliveries_terminal (hterm : f.isTerminal = true) :
    deliveries [f] = [.ok (.terminated f)] := by
  simp [deliveries, delivery, hterm]

variable {lease : LeaseId}

/-- The line of a frame that carries the number the reader is waiting for. -/
theorem line_next (henc : Encoded encode decode max f payload) (hlease : f.leaseId = lease)
    (hseq : f.seq.toNat = n) :
    NdjsonSpec.line decode lease max n payload =
      if f.isTerminal then .stop (.ok (.terminated f)) else .deliver f := by
  unfold NdjsonSpec.line
  rw [if_neg (not_lt.mpr henc.within), henc.decoded]
  simp only [hlease, hseq, lt_irrefl, if_false, ne_eq, not_true_eq_false]

/-- The line of a frame with a number that was delivered before. -/
theorem line_old (henc : Encoded encode decode max f payload) (hlease : f.leaseId = lease)
    (hseq : f.seq.toNat < n) : NdjsonSpec.line decode lease max n payload = .skip := by
  unfold NdjsonSpec.line
  rw [if_neg (not_lt.mpr henc.within), henc.decoded]
  simp only [hlease, hseq, if_true, ne_eq, not_true_eq_false, if_false]

theorem splitOn_ndjson_cons (hline : newline ∉ payload) (payloads : List (List UInt8)) :
    (ndjson (payload :: payloads)).splitOn newline =
      payload :: (ndjson payloads).splitOn newline := by
  have hbytes : ndjson (payload :: payloads) = payload ++ newline :: ndjson payloads := by
    simp [ndjson]
  rw [hbytes, splitOn_append_cons_self_of_not_mem hline]

variable {gs frames : List (ProgressFrame Body)} {payloads : List (List UInt8)}

/-- Once every number was delivered, whatever is written repeats an old one. -/
theorem results_repeated (hlease : ∀ g ∈ gs, g.leaseId = lease)
    (hlines : List.Forall₂ (Encoded encode decode max) gs payloads) :
    NdjsonSpec.results decode lease max none UInt64.size ((ndjson payloads).splitOn newline) =
      [.ok .streamEnd] := by
  induction hlines with
  | nil => simp [ndjson, NdjsonSpec.results, NdjsonSpec.tail]
  | @cons g _ _ _ henc _ ih =>
    rw [forall_mem_cons] at hlease
    rw [splitOn_ndjson_cons henc.one_line, NdjsonSpec.results_line,
      line_old henc hlease.1 (UInt64.toNat_lt_size _)]
    exact ih hlease.2

theorem numbered_lease (n : Nat) (hlease : ∀ f ∈ fs, f.leaseId = lease) :
    ∀ g ∈ numbered n fs, g.leaseId = lease := by
  intro g hg
  obtain ⟨i, hi, rfl⟩ := mem_mapIdx.mp hg
  rw [ProgressFrame.setSeq_leaseId]
  exact hlease _ (getElem_mem hi)

/-- **What the specification makes of numbered lines**: it delivers them as long as
the numbers do not repeat, and drops the rest. -/
theorem results_lines (fs : List (ProgressFrame Body)) (hn : n ≤ UInt64.size)
    (hlease : ∀ f ∈ fs, f.leaseId = lease) (hlast : fs.Pairwise fun f _ => f.isTerminal = false)
    (hlines : List.Forall₂ (Encoded encode decode max) (numbered n fs) payloads) :
    NdjsonSpec.results decode lease max none n ((ndjson payloads).splitOn newline) =
      deliveries ((numbered n fs).take (UInt64.size - n)) := by
  induction fs generalizing n payloads with
  | nil =>
    cases hlines
    simp [ndjson, NdjsonSpec.results, NdjsonSpec.tail]
  | cons f fs ih =>
    by_cases hwrap : n = UInt64.size
    · subst hwrap
      rw [results_repeated (numbered_lease _ hlease) hlines, Nat.sub_self, take_zero,
        deliveries_nil]
    · have hlt : n < UInt64.size := lt_of_le_of_ne hn hwrap
      rw [numbered_cons] at hlines ⊢
      obtain ⟨_, _, henc, hrest, rfl⟩ := forall₂_cons_left_iff.mp hlines
      rw [forall_mem_cons] at hlease
      rw [pairwise_cons] at hlast
      have hf : (f.setSeq (UInt64.ofNat n)).leaseId = lease := by
        rw [ProgressFrame.setSeq_leaseId]
        exact hlease.1
      have hseq : (f.setSeq (UInt64.ofNat n)).seq.toNat = n := by
        rw [ProgressFrame.setSeq_seq]
        exact UInt64.toNat_ofNat_of_lt' hlt
      have htake : UInt64.size - n = UInt64.size - (n + 1) + 1 := by omega
      rw [splitOn_ndjson_cons henc.one_line, NdjsonSpec.results_line, line_next henc hf hseq,
        ProgressFrame.setSeq_isTerminal, htake, take_succ_cons]
      cases hterm : f.isTerminal with
      | true =>
        have hnil : fs = [] := by
          refine eq_nil_iff_forall_not_mem.mpr fun g hg => ?_
          rw [hlast.1 g hg] at hterm
          cases hterm
        subst hnil
        rw [numbered_nil, take_nil, deliveries_terminal (by simpa using hterm)]
        rfl
      | false =>
        rw [deliveries_frame (by simpa using hterm), ← ih hlt hlease.2 hlast.2 hrest]
        rfl

theorem eraseBytes_ok {res : Except ProtocolError (NdjsonOutcome Body)} {o : NdjsonOutcome Body}
    (h : eraseBytes res = .ok o) : res = .ok o := by
  cases res with
  | ok => exact h
  | error e => cases e <;> cases h

/-- There is no byte count to be erased in the deliveries of a stream. -/
theorem eq_of_eraseBytes {results : List (Except ProtocolError (NdjsonOutcome Body))}
    (h : results.map eraseBytes = (deliveries fs).map eraseBytes) : results = deliveries fs := by
  have hok : ∀ res ∈ deliveries fs, ∃ o, res = .ok o := by
    intro _ hres
    rcases mem_append.mp hres with hres | hres
    · obtain ⟨f, _, rfl⟩ := mem_map.mp hres
      exact ⟨_, rfl⟩
    · split at hres
      · exact absurd hres not_mem_nil
      · exact ⟨_, mem_singleton.mp hres⟩
  generalize deliveries fs = delivered at h hok
  induction results generalizing delivered with
  | nil => exact (map_eq_nil_iff.mp h.symm).symm
  | cons _ _ ih =>
    cases delivered with
    | nil => cases h
    | cons d delivered =>
      rw [forall_mem_cons] at hok
      obtain ⟨⟨o, rfl⟩, hrest⟩ := hok
      obtain ⟨hhead, htail⟩ := cons.inj h
      rw [eraseBytes_ok hhead, ih delivered htail hrest]

/-- A stream that was cut short does not deliver what was written. -/
theorem deliveries_take_ne (hn : n < fs.length)
    (hlast : fs.Pairwise fun f _ => f.isTerminal = false) :
    deliveries (fs.take n) ≠ deliveries fs := by
  intro h
  have hlen : (fs.take n).length = n := length_take_of_le (Nat.le_of_lt hn)
  have hnone : (fs.take n).any (·.isTerminal) = false := by
    rw [any_eq_false]
    intro f hf
    rw [← take_append_drop n fs, pairwise_append] at hlast
    have hlater := hlast.2.2 f hf fs[n] (mem_drop_iff_getElem.mpr ⟨0, by simpa using hn, rfl⟩)
    rw [hlater]
    exact Bool.false_ne_true
  -- at place `n` the one reports its end, the other delivers a frame
  have hat := congrArg (·[n]?) h
  simp only [deliveries, hnone] at hat
  rw [getElem?_append_right (by simp), getElem?_append_left (by simpa using hn)] at hat
  simp only [length_map, hlen, Nat.sub_self, getElem?_map, getElem?_eq_getElem hn] at hat
  have hout := Except.ok.inj (Option.some.inj hat)
  unfold delivery at hout
  split at hout <;> cases hout

theorem numbered_last (n : Nat) (hlast : fs.Pairwise fun f _ => f.isTerminal = false) :
    (numbered n fs).Pairwise fun f _ => f.isTerminal = false := by
  induction fs generalizing n with
  | nil => exact .nil
  | cons f fs ih =>
    rw [pairwise_cons] at hlast
    rw [numbered_cons, pairwise_cons]
    refine ⟨?_, ih _ hlast.2⟩
    intro g hg
    cases fs with
    | nil => exact absurd hg not_mem_nil
    | cons g' =>
      rw [ProgressFrame.setSeq_isTerminal]
      exact hlast.1 g' mem_cons_self

/-- What a reader makes of the bytes written, however they are cut into reads. -/
theorem drain_emitAll (lease : LeaseId)
    (henc : ∀ f ∈ frames, ∀ seq, ∃ payload, Encoded encode decode max (f.setSeq seq) payload)
    {chunks : List (Chunk UInt8)}
    (hchunks : flat chunks = (emitAll encode (new {} lease) frames).2.writer.bytes) :
    (NdjsonReader.drain decode (.new ⟨chunks, none⟩ lease max)).1 =
        deliveries ((numbered 0 (emitAll encode (new {} lease) frames).1).take UInt64.size) ∧
      (numbered 0 (emitAll encode (new {} lease) frames).1).Pairwise
        fun f _ => f.isTerminal = false := by
  obtain ⟨payloads, hw⟩ := emitAll_written (w := new {} lease) frames 0 rfl rfl henc
  have hbytes : flat chunks = ndjson payloads := by
    rw [hchunks, hw.bytes]
    rfl
  have hlease : ∀ f ∈ (emitAll encode (new {} lease) frames).1, f.leaseId = lease := hw.lease
  refine ⟨eq_of_eraseBytes ?_, numbered_last 0 hw.last⟩
  rw [(NdjsonReader.drain_refines decode chunks none lease max).1, hbytes,
    results_lines _ (Nat.zero_le _) hlease hw.last hw.lines, Nat.sub_zero]

/-- **The reader inverts the writer** as long as the writer's numbers do not wrap
around.  Whatever frames are passed to `emit`, and however the bytes written are cut
into reads, the reader of that lease delivers exactly the frames accepted, in order,
numbered from 0, and then ends, if and only if at most `2^64` frames were accepted. -/
theorem reads_back_iff (lease : LeaseId) (frames : List (ProgressFrame Body))
    (henc : ∀ f ∈ frames, ∀ seq, ∃ payload, Encoded encode decode max (f.setSeq seq) payload)
    {chunks : List (Chunk UInt8)}
    (hchunks : flat chunks = (emitAll encode (new {} lease) frames).2.writer.bytes) :
    (NdjsonReader.drain decode (.new ⟨chunks, none⟩ lease max)).1 =
        deliveries (numbered 0 (emitAll encode (new {} lease) frames).1) ↔
      (emitAll encode (new {} lease) frames).1.length ≤ 2 ^ 64 := by
  obtain ⟨hdrain, hlast⟩ := drain_emitAll lease henc hchunks
  rw [hdrain]
  constructor
  · intro h
    by_contra hmore
    refine deliveries_take_ne ?_ hlast h
    rw [numbered_length]
    exact not_le.mp hmore
  · intro hle
    rw [take_of_length_le]
    rw [numbered_length]
    exact hle

end Stream

/-! ### A stream in decimal digits -/

section Witnesses

def kindByte : ProgressFrame Unit → UInt8
  | .progress .. => 112
  | .result .. => 114
  | .error .. => 101

/-- A line that gives the kind of a frame, its lease in one digit and its number in
decimal, least digit first. -/
def digitLine (f : ProgressFrame Unit) : List UInt8 :=
  kindByte f :: UInt8.ofNat (48 + f.leaseId) ::
    (Nat.digits 10 f.seq.toNat).map fun d => UInt8.ofNat (48 + d)

def digitEncode (f : ProgressFrame Unit) : Except String (List UInt8) := .ok (digitLine f)

def digitDecode : List UInt8 → Except String (ProgressFrame Unit)
  | kind :: lease :: digits =>
      let seq := UInt64.ofNat (Nat.ofDigits 10 (digits.map fun b => b.toNat - 48))
      if kind = 112 then .ok (.progress (lease.toNat - 48) seq ())
      else if kind = 114 then .ok (.result (lease.toNat - 48) seq ())
      else .ok (.error (lease.toNat - 48) seq ())
  | _ => .error "a line has a kind and a lease"

theorem digit_byte (hd : d < 10) :
    (UInt8.ofNat (48 + d)).toNat - 48 = d ∧ UInt8.ofNat (48 + d) ≠ newline := by
  have hnat : (UInt8.ofNat (48 + d)).toNat = 48 + d := by
    rw [UInt8.toNat_ofNat']
    omega
  refine ⟨by omega, fun h => ?_⟩
  have hten := congrArg UInt8.toNat h
  have : newline.toNat = 10 := rfl
  omega

theorem digit_encoded {f : ProgressFrame Unit} (hlease : f.leaseId < 10) :
    Encoded digitEncode digitDecode 64 f (digitLine f) := by
  have hten : ∀ d ∈ digits 10 f.seq.toNat, d < 10 :=
    fun d hd => digits_lt_base (by decide) hd
  refine ⟨rfl, ?_, ?_, ?_⟩
  · have hdigits : ((digits 10 f.seq.toNat).map fun d => UInt8.ofNat (48 + d)).map
        (fun b => b.toNat - 48) = digits 10 f.seq.toNat := by
      rw [map_map]
      exact (map_congr_left fun d hd => (digit_byte (hten d hd)).1).trans (map_id _)
    simp only [digitLine, digitDecode, hdigits, ofDigits_digits, UInt64.ofNat_toNat,
      (digit_byte hlease).1]
    cases f <;> rfl
  · intro hmem
    rcases mem_cons.mp hmem with hkind | hmem
    · cases f <;> cases hkind
    · rcases mem_cons.mp hmem with hdigit | hmem
      · exact (digit_byte hlease).2 hdigit.symm
      · obtain ⟨d, hd, hdigit⟩ := mem_map.mp hmem
        exact (digit_byte (hten d hd)).2 hdigit
  · have hlen : (digits 10 f.seq.toNat).length ≤ 20 := by
      rw [digits_length_le_iff (by decide)]
      exact lt_trans f.seq.toNat_lt (by decide)
    rw [digitLine, length_cons, length_cons, length_map]
    omega

/-- A transport that hands over one byte at a time. -/
def bytewise (bytes : List UInt8) : List (Chunk UInt8) :=
  bytes.map fun b => ⟨[b], List.cons_ne_nil b []⟩

@[simp] theorem flat_bytewise (bytes : List UInt8) : flat (bytewise bytes) = bytes := by
  induction bytes with
  | nil => rfl
  | cons b _ ih => exact congrArg (b :: ·) ih

/-- Two frames of the reader's lease, with one of another lease between them and one
after the terminal frame: the reader gets the two. -/
theorem refused_frames_leave_no_gap :
    (NdjsonReader.drain digitDecode
      (.new ⟨bytewise (emitAll digitEncode (new {} 1)
        [.progress 1 7 (), .progress 2 0 (), .result 1 0 (), .error 1 5 ()]).2.writer.bytes, none⟩
        1 64)).1 =
      [.ok (.frame (.progress 1 0 ())), .ok (.terminated (.result 1 1 ()))] := by
  have henc : ∀ f ∈ [ProgressFrame.progress 1 7 (), .progress 2 0 (), .result 1 0 (),
      .error 1 5 ()], ∀ seq, ∃ payload,
        Encoded digitEncode digitDecode 64 (f.setSeq seq) payload := by
    intro f hf _
    refine ⟨_, digit_encoded ?_⟩
    rw [ProgressFrame.setSeq_leaseId]
    simp only [mem_cons, not_mem_nil, or_false] at hf
    rcases hf with rfl | rfl | rfl | rfl <;> decide
  have hread := (reads_back_iff 1 _ henc (flat_bytewise _)).mpr
  have haccepted : (emitAll digitEncode (new {} 1)
      [.progress 1 7 (), .progress 2 0 (), .result 1 0 (), .error 1 5 ()]).1 =
      [.progress 1 7 (), .result 1 0 ()] := rfl
  exact hread (by decide)

/-- Progress frames of the writer's lease are all accepted. -/
theorem emitAll_progress {w : NdjsonWriter} {frames : List (ProgressFrame Unit)}
    (hsink : w.writer.writeError = none) (hsent : w.terminalSent = false)
    (hframes : ∀ f ∈ frames, f.leaseId = w.boundLeaseId ∧ f.isTerminal = false) :
    (emitAll digitEncode w frames).1 = frames := by
  induction frames generalizing w with
  | nil => rfl
  | cons f _ ih =>
    rw [forall_mem_cons] at hframes
    obtain ⟨⟨hlease, hterm⟩, hrest⟩ := hframes
    have hemit : emit digitEncode w f = (.ok (), w.afterEmit f (digitLine (f.setSeq w.nextSeq))) :=
      emit_takes hsink ⟨hsent, hlease⟩ rfl
    simp only [emitAll, hemit]
    exact congrArg (f :: ·) (ih (w := w.afterEmit f _) rfl hterm hrest)

/-- One frame more than there are sequence numbers. -/
def overlong : List (ProgressFrame Unit) := List.replicate (2 ^ 64 + 1) (.progress 1 0 ())

theorem overlong_frame {f : ProgressFrame Unit} (hf : f ∈ overlong) :
    f.leaseId = 1 ∧ f.isTerminal = false := by
  rw [(mem_replicate.mp hf).2]
  exact ⟨rfl, rfl⟩

/-- Every frame of `overlong` is accepted, and the last one, written with number 0
again, is not delivered. -/
theorem wrapped_number_dropped :
    (emitAll digitEncode (new {} 1) overlong).1 = overlong ∧
      (∀ f ∈ overlong, ∀ seq, ∃ payload,
        Encoded digitEncode digitDecode 64 (f.setSeq seq) payload) ∧
      (NdjsonReader.drain digitDecode (.new
        ⟨bytewise (emitAll digitEncode (new {} 1) overlong).2.writer.bytes, none⟩ 1 64)).1 ≠
          deliveries (numbered 0 (emitAll digitEncode (new {} 1) overlong).1) := by
  have henc : ∀ f ∈ overlong, ∀ seq, ∃ payload,
      Encoded digitEncode digitDecode 64 (f.setSeq seq) payload := by
    intro f hf _
    refine ⟨_, digit_encoded ?_⟩
    rw [ProgressFrame.setSeq_leaseId, (overlong_frame hf).1]
    decide
  have haccepted : (emitAll digitEncode (new {} 1) overlong).1 = overlong :=
    emitAll_progress rfl rfl fun f => overlong_frame
  refine ⟨haccepted, henc, ?_⟩
  obtain ⟨hdrain, hlast⟩ := drain_emitAll 1 henc (flat_bytewise _)
  rw [hdrain]
  refine deliveries_take_ne ?_ hlast
  rw [numbered_length, haccepted, overlong, length_replicate]
  decide

end Witnesses

end NdjsonWriter
end Voom
