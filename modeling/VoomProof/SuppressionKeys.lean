import VoomProof.RustText
import VoomProof.Scheduler

/-!
# Suppression keys

Remote acquire records why it leased nothing. Such a decision carries a key, in which operation
names and fingerprints are free text, and `create_or_suppress_in_tx` only counts a decision whose
key the table has, provided that the columns of its row agree.

Left out are the columns that are not compared (the lease id apart) and the checks of
`prepare_decision_insert`, which may refuse a decision before the table is read.
-/

namespace Voom
open RustText List

/-- The store's own reason codes have the same names and texts (`scheduler_reason`). -/
def ScoreReasonCode.asStr : ScoreReasonCode → String
  | selected => "selected"
  | noReadyTicket => "no_ready_ticket"
  | missingCapability => "missing_capability"
  | missingGrant => "missing_grant"
  | operationDenied => "operation_denied"
  | workerNotExecutable => "worker_not_executable"
  | nodeNotExecutable => "node_not_executable"
  | heartbeatExpired => "heartbeat_expired"
  | unsupportedArtifactAccess => "unsupported_artifact_access"
  | workerCapacityFull => "worker_capacity_full"
  | nodeCapacityFull => "node_capacity_full"
  | noEligibleCandidate => "no_eligible_candidate"

inductive SchedulerDecisionKind where
  | leaseAcquire
  | idle
  | noCandidate
  deriving DecidableEq

inductive SchedulerRequestSource where
  | remoteAcquire
  deriving DecidableEq

structure NewSchedulerDecision where
  decisionKind : SchedulerDecisionKind
  requestSource : SchedulerRequestSource
  requestNodeId : Option NodeId
  requestWorkerId : Option WorkerId
  ticketId : Option TicketId
  selectedWorkerId : Option WorkerId := none
  selectedNodeId : Option NodeId := none
  selectedLeaseId : Option LeaseId := none
  outcome : ScoreOutcome
  reasonCode : ScoreReasonCode
  candidateCount : Nat
  selectedScore : Option Int := none
  suppressionKey : Option String
  deriving DecidableEq

structure RemoteAcquireInput where
  nodeId : NodeId
  workerId : WorkerId
  leaseTtlSeconds : Int

namespace RemoteAcquireInput
variable (input : RemoteAcquireInput)

def bucket : Nat := (max input.leaseTtlSeconds 1 / 30).toNat

/-- How both kinds of key start. -/
def keyHead (ticketId : Option TicketId) (reason : ScoreReasonCode) : String :=
  let ticketSegment := (ticketId.map fun ticket => s!":ticket:{ticket}").getD ""
  s!"remote_acquire:node:{input.nodeId}:worker:{input.workerId}{ticketSegment}" ++
    s!":reason:{reason.asStr}"

def remoteAcquireSuppressionKey (reason : ScoreReasonCode) (operationFingerprint : String)
    (ticketId : Option TicketId) (candidateCount : Nat) : String :=
  input.keyHead ticketId reason ++ s!":ops:{operationFingerprint}" ++
    s!":candidates:{candidateCount}:bucket:{input.bucket}"

def suppressionKey (score : ScoreDecision) (operationFingerprint : String) (candidateCount : Nat) :
    Option String :=
  if score.outcome = .selected then none
  else some (input.remoteAcquireSuppressionKey score.reasonCode operationFingerprint none
    candidateCount)

/-- `u32::try_from(count).unwrap_or(u32::MAX)`. -/
def saturating (count : Nat) : Nat := min count 4294967295

/-- The fields all builders fill alike. -/
def decision (ticketId : Option TicketId) (outcome : ScoreOutcome) (reason : ScoreReasonCode)
    (candidateCount : Nat) (key : Option String) : NewSchedulerDecision where
  decisionKind := match outcome with
    | .selected => .leaseAcquire
    | .idle => .idle
    | .noEligibleCandidate => .noCandidate
  requestSource := .remoteAcquire
  requestNodeId := some input.nodeId
  requestWorkerId := some input.workerId
  ticketId := ticketId
  outcome := outcome
  reasonCode := reason
  candidateCount := candidateCount
  suppressionKey := key

/-- With the fingerprint of the score's explanation. -/
def decisionFromScore (score : ScoreDecision) (operationFingerprint : String)
    (selected : Option (TicketId × WorkerId × NodeId × LeaseId)) : NewSchedulerDecision :=
  let count := saturating score.candidateCount
  { input.decision (selected.map (·.1)) score.outcome score.reasonCode count
      (input.suppressionKey score operationFingerprint count) with
    selectedWorkerId := selected.map (·.2.1)
    selectedNodeId := selected.map (·.2.2.1)
    selectedLeaseId := selected.map (·.2.2.2)
    selectedScore := if score.outcome = .selected then score.selected.map (·.score) else none }

def capacityDecision (reason : ScoreReasonCode) (ticketId : TicketId) (operation : String)
    (candidateCount : Nat) : NewSchedulerDecision :=
  let count := saturating candidateCount
  input.decision (some ticketId) .noEligibleCandidate reason count
    (input.remoteAcquireSuppressionKey reason operation (some ticketId) count)

def changedGateDecision (ticketId : TicketId) (kind : String) (reason : ScoreReasonCode) :
    NewSchedulerDecision :=
  input.decision (some ticketId) .noEligibleCandidate reason 1
    (input.remoteAcquireSuppressionKey reason kind (some ticketId) 1)

def gateRejectionDecision (ticketId : TicketId) (fingerprint : String) : NewSchedulerDecision :=
  let reason := .unsupportedArtifactAccess
  input.decision (some ticketId) .noEligibleCandidate reason 1
    (input.keyHead (some ticketId) reason ++ s!":refs:{fingerprint}:bucket:{input.bucket}")

end RemoteAcquireInput

open RemoteAcquireInput

namespace NewSchedulerDecision

/-- The decisions without a lease, as remote acquire builds them. -/
inductive Built : NewSchedulerDecision → Prop
  | idle (input score ops) (h : SchedulerScorer.score [] = .ok score) :
      Built (decisionFromScore input score ops none)
  | noCandidate (input candidates score ops)
      (h : RemoteScore.scoreRemoteCandidates candidates = .ok score)
      (hout : score.outcome = .noEligibleCandidate) : Built (decisionFromScore input score ops none)
  | capacity (input reason ticketId operation count) :
      Built (capacityDecision input reason ticketId operation count)
  | changedGate (input ticketId kind reason) :
      Built (changedGateDecision input ticketId kind reason)
  | gateRejection (input ticketId fingerprint) :
      Built (gateRejectionDecision input ticketId fingerprint)

/-- The columns `DECISION_INSERT_SUPPRESS_CLAUSE` compares. -/
def agrees (row d : NewSchedulerDecision) : Bool :=
  row = { d with selectedLeaseId := row.selectedLeaseId, suppressionKey := row.suppressionKey }

end NewSchedulerDecision

structure DecisionRow where
  decision : NewSchedulerDecision
  suppressedCount : Nat

def DecisionRow.suppress (row : DecisionRow) : DecisionRow :=
  { row with suppressedCount := row.suppressedCount + 1 }

/-- The conflict target: one key for both, and not null. -/
def NewSchedulerDecision.conflicts (d : NewSchedulerDecision) (row : DecisionRow) : Bool :=
  d.suppressionKey.isSome && row.decision.suppressionKey = d.suppressionKey

def createOrSuppressInTx (rows : List DecisionRow) (d : NewSchedulerDecision) :
    Except VoomError (List DecisionRow) :=
  match rows.find? d.conflicts with
  | none => .ok (rows ++ [⟨d, 0⟩])
  | some row =>
      if row.decision.agrees d then
        .ok (rows.map fun row => if d.conflicts row then row.suppress else row)
      else .error (.conflict "scheduler suppression_key already belongs to a different decision")

/-! ## Reading a key -/

variable {input input' : RemoteAcquireInput} {ticketId ticketId' : Option TicketId}
  {reason reason' : ScoreReasonCode} {a a' rest rest' : Text} {n n' : Nat}

theorem colon_notMem_digits (n : Nat) : ':' ∉ Nat.toDigits 10 n := by
  intro h
  have hdigit := Nat.isDigit_of_mem_toDigits (by decide) (by decide) h
  cases hdigit

theorem digits_inj : Nat.toDigits 10 n = Nat.toDigits 10 n' ↔ n = n' := by
  refine ⟨fun h => ?_, congrArg _⟩
  have hvalue := congrArg (Nat.ofDigitChars 10 · 0) h
  simpa [Nat.ofDigitChars_ten_toDigits] using hvalue

theorem first_separator_inj (ha : ':' ∉ a) (ha' : ':' ∉ a') :
    a ++ ':' :: rest = a' ++ ':' :: rest' ↔ a = a' ∧ rest = rest' := by
  refine ⟨fun h => ?_, fun ⟨h, hrest⟩ => by rw [h, hrest]⟩
  have hsplit := congrArg (splitOnce [':']) h
  rw [splitOnce_append ha, splitOnce_append ha'] at hsplit
  simpa [splitOnce, stripPrefix] using hsplit

theorem number_inj : Nat.toDigits 10 n ++ ':' :: rest = Nat.toDigits 10 n' ++ ':' :: rest' ↔
    n = n' ∧ rest = rest' := by
  rw [first_separator_inj (colon_notMem_digits n) (colon_notMem_digits n'), digits_inj]

theorem last_number_inj : a ++ ':' :: Nat.toDigits 10 n = a' ++ ':' :: Nat.toDigits 10 n' ↔
    a = a' ∧ n = n' := by
  rw [append_separator_inj (colon_notMem_digits n) (colon_notMem_digits n'), digits_inj]

theorem reason_inj : reason.asStr.toList ++ ':' :: rest = reason'.asStr.toList ++ ':' :: rest' ↔
    reason = reason' ∧ rest = rest' := by
  have hcolon : ∀ r : ScoreReasonCode, ':' ∉ r.asStr.toList := by
    intro r
    cases r <;> decide
  rw [first_separator_inj (hcolon reason) (hcolon reason'), String.toList_inj]
  refine and_congr_left' ⟨fun h => ?_, congrArg _⟩
  cases reason <;> cases reason' <;> first | rfl | exact absurd h (by decide)

theorem keyHead_inj :
    (keyHead input ticketId reason).toList ++ ':' :: rest =
      (keyHead input' ticketId' reason').toList ++ ':' :: rest' ↔
    input.nodeId = input'.nodeId ∧ input.workerId = input'.workerId ∧ ticketId = ticketId' ∧
      reason = reason' ∧ rest = rest' := by
  unfold keyHead
  -- without a ticket the word after the worker is `reason`, with one it is `ticket`
  rcases ticketId with _ | t <;> rcases ticketId' with _ | _ <;>
    simp [toString, number_inj, reason_inj]

/-- What follows the head of a key, by the candidates counted. -/
def Counted (count : Nat) (rest : Text) : Prop :=
  (∃ fingerprint bucket, rest = "ops:".toList ++ fingerprint ++ ":candidates".toList ++
    ':' :: Nat.toDigits 10 count ++ ":bucket".toList ++ ':' :: Nat.toDigits 10 bucket) ∨
  count = 1 ∧ ∃ free, rest = "refs:".toList ++ free

theorem Counted.unique (h : Counted n rest) (h' : Counted n' rest) : n = n' := by
  rcases h with ⟨_, _, rfl⟩ | ⟨rfl, _, rfl⟩ <;> rcases h' with ⟨_, _, heq⟩ | ⟨rfl, _, heq⟩
  · -- the counts are read from the end, after the free text
    have hcounts := append_cancel_right (last_number_inj.mp heq).1
    exact (last_number_inj.mp hcounts).2
  · simp at heq
  · simp at heq
  · rfl

/-- A decision all of whose fields can be read from its key. -/
def Legible (d : NewSchedulerDecision) : Prop :=
  ∃ input ticketId reason count key rest,
    d = decision input ticketId
      (if ticketId = none ∧ count = 0 then .idle else .noEligibleCandidate)
      reason count (some key) ∧
    key.toList = (keyHead input ticketId reason).toList ++ ':' :: rest ∧ Counted count rest

theorem legible_of_ops (input : RemoteAcquireInput) (ticketId : Option TicketId)
    (reason : ScoreReasonCode) (n : Nat) (ops : String) {outcome : ScoreOutcome}
    (hout : outcome = if ticketId = none ∧ n = 0 then .idle else .noEligibleCandidate) :
    Legible (input.decision ticketId outcome reason n
      (input.remoteAcquireSuppressionKey reason ops ticketId n)) :=
  ⟨input, ticketId, reason, n, _, _, by rw [hout],
    by simp [remoteAcquireSuppressionKey, toString],
    .inl ⟨ops.toList, input.bucket, rfl⟩⟩

/-- A score without an eligible candidate counts the candidates it turned away. -/
theorem scored_count {candidates : List SchedulerCandidate} {score : ScoreDecision}
    (h : RemoteScore.scoreRemoteCandidates candidates = .ok score)
    (hout : score.outcome = .noEligibleCandidate) : saturating score.candidateCount ≠ 0 := by
  unfold RemoteScore.scoreRemoteCandidates at h
  split_ifs at h with hnil
  · rw [hnil] at h
    cases h
    cases hout
  · have hlength : saturating candidates.length ≠ 0 := by simp [saturating, hnil]
    split at h
    · cases h
    · split at h <;> cases h <;> exact hlength

variable {d d' : NewSchedulerDecision}

theorem legible (h : d.Built) : Legible d := by
  cases h with
  | idle input _ ops h =>
    cases h
    exact legible_of_ops input none .noReadyTicket 0 ops rfl
  | noCandidate input _ score ops h hout =>
    have hcount := scored_count h hout
    rcases score with ⟨_, _, count, reason⟩
    cases hout
    exact legible_of_ops input none reason (saturating count) ops (if_neg fun h => hcount h.2).symm
  | capacity input reason ticketId operation count =>
    exact legible_of_ops input (some ticketId) reason (saturating count) operation rfl
  | changedGate input ticketId kind reason =>
    exact legible_of_ops input (some ticketId) reason 1 kind rfl
  | gateRejection input ticketId =>
    exact ⟨input, some ticketId, .unsupportedArtifactAccess, 1, _, _, rfl,
      by simp [toString]; rfl, .inr ⟨rfl, _, rfl⟩⟩

theorem eq_of_suppressionKey (h : d.Built) (h' : d'.Built)
    (hkey : d.suppressionKey = d'.suppressionKey) : d = d' := by
  obtain ⟨_, _, _, _, _, _, rfl, hread, hcount⟩ := legible h
  obtain ⟨_, _, _, _, _, _, rfl, hread', hcount'⟩ := legible h'
  cases hkey
  obtain ⟨hnode, hworker, rfl, rfl, rfl⟩ := keyHead_inj.mp (hread.symm.trans hread')
  obtain rfl := hcount.unique hcount'
  simp only [decision, hnode, hworker]

/-! ## Repeated decisions -/

/-- What is recorded: a decision gets a row, and each repetition counts in that row. -/
def recorded (rows : List DecisionRow) (d : NewSchedulerDecision) : List DecisionRow :=
  if ∃ row ∈ rows, row.decision = d then
    rows.map fun row => if row.decision = d then row.suppress else row
  else rows ++ [⟨d, 0⟩]

section
variable {rows : List DecisionRow} (hrows : ∀ row ∈ rows, row.decision.Built) (hd : d.Built)
include hrows hd

theorem createOrSuppressInTx_eq : createOrSuppressInTx rows d = .ok (recorded rows d) := by
  have hsame : ∀ row ∈ rows, (d.conflicts row = true ↔ row.decision = d) := by
    intro row hrow
    obtain ⟨_, _, _, _, _, _, hkey, _⟩ := legible hd
    rw [NewSchedulerDecision.conflicts, Bool.and_eq_true, decide_eq_true_eq]
    exact ⟨fun h => eq_of_suppressionKey (hrows row hrow) hd h.2, fun h => ⟨hkey ▸ rfl, h ▸ rfl⟩⟩
  unfold createOrSuppressInTx recorded
  split
  next hnone =>
    rw [if_neg fun ⟨row, hrow, heq⟩ =>
      find?_eq_none.mp hnone row hrow ((hsame row hrow).mpr heq)]
  next row hfind =>
  have hrow := mem_of_find?_eq_some hfind
  have heq := (hsame row hrow).mp (find?_some hfind)
  rw [if_pos (by simp [NewSchedulerDecision.agrees, heq]), if_pos ⟨row, hrow, heq⟩,
    map_congr_left fun row hrow => if_congr (hsame row hrow) rfl rfl]

theorem recorded_built : ∀ row ∈ recorded rows d, row.decision.Built := by
  unfold recorded
  split_ifs
  · simp only [forall_mem_map]
    intro row hrow
    split_ifs <;> exact hrows row hrow
  · simpa [or_imp, forall_and] using ⟨hrows, hd⟩

end

/-- Decisions without a lease are told apart by their keys, whatever text the keys hold; so no
key is found to belong to another decision, and a repeated decision counts in its own row. -/
theorem suppression_keys_identify :
    (∀ d d' : NewSchedulerDecision, d.Built → d'.Built →
      d.suppressionKey = d'.suppressionKey → d = d') ∧
    ∀ ds : List NewSchedulerDecision, (∀ d ∈ ds, d.Built) →
      ds.foldlM createOrSuppressInTx [] = .ok (ds.foldl recorded []) := by
  refine ⟨fun _ _ => eq_of_suppressionKey, fun ds hds => ?_⟩
  suffices ∀ rows : List DecisionRow, (∀ row ∈ rows, row.decision.Built) →
      ds.foldlM createOrSuppressInTx rows = .ok (ds.foldl recorded rows) from this [] (by simp)
  induction ds with
  | nil => exact fun _ _ => rfl
  | cons d _ ih =>
    intro _ hrows
    obtain ⟨hd, hds⟩ := forall_mem_cons.mp hds
    rw [foldlM_cons, createOrSuppressInTx_eq hrows hd]
    exact ih hds _ (recorded_built hrows hd)

theorem repeated_gate_counted :
    let d := changedGateDecision ⟨1, 2, 60⟩ 3 "probe:candidates:9:bucket:9" .missingGrant
    [d, d].foldlM createOrSuppressInTx [] = .ok [⟨d, 1⟩] := by
  refine (suppression_keys_identify.2 _ ?_).trans (by simp [recorded, DecisionRow.suppress])
  simpa using NewSchedulerDecision.Built.changedGate ..

end Voom
