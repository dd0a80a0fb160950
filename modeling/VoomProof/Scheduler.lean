import VoomProof.LeaseStore

/-!
# Scheduler scoring

`SchedulerScorer::score` of `voom-scheduler` and the grouping of `remote_acquire` around
it (`score_remote_candidates`). A candidate is a ready ticket seen from one worker; the
hard gates decide if it may be chosen at all, and among those left the best score wins,
ties going to the smallest key, which ends in the ticket id.

Explanations are left out; their reasons are kept, since a decision without a candidate takes
its reason code from them.
-/

namespace Voom
open List

structure TicketCandidate where
  ticketId : TicketId
  operation : TicketOperation
  priority : Int
  nextEligibleAt : Instant
  deriving DecidableEq

structure WorkerCandidate where
  workerId : WorkerId
  nodeId : NodeId
  executable : Bool
  hasCapability : Bool
  hasGrant : Bool
  denied : Bool
  activeLeases : Nat
  maxParallel : Nat
  artifactAccess : List ArtifactAccessMode
  deriving DecidableEq

structure NodeCandidate where
  nodeId : NodeId
  executable : Bool
  heartbeatFresh : Bool
  activeLeases : Nat
  maxParallelLeases : Nat
  deriving DecidableEq

structure SchedulerCandidate where
  ticket : TicketCandidate
  worker : WorkerCandidate
  node : NodeCandidate
  deriving DecidableEq

structure SelectedCandidate where
  ticketId : TicketId
  workerId : WorkerId
  nodeId : NodeId
  accessMode : ArtifactAccessMode
  score : Int
  deriving DecidableEq

inductive ScoreOutcome where
  | selected
  | idle
  | noEligibleCandidate
  deriving DecidableEq

inductive ScoreReasonCode where
  | selected
  | noReadyTicket
  | missingCapability
  | missingGrant
  | operationDenied
  | workerNotExecutable
  | nodeNotExecutable
  | heartbeatExpired
  | unsupportedArtifactAccess
  | workerCapacityFull
  | nodeCapacityFull
  | noEligibleCandidate
  deriving DecidableEq

/-- The smaller, the more fundamental. -/
def ScoreReasonCode.priority : ScoreReasonCode → Nat
  | missingCapability => 0
  | missingGrant => 1
  | operationDenied => 2
  | workerNotExecutable => 3
  | nodeNotExecutable => 4
  | heartbeatExpired => 5
  | unsupportedArtifactAccess => 6
  | workerCapacityFull => 7
  | nodeCapacityFull => 8
  | selected | noReadyTicket | noEligibleCandidate => 9

structure ScoreDecision where
  outcome : ScoreOutcome
  selected : Option SelectedCandidate
  candidateCount : Nat
  reasonCode : ScoreReasonCode
  deriving DecidableEq

/-! ## One candidate -/

namespace SchedulerCandidate

def selectAccessMode (modes : List ArtifactAccessMode) : Option ArtifactAccessMode :=
  if .sharedMount ∈ modes then some .sharedMount
  else if .controlPlanePlaceholder ∈ modes then some .controlPlanePlaceholder
  else if .stagedOutputPlaceholder ∈ modes then some .stagedOutputPlaceholder
  else none

def accessMode (c : SchedulerCandidate) : Option ArtifactAccessMode :=
  selectAccessMode c.worker.artifactAccess

def hardGates (c : SchedulerCandidate) : List (Bool × ScoreReasonCode) :=
  [(c.worker.hasCapability, .missingCapability),
   (c.worker.hasGrant, .missingGrant),
   (!c.worker.denied, .operationDenied),
   (c.worker.executable, .workerNotExecutable),
   (c.node.executable, .nodeNotExecutable),
   (c.node.heartbeatFresh, .heartbeatExpired),
   (c.accessMode.isSome, .unsupportedArtifactAccess),
   (c.worker.activeLeases < c.worker.maxParallel, .workerCapacityFull),
   (c.node.activeLeases < c.node.maxParallelLeases, .nodeCapacityFull)]

/-- The gates the candidate does not pass. -/
def hardGateReasons (c : SchedulerCandidate) : List ScoreReasonCode :=
  c.hardGates.filterMap fun (passed, reason) => if passed then none else some reason

def accessScore : ArtifactAccessMode → Int
  | .sharedMount => 100
  | .controlPlanePlaceholder => 50
  | .stagedOutputPlaceholder => 25

def scoreCandidate (c : SchedulerCandidate) (mode : ArtifactAccessMode) : Int :=
  let workerRemaining : Int := (c.worker.maxParallel - c.worker.activeLeases : Nat)
  let nodeRemaining : Int := (c.node.maxParallelLeases - c.node.activeLeases : Nat)
  1000 + 500 + accessScore mode + workerRemaining * 50 + nodeRemaining * 20

/-- Compared from the left; the priority counts the other way. -/
def tieKey (c : SchedulerCandidate) : List Int :=
  [-c.ticket.priority, c.ticket.nextEligibleAt, c.node.nodeId, c.worker.workerId,
    c.ticket.ticketId]

end SchedulerCandidate

/-- A candidate that passes the gates, with its score. -/
structure ScoredCandidate where
  candidate : SchedulerCandidate
  mode : ArtifactAccessMode
  score : Int
  deriving DecidableEq

namespace ScoredCandidate

def ofCandidate (c : SchedulerCandidate) : Option ScoredCandidate :=
  match c.accessMode with
  | some mode =>
      if c.hardGateReasons = [] then some ⟨c, mode, c.scoreCandidate mode⟩ else none
  | none => none

def beats (challenger incumbent : ScoredCandidate) : Bool :=
  incumbent.score < challenger.score ||
    (challenger.score = incumbent.score &&
      challenger.candidate.tieKey < incumbent.candidate.tieKey)

/-- The better of the incumbent, if there is one, and a challenger. -/
def challenge (incumbent : Option ScoredCandidate) (challenger : ScoredCandidate) :
    ScoredCandidate :=
  match incumbent with
  | none => challenger
  | some incumbent => if challenger.beats incumbent then challenger else incumbent

def selected (s : ScoredCandidate) : SelectedCandidate where
  ticketId := s.candidate.ticket.ticketId
  workerId := s.candidate.worker.workerId
  nodeId := s.candidate.node.nodeId
  accessMode := s.mode
  score := s.score

end ScoredCandidate

/-! ## The scorer -/

namespace SchedulerScorer
open ScoredCandidate

/-- The reason of a decision that selects nothing: the most fundamental one met. -/
def firstRejectionReason (candidates : List SchedulerCandidate) : ScoreReasonCode :=
  (candidates.flatMap (·.hardGateReasons)).foldl
    (fun best reason => if reason.priority < best.priority then reason else best)
    .noEligibleCandidate

/-- The best of the candidates that pass the gates. -/
def best (candidates : List SchedulerCandidate) : Option ScoredCandidate :=
  candidates.foldl
    (fun incumbent c =>
      match ofCandidate c with
      | some challenger => some (challenge incumbent challenger)
      | none => incumbent)
    none

def operationMismatch (c first : SchedulerCandidate) : VoomError :=
  .internal ("scheduler candidate operation TicketOperation(" ++ c.ticket.operation.asStr.quote ++
    ") does not match TicketOperation(" ++ first.ticket.operation.asStr.quote ++ ")")

def nodeMismatch (c : SchedulerCandidate) : VoomError :=
  .internal
    s!"scheduler candidate worker node {c.worker.nodeId} does not match node {c.node.nodeId}"

def decision (candidates : List SchedulerCandidate) : ScoreDecision :=
  match best candidates with
  | some s => ⟨.selected, some s.selected, candidates.length, .selected⟩
  | none => ⟨.noEligibleCandidate, none, candidates.length, firstRejectionReason candidates⟩

def score : List SchedulerCandidate → Except VoomError ScoreDecision
  | [] => .ok ⟨.idle, none, 0, .noReadyTicket⟩
  | first :: rest =>
      match (first :: rest).find? (fun c => c.ticket.operation ≠ first.ticket.operation) with
      | some c => .error (operationMismatch c first)
      | none =>
        match (first :: rest).find? (fun c => c.worker.nodeId ≠ c.node.nodeId) with
        | some c => .error (nodeMismatch c)
        | none => .ok (decision (first :: rest))

end SchedulerScorer

/-! ## Groups of one operation -/

namespace RemoteScore
open SchedulerScorer

def selectedCandidateForScore (d : ScoreDecision) (candidates : List SchedulerCandidate) :
    Except VoomError SchedulerCandidate :=
  match d.selected with
  | none => .error (.internal "selected score missing tuple")
  | some s =>
      match candidates.find? (fun c => c.ticket.ticketId = s.ticketId &&
          c.worker.workerId = s.workerId && c.node.nodeId = s.nodeId) with
      | some c => .ok c
      | none =>
          .error (.internal s!"selected score references missing candidate ticket={s.ticketId}")

def I64_MIN : Int := -9223372036854775808

def scoreOf (d : ScoreDecision) : Int := (d.selected.map (·.score)).getD I64_MIN

def selectedScoreIsBetter (challenger : ScoreDecision) (challengerCandidate : SchedulerCandidate)
    (incumbent : ScoreDecision) (incumbentCandidate : SchedulerCandidate) : Bool :=
  scoreOf incumbent < scoreOf challenger ||
    (scoreOf challenger = scoreOf incumbent &&
      challengerCandidate.tieKey < incumbentCandidate.tieKey)

/-- What the groups scored so far gave. -/
structure Groups where
  bestSelected : Option (ScoreDecision × SchedulerCandidate)
  firstNoCandidate : Option ScoreDecision
  deriving DecidableEq

def Groups.add (g : Groups) (candidates : List SchedulerCandidate) : Except VoomError Groups :=
  match score candidates with
  | .error e => .error e
  | .ok d =>
      match d.outcome with
      | .selected =>
          match selectedCandidateForScore d candidates with
          | .error e => .error e
          | .ok c =>
              match g.bestSelected with
              | some (best, bestCandidate) =>
                  if selectedScoreIsBetter d c best bestCandidate then
                    .ok { g with bestSelected := some (d, c) }
                  else .ok g
              | none => .ok { g with bestSelected := some (d, c) }
      | .noEligibleCandidate =>
          .ok { g with firstNoCandidate := some (g.firstNoCandidate.getD d) }
      | .idle => .ok g

/-- The candidates of each operation, in the order the operations first occur. -/
def byOperation (candidates : List SchedulerCandidate) : List (List SchedulerCandidate) :=
  (candidates.map (·.ticket.operation)).eraseDups.map fun operation =>
    candidates.filter (·.ticket.operation = operation)

def aggregateScoreDecision (base : ScoreDecision) (candidates : List SchedulerCandidate) :
    ScoreDecision :=
  { base with
    candidateCount := candidates.length
    reasonCode :=
      if base.outcome = .noEligibleCandidate then firstRejectionReason candidates
      else base.reasonCode }

def scoreRemoteCandidates (candidates : List SchedulerCandidate) :
    Except VoomError ScoreDecision :=
  if candidates = [] then score candidates
  else
    match (byOperation candidates).foldlM Groups.add ⟨none, none⟩ with
    | .error e => .error e
    | .ok g =>
        match g.bestSelected, g.firstNoCandidate with
        | some (d, _), _ => .ok (aggregateScoreDecision d candidates)
        | none, some d => .ok (aggregateScoreDecision d candidates)
        | none, none => .error (.internal "remote acquire scorer returned no decision")

end RemoteScore

/-! ## What a decision selects -/

namespace SchedulerScorer
open ScoredCandidate

theorem ofCandidate_eq_some {c : SchedulerCandidate} {s : ScoredCandidate}
    (h : ofCandidate c = some s) : s.candidate = c ∧ c.hardGateReasons = [] := by
  unfold ofCandidate at h
  split at h
  · split at h
    next hgates => cases h; exact ⟨rfl, hgates⟩
    · cases h
  · cases h

theorem challenge_cases (incumbent : Option ScoredCandidate) (challenger : ScoredCandidate) :
    challenge incumbent challenger = challenger ∨
      some (challenge incumbent challenger) = incumbent := by
  unfold challenge
  split
  · exact .inl rfl
  · split
    · exact .inl rfl
    · exact .inr rfl

variable {candidates : List SchedulerCandidate}

/-- The candidate selected is one of the candidates, and passes the gates. -/
theorem best_mem {s : ScoredCandidate} (h : best candidates = some s) :
    s.candidate ∈ candidates ∧ s.candidate.hardGateReasons = [] := by
  -- the incumbent of every round
  refine foldlRecOn candidates _ (motive := fun incumbent => ∀ s, incumbent = some s →
    s.candidate ∈ candidates ∧ s.candidate.hardGateReasons = []) (fun s hs => by cases hs)
    (fun incumbent hbef c hc s hs => ?_) s h
  split at hs
  next challenger heq =>
    obtain ⟨hcand, hgates⟩ := ofCandidate_eq_some heq
    rcases challenge_cases incumbent challenger with hch | hinc
    · cases hs
      rw [hch, hcand]
      exact ⟨hc, hgates⟩
    · exact hbef s (hinc ▸ hs)
  · exact hbef s hs

/-- A group of one operation whose candidates agree on their node is scored. -/
theorem score_eq_decision {operation : TicketOperation} (hne : candidates ≠ [])
    (hop : ∀ c ∈ candidates, c.ticket.operation = operation)
    (hnode : ∀ c ∈ candidates, c.worker.nodeId = c.node.nodeId) :
    score candidates = .ok (decision candidates) := by
  cases candidates with
  | nil => exact absurd rfl hne
  | cons first rest =>
    have hops : (first :: rest).find? (fun c => c.ticket.operation ≠ first.ticket.operation) =
        none := by
      rw [find?_eq_none]
      intro c hc
      simp [hop c hc, hop first mem_cons_self]
    have hnodes : (first :: rest).find? (fun c => c.worker.nodeId ≠ c.node.nodeId) = none := by
      rw [find?_eq_none]
      intro c hc
      simp [hnode c hc]
    rw [score, hops, hnodes]

end SchedulerScorer

namespace RemoteScore
open SchedulerScorer

/-- The decision selects one of the candidates, which passes the gates. -/
def Chooses (candidates : List SchedulerCandidate) (d : ScoreDecision) : Prop :=
  d.outcome = .selected ∧ ∃ c ∈ candidates, c.hardGateReasons = [] ∧
    ∃ s, d.selected = some s ∧ s.ticketId = c.ticket.ticketId ∧ s.workerId = c.worker.workerId ∧
      s.nodeId = c.node.nodeId

/-- A decision on a group of candidates: one of them, or none that passes the gates. -/
theorem decision_cases (candidates : List SchedulerCandidate) :
    Chooses candidates (decision candidates) ∨
      (decision candidates).outcome = .noEligibleCandidate := by
  unfold decision
  cases h : best candidates with
  | none => exact .inr rfl
  | some s =>
    obtain ⟨hmem, hgates⟩ := best_mem h
    exact .inl ⟨rfl, s.candidate, hmem, hgates, s.selected, rfl, rfl, rfl, rfl⟩

variable {candidates : List SchedulerCandidate}

theorem Chooses.find {d : ScoreDecision} (h : Chooses candidates d) :
    ∃ c, selectedCandidateForScore d candidates = .ok c := by
  obtain ⟨-, c, hc, -, s, hs, htick, hworker, hnode⟩ := h
  unfold selectedCandidateForScore
  rw [hs]
  dsimp only
  split
  next c' _ => exact ⟨c', rfl⟩
  next hnone =>
    rw [find?_eq_none] at hnone
    exact absurd (by simp [htick, hworker, hnode]) (hnone c hc)

variable {group : List SchedulerCandidate}

theorem Chooses.mono {d : ScoreDecision} (h : Chooses group d)
    (hsub : ∀ c ∈ group, c ∈ candidates) : Chooses candidates d := by
  obtain ⟨hout, c, hc, hrest⟩ := h
  exact ⟨hout, c, hsub c hc, hrest⟩

/-- The groups scored so far hold decisions on the candidates. -/
structure Groups.Sound (candidates : List SchedulerCandidate) (g : Groups) : Prop where
  best : ∀ {d : ScoreDecision} {c : SchedulerCandidate}, g.bestSelected = some (d, c) →
    Chooses candidates d
  noCandidate : ∀ {d : ScoreDecision}, g.firstNoCandidate = some d →
    d.outcome = .noEligibleCandidate

/-- Some group has been scored. -/
def Groups.Scored (g : Groups) : Prop := g.bestSelected.isSome ∨ g.firstNoCandidate.isSome

theorem Groups.add_ok {operation : TicketOperation} {g : Groups} (hg : g.Sound candidates)
    (hne : group ≠ []) (hop : ∀ c ∈ group, c.ticket.operation = operation)
    (hnode : ∀ c ∈ group, c.worker.nodeId = c.node.nodeId) (hsub : ∀ c ∈ group, c ∈ candidates) :
    ∃ g', g.add group = .ok g' ∧ g'.Sound candidates ∧ g'.Scored := by
  unfold Groups.add
  rw [score_eq_decision hne hop hnode]
  dsimp only
  rcases decision_cases group with hch | hno
  · obtain ⟨c, hc⟩ := hch.find
    have hwith : Groups.Sound candidates { g with bestSelected := some (decision group, c) } := by
      refine ⟨fun h => ?_, hg.noCandidate⟩
      cases h
      exact hch.mono hsub
    rw [hch.1]
    rw [hc]
    dsimp only
    split
    next hbest =>
      split
      · exact ⟨_, rfl, hwith, .inl rfl⟩
      · exact ⟨g, rfl, hg, .inl (by rw [hbest]; rfl)⟩
    · exact ⟨_, rfl, hwith, .inl rfl⟩
  · rw [hno]
    refine ⟨_, rfl, ⟨hg.best, fun h => ?_⟩, .inr rfl⟩
    cases hf : g.firstNoCandidate with
    | none => rw [hf] at h; cases h; exact hno
    | some d => rw [hf] at h; cases h; exact hg.noCandidate hf

theorem foldlM_add_ok (hnode : ∀ c ∈ candidates, c.worker.nodeId = c.node.nodeId)
    (operations : List TicketOperation)
    (hops : ∀ operation ∈ operations, ∃ c ∈ candidates, c.ticket.operation = operation) :
    ∀ g : Groups, g.Sound candidates →
      ∃ g', (operations.map fun operation =>
          candidates.filter (·.ticket.operation = operation)).foldlM Groups.add g = .ok g' ∧
        g'.Sound candidates ∧ (operations ≠ [] ∨ g.Scored → g'.Scored) := by
  induction operations with
  | nil => exact fun g hg => ⟨g, rfl, hg, fun h => h.elim (absurd rfl) id⟩
  | cons operation _ ih =>
    intro g hg
    obtain ⟨c, hc, hcop⟩ := hops operation mem_cons_self
    have hne : candidates.filter (·.ticket.operation = operation) ≠ [] :=
      ne_nil_of_mem (mem_filter.mpr ⟨hc, by simp [hcop]⟩)
    obtain ⟨g₁, hadd, hg₁, hscored⟩ := Groups.add_ok hg hne
      (fun c hc => by simpa using (mem_filter.mp hc).2)
      (fun c hc => hnode c (mem_filter.mp hc).1) (fun c hc => (mem_filter.mp hc).1)
    obtain ⟨g', hfold, hg', hkeep⟩ :=
      ih (fun o ho => hops o (mem_cons_of_mem _ ho)) g₁ hg₁
    refine ⟨g', ?_, hg', fun _ => hkeep (.inr hscored)⟩
    rw [map_cons, foldlM_cons, hadd]
    exact hfold

/-- **The scorer always decides**: on candidates that agree on their node it selects one
that passes the gates, or says that none does. -/
theorem scoreRemoteCandidates_decides (hne : candidates ≠ [])
    (hnode : ∀ c ∈ candidates, c.worker.nodeId = c.node.nodeId) :
    ∃ d, scoreRemoteCandidates candidates = .ok d ∧
      (Chooses candidates d ∨ d.outcome = .noEligibleCandidate) := by
  have hops : ∀ operation ∈ (candidates.map (·.ticket.operation)).eraseDups,
      ∃ c ∈ candidates, c.ticket.operation = operation := by
    intro _ hop
    exact mem_map.mp (mem_eraseDups.mp hop)
  obtain ⟨g, hfold, hg, hscored⟩ := foldlM_add_ok hnode _ hops ⟨none, none⟩
    ⟨(nomatch ·), (nomatch ·)⟩
  have hnonempty : (candidates.map (·.ticket.operation)).eraseDups ≠ [] := by
    obtain ⟨c, _, rfl⟩ := exists_cons_of_ne_nil hne
    simp [eraseDups_cons]
  unfold scoreRemoteCandidates
  rw [if_neg hne, byOperation, hfold]
  dsimp only
  rcases hbest : g.bestSelected with _ | ⟨d, c⟩
  · rcases hno : g.firstNoCandidate with _ | d
    · have := hscored (.inl hnonempty)
      simp [Groups.Scored, hbest, hno] at this
    · have hout : d.outcome = .noEligibleCandidate := hg.noCandidate hno
      exact ⟨_, rfl, .inr hout⟩
  · have hch : Chooses candidates d := hg.best hbest
    exact ⟨_, rfl, .inl hch⟩

end RemoteScore
end Voom
