import DealFlow.Guardian.MaterialChange

/-!
# The approval chain

What governance keeps about a deal: the order it is about, the assessments, the approval requests,
and where the deal stands (`Approvals`).  An assessment is added by `assess`; a pending request is
decided by `approve` or `decline`, or gets a `remark`.

`InPhase` says where a deal can stand: nothing is pending, or exactly one request is, for the
current assessment and in the stage the deal waits for.  `Chain` adds that ids are distinct and
that the deal carries the level and score of its current assessment.  Every operation keeps it
(`Chain.assess`, `Chain.approve`, `Chain.decline`, `Chain.remark`).
-/

namespace DealFlow

structure Approvals where
  odooSaleOrderId : ℤ
  assessments : List RiskAssessment
  requests : List ApprovalRequest
  nextId : ℕ
  approvalState : ApprovalState
  requiredLevel : ApprovalLevel
  currentRiskScore : Option ℚ
  currentAssessmentId : Option ℕ
  approvedAssessmentId : Option ℕ

/-- The state in which a deal waits for a stage. -/
def ApprovalStage.pendingState : ApprovalStage → ApprovalState
  | .salesManager => .pendingManager
  | .finance => .pendingFinance

/-- A request as routing opens it. -/
def stageRequest (stage : ApprovalStage) (sequence requestId riskAssessmentId : ℕ)
    (now : Timestamp) : ApprovalRequest :=
  { id := requestId
    riskAssessmentId
    requiredLevel := stage
    sequence
    status := .pending
    requestedAt := now }

/-- A pending request as a new evaluation leaves it. -/
def supersede (now : Timestamp) (r : ApprovalRequest) : ApprovalRequest :=
  if r.status = .pending then
    { r with
      status := .invalidated
      completedAt := some now
      decisionReason := some "Superseded by re-evaluation" }
  else r

/-- Apply `f` to the row of one id. -/
def onRequest (requestId : ℕ) (f : ApprovalRequest → ApprovalRequest) (r : ApprovalRequest) :
    ApprovalRequest :=
  if r.id = requestId then f r else r

/-- The rows waiting for a decision. -/
def waiting (rs : List ApprovalRequest) : List ApprovalRequest :=
  rs.filter fun r => r.status = .pending

namespace Approvals

def pending (a : Approvals) : List ApprovalRequest :=
  waiting a.requests

def approvedAssessment (a : Approvals) : Option RiskAssessment :=
  a.approvedAssessmentId.bind fun assessmentId => a.assessments.find? fun s => s.id = assessmentId

def currentAssessment (a : Approvals) : Option RiskAssessment :=
  a.currentAssessmentId.bind fun assessmentId => a.assessments.find? fun s => s.id = assessmentId

/-- The approved assessment covers another one. -/
def covers (a : Approvals) (s : RiskAssessment) : Bool :=
  isCoveredByApprovedAssessment a.approvedAssessment s.requiredLevel s.riskScore

/-- Make an assessment the current one. -/
def settle (a : Approvals) (s : RiskAssessment) : Approvals :=
  { a with
    assessments := a.assessments ++ [s]
    nextId := a.nextId + 1
    requiredLevel := s.requiredLevel
    currentRiskScore := some s.riskScore
    currentAssessmentId := some s.id }

/-- A new assessment: a covered approval stands, else the chain starts anew. -/
def assess (a : Approvals) (s : RiskAssessment) (now : Timestamp) : Approvals :=
  if a.covers s = true ∧ a.approvalState = .approved then a.settle s
  else if s.requiredLevel = .none then
    { a.settle s with
      requests := a.requests.map (supersede now)
      approvalState := .evaluatedNoApproval }
  else
    { a.settle s with
      requests := a.requests.map (supersede now) ++
        [stageRequest .salesManager 1 (a.nextId + 1) s.id now]
      nextId := a.nextId + 2
      approvalState := .pendingManager }

/-- The request is approved: the chain moves to the finance stage or ends. -/
def approve (a : Approvals) (req : ApprovalRequest) (close : ApprovalRequest → ApprovalRequest)
    (now : Timestamp) : Approvals :=
  if a.requiredLevel = .managerAndFinance ∧ req.requiredLevel = .salesManager then
    { a with
      requests := a.requests.map (onRequest req.id close) ++
        [stageRequest .finance 2 a.nextId req.riskAssessmentId now]
      nextId := a.nextId + 1
      approvalState := .pendingFinance }
  else
    { a with
      requests := a.requests.map (onRequest req.id close)
      approvalState := .approved
      approvedAssessmentId := some req.riskAssessmentId }

/-- The request is closed otherwise, which ends the chain. -/
def decline (a : Approvals) (req : ApprovalRequest) (close : ApprovalRequest → ApprovalRequest)
    (state : ApprovalState) : Approvals :=
  { a with
    requests := a.requests.map (onRequest req.id close)
    approvalState := state }

/-- The request gets a remark and stays as it is. -/
def remark (a : Approvals) (req : ApprovalRequest) (note : ApprovalRequest → ApprovalRequest) :
    Approvals :=
  { a with requests := a.requests.map (onRequest req.id note) }

end Approvals

/-! ## The invariant -/

/-- Where a deal can stand in its approval chain. -/
inductive InPhase (a : Approvals) : Prop
  | settled (empty : a.pending = [])
      (state : ∀ stage : ApprovalStage, a.approvalState ≠ stage.pendingState)
  | awaiting (r : ApprovalRequest) (only : a.pending = [r])
      (state : a.approvalState = r.requiredLevel.pendingState)
      (current : a.currentAssessmentId = some r.riskAssessmentId)

structure Chain (a : Approvals) : Prop where
  requestIds : (a.requests.map (·.id)).Nodup
  requestIdsBelow : ∀ r ∈ a.requests, r.id < a.nextId
  assessmentIds : (a.assessments.map (·.id)).Nodup
  assessmentIdsBelow : ∀ s ∈ a.assessments, s.id < a.nextId
  phase : InPhase a
  currentStored : ∀ assessmentId, a.currentAssessmentId = some assessmentId →
    ∃ s ∈ a.assessments, s.id = assessmentId
  currentCarried : ∀ s ∈ a.assessments, a.currentAssessmentId = some s.id →
    a.requiredLevel = s.requiredLevel ∧ a.currentRiskScore = some s.riskScore
  approvedCurrent : a.approvalState = .approved →
    ∃ assessmentId, a.currentAssessmentId = some assessmentId

theorem pendingState_injective {stage stage' : ApprovalStage}
    (same : stage.pendingState = stage'.pendingState) : stage = stage' := by
  cases stage <;> cases stage' <;> first | rfl | cases same

theorem approved_ne_pendingState (stage : ApprovalStage) :
    ApprovalState.approved ≠ stage.pendingState := by
  cases stage <;> decide

/-! ## Rows -/

/-- A row with an id above all others keeps the ids distinct. -/
theorem ids_concat {α : Type} {key : α → ℕ} {rows : List α} {row : α}
    (ids : (rows.map key).Nodup) (below : ∀ r ∈ rows, key r < key row) :
    ((rows ++ [row]).map key).Nodup := by
  rw [List.map_append, List.map_singleton]
  refine List.nodup_append.mpr ⟨ids, List.nodup_singleton _, ?_⟩
  intro x memX y memY same
  obtain ⟨r, memR, rfl⟩ := List.mem_map.mp memX
  rw [List.mem_singleton.mp memY] at same
  exact absurd same (below r memR).ne

theorem below_concat {α : Type} {key : α → ℕ} {rows : List α} {row : α} {n : ℕ}
    (below : ∀ r ∈ rows, key r < key row) (last : key row < n) :
    ∀ r ∈ rows ++ [row], key r < n := by
  intro r mem
  rcases List.mem_append.mp mem with old | new
  · exact (below r old).trans last
  · rw [List.mem_singleton.mp new]
    exact last

@[simp] theorem supersede_id (now : Timestamp) (r : ApprovalRequest) :
    (supersede now r).id = r.id := by
  unfold supersede
  split <;> rfl

theorem supersede_status (now : Timestamp) (r : ApprovalRequest) :
    (supersede now r).status ≠ .pending := by
  unfold supersede
  split
  · exact fun h => by cases h
  · next decided => exact decided

theorem map_supersede_ids (now : Timestamp) (rs : List ApprovalRequest) :
    (rs.map (supersede now)).map (·.id) = rs.map (·.id) := by
  simp [Function.comp_def]

theorem map_onRequest_ids (requestId : ℕ) {f : ApprovalRequest → ApprovalRequest}
    (keepsId : ∀ r, (f r).id = r.id) (rs : List ApprovalRequest) :
    (rs.map (onRequest requestId f)).map (·.id) = rs.map (·.id) := by
  rw [List.map_map]
  refine List.map_congr_left fun r _ => ?_
  simp only [Function.comp_apply, onRequest]
  split
  · exact keepsId r
  · rfl

theorem waiting_append (rs ss : List ApprovalRequest) :
    waiting (rs ++ ss) = waiting rs ++ waiting ss :=
  List.filter_append ..

theorem waiting_supersede (now : Timestamp) (rs : List ApprovalRequest) :
    waiting (rs.map (supersede now)) = [] := by
  refine List.filter_eq_nil_iff.mpr fun r mem => ?_
  obtain ⟨old, -, rfl⟩ := List.mem_map.mp mem
  simpa using supersede_status now old

theorem waiting_stageRequest (stage : ApprovalStage) (sequence requestId assessmentId : ℕ)
    (now : Timestamp) :
    waiting [stageRequest stage sequence requestId assessmentId now] =
      [stageRequest stage sequence requestId assessmentId now] := rfl

/-- Closing the only waiting row leaves none. -/
theorem waiting_close {rs : List ApprovalRequest} {req : ApprovalRequest}
    {close : ApprovalRequest → ApprovalRequest} (closes : ∀ r, (close r).status ≠ .pending)
    (only : waiting rs = [req]) : waiting (rs.map (onRequest req.id close)) = [] := by
  refine List.filter_eq_nil_iff.mpr fun r mem => ?_
  obtain ⟨old, memOld, rfl⟩ := List.mem_map.mp mem
  unfold onRequest
  split
  · simpa using closes old
  · next other =>
      -- a row that still waits would have been the only one
      simp only [decide_eq_true_eq]
      intro stillWaits
      have inWaiting : old ∈ waiting rs :=
        List.mem_filter.mpr ⟨memOld, decide_eq_true stillWaits⟩
      rw [only] at inWaiting
      exact other (congrArg (·.id) (List.mem_singleton.mp inWaiting))

/-- A remark on the only waiting row leaves it waiting. -/
theorem waiting_remark {rs : List ApprovalRequest} {req : ApprovalRequest}
    {note : ApprovalRequest → ApprovalRequest} (keepsStatus : ∀ r, (note r).status = r.status)
    (only : waiting rs = [req]) : waiting (rs.map (onRequest req.id note)) = [note req] := by
  have status : ∀ r, (onRequest req.id note r).status = r.status := by
    intro r
    unfold onRequest
    split
    · exact keepsStatus r
    · rfl
  have mapped : waiting (rs.map (onRequest req.id note)) =
      (waiting rs).map (onRequest req.id note) := by
    unfold waiting
    rw [List.filter_map]
    refine congrArg (List.map _) (List.filter_congr fun r _ => ?_)
    simp only [Function.comp_apply, status]
  rw [mapped, only]
  simp [onRequest]

/-! ## The operations keep the invariant -/

section Operations

variable {a : Approvals}

/-- The pending request a decision finds is the one the deal waits for. -/
theorem Chain.awaits (chain : Chain a) {req : ApprovalRequest} (mem : req ∈ a.requests)
    (waits : req.status = .pending) :
    a.pending = [req] ∧ a.approvalState = req.requiredLevel.pendingState ∧
      a.currentAssessmentId = some req.riskAssessmentId := by
  have memPending : req ∈ a.pending := List.mem_filter.mpr ⟨mem, decide_eq_true waits⟩
  rcases chain.phase with ⟨empty, -⟩ | ⟨r, only, state, current⟩
  · rw [empty] at memPending
    cases memPending
  · rw [only] at memPending
    obtain rfl := List.mem_singleton.mp memPending
    exact ⟨only, state, current⟩

/-- The parts of the invariant that a new assessment touches whatever the routing. -/
theorem Chain.settled_assessments (chain : Chain a) {s : RiskAssessment} (fresh : s.id = a.nextId) :
    ((a.settle s).assessments.map (·.id)).Nodup ∧
      (∀ t ∈ (a.settle s).assessments, t.id < a.nextId + 1) ∧
      (∀ assessmentId, (a.settle s).currentAssessmentId = some assessmentId →
        ∃ t ∈ (a.settle s).assessments, t.id = assessmentId) ∧
      ∀ t ∈ (a.settle s).assessments, (a.settle s).currentAssessmentId = some t.id →
        (a.settle s).requiredLevel = t.requiredLevel ∧
          (a.settle s).currentRiskScore = some t.riskScore := by
  have older : ∀ t ∈ a.assessments, t.id < s.id := fresh ▸ chain.assessmentIdsBelow
  refine ⟨ids_concat chain.assessmentIds older, below_concat older (by omega), ?_, ?_⟩
  · intro assessmentId current
    exact ⟨s, List.mem_append_right _ (List.mem_singleton_self _), Option.some.inj current⟩
  · intro t mem current
    have same : s.id = t.id := Option.some.inj current
    rcases List.mem_append.mp mem with old | new
    · exact absurd same.symm (older t old).ne
    · rw [List.mem_singleton.mp new]
      exact ⟨rfl, rfl⟩

theorem Chain.assess (chain : Chain a) {s : RiskAssessment} (fresh : s.id = a.nextId)
    (now : Timestamp) : Chain (a.assess s now) := by
  obtain ⟨assessmentIds, below, stored, carried⟩ := chain.settled_assessments fresh
  have supersededIds : ((a.requests.map (supersede now)).map (·.id)).Nodup := by
    rw [map_supersede_ids]
    exact chain.requestIds
  have supersededBelow : ∀ r ∈ a.requests.map (supersede now), r.id < a.nextId := by
    intro r mem
    obtain ⟨old, memOld, rfl⟩ := List.mem_map.mp mem
    rw [supersede_id]
    exact chain.requestIdsBelow old memOld
  unfold Approvals.assess
  split
  · next kept =>
      -- the approval stands: nothing was pending, and nothing is
      have settledBefore : a.pending = [] := by
        rcases chain.phase with ⟨empty, -⟩ | ⟨r, -, state, -⟩
        · exact empty
        · exact absurd (kept.2.symm.trans state) (approved_ne_pendingState _)
      refine ⟨chain.requestIds, ?_, assessmentIds, below, ?_, stored, carried, fun _ => ⟨s.id, rfl⟩⟩
      · intro r mem
        exact (chain.requestIdsBelow r mem).trans (Nat.lt_succ_self _)
      · refine .settled settledBefore fun stage => ?_
        exact kept.2 ▸ approved_ne_pendingState stage
  · split
    · refine ⟨supersededIds, ?_, assessmentIds, below, ?_, stored, carried, fun _ => ⟨s.id, rfl⟩⟩
      · intro r mem
        exact (supersededBelow r mem).trans (Nat.lt_succ_self _)
      · refine .settled (waiting_supersede now a.requests) fun stage => ?_
        cases stage <;> exact fun h => by cases h
    · have older : ∀ r ∈ a.requests.map (supersede now), r.id < a.nextId + 1 := fun r mem =>
        (supersededBelow r mem).trans (Nat.lt_succ_self _)
      refine ⟨ids_concat supersededIds older, below_concat older (Nat.lt_succ_self _),
        assessmentIds, ?_, ?_, stored, carried, fun _ => ⟨s.id, rfl⟩⟩
      · intro t mem
        exact (below t mem).trans (Nat.lt_succ_self _)
      · refine .awaiting (stageRequest .salesManager 1 (a.nextId + 1) s.id now) ?_ rfl rfl
        change waiting (a.requests.map (supersede now) ++ _) = _
        rw [waiting_append, waiting_supersede, waiting_stageRequest, List.nil_append]

/-- What a decision does to the ids of the requests. -/
theorem Chain.decided_ids (chain : Chain a) (req : ApprovalRequest)
    {f : ApprovalRequest → ApprovalRequest} (keepsId : ∀ r, (f r).id = r.id) :
    ((a.requests.map (onRequest req.id f)).map (·.id)).Nodup ∧
      ∀ r ∈ a.requests.map (onRequest req.id f), r.id < a.nextId := by
  have ids := map_onRequest_ids req.id keepsId a.requests
  refine ⟨ids ▸ chain.requestIds, fun r mem => ?_⟩
  have memId : r.id ∈ a.requests.map (·.id) := ids ▸ List.mem_map.mpr ⟨r, mem, rfl⟩
  obtain ⟨old, memOld, same⟩ := List.mem_map.mp memId
  exact same ▸ chain.requestIdsBelow old memOld

theorem Chain.approve (chain : Chain a) {req : ApprovalRequest} (mem : req ∈ a.requests)
    (waits : req.status = .pending) {close : ApprovalRequest → ApprovalRequest}
    (keepsId : ∀ r, (close r).id = r.id) (closes : ∀ r, (close r).status ≠ .pending)
    (now : Timestamp) : Chain (a.approve req close now) := by
  obtain ⟨only, -, current⟩ := chain.awaits mem waits
  obtain ⟨ids, below⟩ := chain.decided_ids req keepsId
  have closed := waiting_close closes only
  unfold Approvals.approve
  split
  · refine ⟨ids_concat ids below, below_concat below (Nat.lt_succ_self _), chain.assessmentIds,
      ?_, ?_, chain.currentStored, chain.currentCarried, fun _ => ⟨_, current⟩⟩
    · intro t memT
      exact (chain.assessmentIdsBelow t memT).trans (Nat.lt_succ_self _)
    · refine .awaiting (stageRequest .finance 2 a.nextId req.riskAssessmentId now) ?_ rfl current
      change waiting (a.requests.map (onRequest req.id close) ++ _) = _
      rw [waiting_append, closed, waiting_stageRequest, List.nil_append]
  · refine ⟨ids, below, chain.assessmentIds, chain.assessmentIdsBelow, ?_, chain.currentStored,
      chain.currentCarried, fun _ => ⟨_, current⟩⟩
    exact .settled closed approved_ne_pendingState

theorem Chain.decline (chain : Chain a) {req : ApprovalRequest} (mem : req ∈ a.requests)
    (waits : req.status = .pending) {close : ApprovalRequest → ApprovalRequest}
    (keepsId : ∀ r, (close r).id = r.id) (closes : ∀ r, (close r).status ≠ .pending)
    {state : ApprovalState} (ends : ∀ stage : ApprovalStage, state ≠ stage.pendingState) :
    Chain (a.decline req close state) := by
  obtain ⟨only, -, current⟩ := chain.awaits mem waits
  obtain ⟨ids, below⟩ := chain.decided_ids req keepsId
  exact ⟨ids, below, chain.assessmentIds, chain.assessmentIdsBelow,
    .settled (waiting_close closes only) ends, chain.currentStored, chain.currentCarried,
    fun _ => ⟨_, current⟩⟩

theorem Chain.remark (chain : Chain a) {req : ApprovalRequest} (mem : req ∈ a.requests)
    (waits : req.status = .pending) {note : ApprovalRequest → ApprovalRequest}
    (keepsId : ∀ r, (note r).id = r.id) (keepsStatus : ∀ r, (note r).status = r.status)
    (keepsStage : ∀ r, (note r).requiredLevel = r.requiredLevel)
    (keepsAssessment : ∀ r, (note r).riskAssessmentId = r.riskAssessmentId) :
    Chain (a.remark req note) := by
  obtain ⟨only, state, current⟩ := chain.awaits mem waits
  obtain ⟨ids, below⟩ := chain.decided_ids req keepsId
  refine ⟨ids, below, chain.assessmentIds, chain.assessmentIdsBelow, ?_, chain.currentStored,
    chain.currentCarried, fun _ => ⟨_, current⟩⟩
  refine .awaiting (note req) (waiting_remark keepsStatus only) ?_ ?_
  · rw [keepsStage]
    exact state
  · rw [keepsAssessment]
    exact current

/-- More ids may be given out elsewhere. -/
theorem Chain.skip (chain : Chain a) {n : ℕ} (later : a.nextId ≤ n) :
    Chain { a with nextId := n } := by
  have phase : InPhase { a with nextId := n } := by
    rcases chain.phase with ⟨empty, state⟩ | ⟨r, only, state, current⟩
    · exact .settled empty state
    · exact .awaiting r only state current
  exact
    { requestIds := chain.requestIds
      requestIdsBelow := fun r mem => (chain.requestIdsBelow r mem).trans_le later
      assessmentIds := chain.assessmentIds
      assessmentIdsBelow := fun s mem => (chain.assessmentIdsBelow s mem).trans_le later
      phase
      currentStored := chain.currentStored
      currentCarried := chain.currentCarried
      approvedCurrent := chain.approvedCurrent }

variable (a) in
theorem assess_order (s : RiskAssessment) (now : Timestamp) :
    (a.assess s now).odooSaleOrderId = a.odooSaleOrderId := by
  unfold Approvals.assess
  split
  · rfl
  · split <;> rfl

/-- A new assessment is the current one. -/
theorem Chain.assess_currentAssessment (chain : Chain a) {s : RiskAssessment}
    (fresh : s.id = a.nextId) (now : Timestamp) :
    (a.assess s now).assessments = a.assessments ++ [s] ∧
      (a.assess s now).currentAssessment = some s := by
  have settled : (a.settle s).currentAssessment = some s := by
    have older : (a.assessments.find? fun t => t.id = s.id) = none := by
      refine List.find?_eq_none.mpr fun t mem => ?_
      have below := chain.assessmentIdsBelow t mem
      simp only [decide_eq_true_eq]
      omega
    simp [Approvals.currentAssessment, Approvals.settle, List.find?_append, older]
  unfold Approvals.assess
  split
  · exact ⟨rfl, settled⟩
  · split
    · exact ⟨rfl, settled⟩
    · exact ⟨rfl, settled⟩

end Operations

end DealFlow
