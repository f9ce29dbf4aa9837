import DealFlow.Governance.Authority
import DealFlow.Governance.Refinement
import DealFlow.Lib.Run
import DealFlow.Odoo.Fake

/-!
# Runs of governance

A governance run evaluates the deal and decides its approval requests, any number of times, in any
order and by anyone, while the order changes on the Odoo side as it likes.  The gateway is any
gateway.

* `approvalChain_run`: at most one request is pending, the approval state says which stage it is in,
  and it is for the current assessment.
* `twoStageAuthority_run`: an approved deal is within its approved assessment, and the run holds a
  decision for every stage that assessment requires.

Both follow from the invariants of the chain, carried along the run by what one operation does to
it (`governanceStep_cases`).
-/

namespace DealFlow

open Lib

/-- One operation of a governance run.  `onOdoo` is whatever happens to the order outside. -/
inductive GovernanceOp (σ : Type)
  | evaluate (args : EvaluateArgs)
  | decide (requestId : ℕ) (actor : DealflowUser) (action : ApprovalActionType)
      (reason : Option String) (now : Timestamp)
  | onOdoo (change : σ → σ)

/-- A call that raises is rolled back by the service itself, so its world is the one to go on
from. -/
def GovernanceOp.apply {σ : Type} (gateway : OdooGateway σ) : GovernanceOp σ → World σ → World σ
  | .evaluate args, w => (evaluateDeal gateway args w).2
  | .decide requestId actor action reason now, w =>
      (decideApprovalRequest gateway requestId actor action reason now w).2
  | .onOdoo change, w => { w with odoo := change w.odoo }

/-- A deal as its creation leaves it: nothing evaluated, nothing requested. -/
structure FreshDeal (db : DealStore) : Prop where
  assessments : db.assessments = []
  requests : db.requests = []
  actions : db.actions = []
  approvalState : db.deal.approvalState = .notEvaluated
  requiredLevel : db.deal.requiredLevel = .none
  currentRiskScore : db.deal.currentRiskScore = none
  currentAssessmentId : db.deal.currentAssessmentId = none
  approvedAssessmentId : db.deal.approvedAssessmentId = none

/-- The step approves a stage of an assessment: the call went through, on the request of that stage,
by an actor with the role of the stage or the admin's, who does not own the deal. -/
def ApprovesStage {σ : Type} (gateway : OdooGateway σ) (stage : ApprovalStage) (assessmentId : ℕ)
    (t : World σ × GovernanceOp σ) : Prop :=
  ∃ requestId actor reason now req,
    t.2 = .decide requestId actor .approve reason now ∧
      (decideApprovalRequest gateway requestId actor .approve reason now t.1).1 = .ok () ∧
      t.1.db.findRequest requestId = some req ∧ req.requiredLevel = stage ∧
      req.riskAssessmentId = assessmentId ∧
      (actor.role = stage.role ∨ actor.role = .admin) ∧
      t.1.db.deal.ownerOdooUserId ≠ actor.odooUserId

/-! ## One step -/

section Step

variable {σ : Type} {gateway : OdooGateway σ}

variable (gateway) in
/-- An operation leaves the chain alone, assesses, or decides a pending request. -/
theorem governanceStep_cases (op : GovernanceOp σ) (w : World σ) :
    (op.apply gateway w).db.approvals = w.db.approvals ∨
    (∃ s now, s.id = w.db.approvals.nextId ∧
      (op.apply gateway w).db.approvals = w.db.approvals.assess s now) ∨
    ∃ requestId actor action reason now req,
      op = .decide requestId actor action reason now ∧
        (decideApprovalRequest gateway requestId actor action reason now w).1 = .ok () ∧
        guardDecision w.db requestId actor = .ok req ∧
        (op.apply gateway w).db.approvals =
          decided w.db.approvals req actor action reason now := by
  cases op with
  | evaluate args =>
      rcases evaluateDeal_cases gateway args w with
        ⟨e, -, unchanged⟩ | ⟨ctx, response, -, -, assessed⟩
      · exact .inl (congrArg DealStore.approvals unchanged)
      · exact .inr (.inl ⟨_, args.now, rfl, assessed⟩)
  | decide requestId actor action reason now =>
      rcases decideApprovalRequest_cases gateway requestId actor action reason now w with
        ⟨e, raised⟩ | ⟨req, guarded, ok, outcome⟩
      · left
        simp only [GovernanceOp.apply, raised]
      · exact .inr (.inr
          ⟨requestId, actor, action, reason, now, req, rfl, ok, guarded, outcome⟩)
  | onOdoo change => exact .inl rfl

theorem closeRequest_id (status : ApprovalRequestStatus) (actor : DealflowUser)
    (reason : Option String) (now : Timestamp) (r : ApprovalRequest) :
    (closeRequest status actor reason now r).id = r.id := rfl

theorem closeRequest_status {status : ApprovalRequestStatus} (closed : status ≠ .pending)
    (actor : DealflowUser) (reason : Option String) (now : Timestamp) (r : ApprovalRequest) :
    (closeRequest status actor reason now r).status ≠ .pending := closed

theorem Chain.decided {a : Approvals} (chain : Chain a) {req : ApprovalRequest}
    (mem : req ∈ a.requests) (waits : req.status = .pending) (actor : DealflowUser)
    (action : ApprovalActionType) (reason : Option String) (now : Timestamp) :
    Chain (decided a req actor action reason now) := by
  cases action with
  | approve =>
      exact chain.approve mem waits (closeRequest_id .approved actor reason now)
        (closeRequest_status (by decide) actor reason now) now
  | reject =>
      refine chain.decline mem waits (closeRequest_id .rejected actor reason now)
        (closeRequest_status (by decide) actor reason now) fun stage => ?_
      cases stage <;> decide
  | «return» =>
      refine chain.decline mem waits (closeRequest_id .returned actor reason now)
        (closeRequest_status (by decide) actor reason now) fun stage => ?_
      cases stage <;> decide
  | escalate =>
      exact chain.remark mem waits (fun _ => rfl) (fun _ => rfl) (fun _ => rfl) fun _ => rfl
  | invalidate => exact chain

/-- What holds of authority whatever has been granted. -/
theorem Authority.decided_any {a : Approvals} (authority : Authority (fun _ _ => True) a)
    (chain : Chain a) {req : ApprovalRequest} (mem : req ∈ a.requests)
    (waits : req.status = .pending) (actor : DealflowUser) (action : ApprovalActionType)
    (reason : Option String) (now : Timestamp) :
    Authority (fun _ _ => True) (decided a req actor action reason now) := by
  cases action with
  | approve =>
      exact authority.approve chain mem waits (closeRequest_status (by decide) actor reason now) now
        (fun _ _ granted => granted) trivial
  | reject =>
      exact Authority.decline chain mem waits (closeRequest_status (by decide) actor reason now)
        (by decide)
  | «return» =>
      exact Authority.decline chain mem waits (closeRequest_status (by decide) actor reason now)
        (by decide)
  | escalate =>
      exact authority.remark chain mem waits (fun _ => rfl) (fun _ => rfl) fun _ => rfl
  | invalidate => exact authority

theorem Chain.step {w : World σ} (chain : Chain w.db.approvals) (op : GovernanceOp σ) :
    Chain (op.apply gateway w).db.approvals := by
  rcases governanceStep_cases gateway op w with
    unchanged | ⟨s, now, fresh, assessed⟩ |
      ⟨requestId, actor, action, reason, now, req, -, -, guarded, outcome⟩
  · rw [unchanged]
    exact chain
  · rw [assessed]
    exact chain.assess fresh now
  · rw [outcome]
    obtain ⟨found, waits, -, -⟩ := guardDecision_ok guarded
    exact chain.decided (List.mem_of_find?_eq_some found) waits actor action reason now

theorem FreshDeal.chain {db : DealStore} (fresh : FreshDeal db) : Chain db.approvals := by
  have none : db.approvals.requests = [] := fresh.requests
  have unassessed : db.approvals.assessments = [] := fresh.assessments
  refine ⟨?_, ?_, ?_, ?_, .settled ?_ fun stage => ?_, ?_, ?_, fun approved => ?_⟩
  · simp [none]
  · simp [none]
  · simp [unassessed]
  · simp [unassessed]
  · simp [Approvals.pending, waiting, none]
  · have state : db.approvals.approvalState = .notEvaluated := fresh.approvalState
    rw [state]
    cases stage <;> decide
  · intro assessmentId current
    cases fresh.currentAssessmentId.symm.trans current
  · simp [unassessed]
  · cases fresh.approvalState.symm.trans approved

/-! ## The approval chain along a run -/

/-- Where the pending requests of a deal stand. -/
structure PendingConsistent (db : DealStore) : Prop where
  atMostOne : db.pendingRequests.length ≤ 1
  manager : db.deal.approvalState = .pendingManager ↔
    ∃ r, db.pendingRequests = [r] ∧ r.requiredLevel = .salesManager
  finance : db.deal.approvalState = .pendingFinance ↔
    ∃ r, db.pendingRequests = [r] ∧ r.requiredLevel = .finance
  otherwise : db.deal.approvalState ≠ .pendingManager → db.deal.approvalState ≠ .pendingFinance →
    db.pendingRequests = []
  current : ∀ r ∈ db.pendingRequests, db.deal.currentAssessmentId = some r.riskAssessmentId

/-- In a phase, the approval state is the one of a stage exactly when a request of that stage is
pending. -/
theorem InPhase.state_iff {a : Approvals} (phase : InPhase a) (stage : ApprovalStage) :
    a.approvalState = stage.pendingState ↔ ∃ r, a.pending = [r] ∧ r.requiredLevel = stage := by
  rcases phase with ⟨empty, state⟩ | ⟨r, only, state, -⟩
  · refine ⟨fun here => absurd here (state stage), ?_⟩
    rintro ⟨r, only, -⟩
    cases empty.symm.trans only
  · rw [state]
    refine ⟨fun same => ⟨r, only, pendingState_injective same⟩, ?_⟩
    rintro ⟨r', only', rfl⟩
    obtain rfl : r = r' := List.singleton_inj.mp (only.symm.trans only')
    rfl

theorem Chain.pendingConsistent {db : DealStore} (chain : Chain db.approvals) :
    PendingConsistent db := by
  have manager := chain.phase.state_iff .salesManager
  have finance := chain.phase.state_iff .finance
  rcases chain.phase with ⟨empty, -⟩ | ⟨r, only, state, current⟩
  · have none : db.pendingRequests = [] := empty
    refine ⟨?_, manager, finance, fun _ _ => none, ?_⟩
    · rw [none]
      exact Nat.zero_le 1
    · rw [none]
      intro r mem
      cases mem
  · have one : db.pendingRequests = [r] := only
    refine ⟨?_, manager, finance, fun notManager notFinance => ?_, ?_⟩
    · rw [one]
      exact le_rfl
    · cases stage : r.requiredLevel with
      | salesManager =>
          rw [stage] at state
          exact absurd state notManager
      | finance =>
          rw [stage] at state
          exact absurd state notFinance
    · rw [one]
      intro r' mem
      rw [List.mem_singleton.mp mem]
      exact current

/-- In every state a governance run reaches, what is pending is consistent. -/
theorem approvalChain_run {w : World σ} (fresh : FreshDeal w.db) (ops : List (GovernanceOp σ)) :
    PendingConsistent (run (GovernanceOp.apply gateway) ops w).db := by
  have kept := run_invariant (GovernanceOp.apply gateway) (fun w => Chain w.db.approvals)
    fresh.chain (fun _ op chain => chain.step op) ops
  exact kept.2.pendingConsistent

/-- One customer tier with a ceiling of 15 %. -/
def goldTables : PolicyTables :=
  { customerTiers := [{ code := "GOLD", defaultMaxDiscountPct := 15 }]
    tierAssignments := [{ odooPartnerId := 1, tierCode := "GOLD" }] }

/-- An order for one service at 25 % discount, in a catalogue of that service. -/
def serviceOdoo : FakeOdoo :=
  { products := AList.insert 107
      { name := "Setup Service", categoryId := 2, type := "SERVICE"
        standardPrice := 80000, listPrice := 100000 } ∅
    stock := ∅
    orders := AList.insert 101
      { header :=
          { id := 101, name := "SO00101", partnerId := 1, partnerName := "Acme Corp"
            state := "draft", currency := "INR", userId := 4, teamId := some 1, companyId := 1 }
        lines :=
          [{ id := 1001, productId := 107, qty := 1, priceUnit := 100000, discountPct := 25
             taxRatePct := 18 }] } ∅
    lineSeq := 1001 }

/-- The fresh deal of that order. -/
def serviceWorld : World FakeOdoo :=
  { db :=
      { deal :=
          { id := 1, reference := "DF-00001", odooSaleOrderId := 101, odooOrderName := "SO00101"
            odooPartnerId := 1, partnerNameCache := "Acme Corp", ownerOdooUserId := 4 }
        nextId := 2 }
    odoo := serviceOdoo }

theorem serviceWorld_fresh : FreshDeal serviceWorld.db := by
  constructor <;> rfl

def salesManager : DealflowUser := { odooUserId := 2, role := .salesManager }

def financeOfficer : DealflowUser := { odooUserId := 6, role := .finance }

/-- The deal is evaluated and goes through both stages. -/
def serviceApproval : List (GovernanceOp FakeOdoo) :=
  [.evaluate { tables := goldTables, now := 1 },
    .decide 3 salesManager .approve none 2,
    .decide 4 financeOfficer .approve none 3]

theorem serviceApproval_chain :
    FreshDeal serviceWorld.db ∧
      PendingConsistent
        (run (GovernanceOp.apply fakeOdooGateway) (serviceApproval.take 2) serviceWorld).db :=
  ⟨serviceWorld_fresh, approvalChain_run serviceWorld_fresh (serviceApproval.take 2)⟩

/-! ## Two-stage authority along a run -/

/-- The grants a history holds. -/
def grantedIn (gateway : OdooGateway σ) (past : List (World σ × GovernanceOp σ)) : Grants :=
  fun stage assessmentId => ∃ t ∈ past, ApprovesStage gateway stage assessmentId t

theorem grantedIn_concat (past : List (World σ × GovernanceOp σ))
    (t : World σ × GovernanceOp σ) (stage : ApprovalStage) (assessmentId : ℕ)
    (before : grantedIn gateway past stage assessmentId) :
    grantedIn gateway (past ++ [t]) stage assessmentId := by
  rcases before with ⟨earlier, mem, approves⟩
  exact ⟨earlier, List.mem_append_left _ mem, approves⟩

theorem Authority.step {past : List (World σ × GovernanceOp σ)} {w : World σ}
    (authority : Authority (grantedIn gateway past) w.db.approvals) (chain : Chain w.db.approvals)
    (op : GovernanceOp σ) :
    Authority (grantedIn gateway (past ++ [(w, op)])) (op.apply gateway w).db.approvals := by
  have before := authority.mono (grantedIn_concat past (w, op))
  rcases governanceStep_cases gateway op w with
    unchanged | ⟨s, now, -, assessed⟩ |
      ⟨requestId, actor, action, reason, now, req, rfl, ok, guarded, outcome⟩
  · rw [unchanged]
    exact before
  · rw [assessed]
    exact before.assess s now
  · rw [outcome]
    obtain ⟨found, waits, notOwner, role⟩ := guardDecision_ok guarded
    have mem := List.mem_of_find?_eq_some found
    cases action with
    | approve =>
        refine authority.approve chain mem waits
          (closeRequest_status (by decide) actor reason now) now (grantedIn_concat past _) ?_
        exact ⟨_, List.mem_append_right _ (List.mem_singleton_self _), requestId, actor, reason,
          now, req, rfl, ok, found, rfl, rfl, role, notOwner⟩
    | reject =>
        exact Authority.decline chain mem waits (closeRequest_status (by decide) actor reason now)
          (by decide)
    | «return» =>
        exact Authority.decline chain mem waits (closeRequest_status (by decide) actor reason now)
          (by decide)
    | escalate =>
        exact before.remark chain mem waits (fun _ => rfl) (fun _ => rfl) fun _ => rfl
    | invalidate => exact before

theorem FreshDeal.authority {db : DealStore} (fresh : FreshDeal db) (granted : Grants) :
    Authority granted db.approvals := by
  refine ⟨fun r mem => ?_, fun approved => ?_⟩
  · have none : db.approvals.requests = [] := fresh.requests
    simp [Approvals.pending, waiting, none] at mem
  · cases fresh.approvalState.symm.trans approved

/-- An approved deal is within the assessment that was approved, and the run holds the decisions
that approved it: the sales manager's, and finance's where the assessment requires both. -/
theorem twoStageAuthority_run {w : World σ} (fresh : FreshDeal w.db) (ops : List (GovernanceOp σ))
    (approved : (run (GovernanceOp.apply gateway) ops w).db.deal.approvalState = .approved) :
    ∃ s, (run (GovernanceOp.apply gateway) ops w).db.approvedAssessment = some s ∧
      (∃ score, (run (GovernanceOp.apply gateway) ops w).db.deal.currentRiskScore = some score ∧
        score ≤ s.riskScore) ∧
      levelPriority (run (GovernanceOp.apply gateway) ops w).db.deal.requiredLevel ≤
        levelPriority s.requiredLevel ∧
      (∃ t ∈ history (GovernanceOp.apply gateway) ops w,
        ApprovesStage gateway .salesManager s.id t) ∧
      (s.requiredLevel = .managerAndFinance →
        ∃ t ∈ history (GovernanceOp.apply gateway) ops w,
          ApprovesStage gateway .finance s.id t) := by
  obtain ⟨-, authority⟩ := run_induction
    (motive := fun past (now : World σ) =>
      Chain now.db.approvals ∧ Authority (grantedIn gateway past) now.db.approvals)
    ⟨fresh.chain, fresh.authority _⟩
    (fun past now op ⟨chain, authority⟩ => ⟨chain.step op, authority.step chain op⟩) ops
  obtain ⟨s, found, within, manager, finance⟩ := authority.approved approved
  exact ⟨s, found, within.score, within.level, manager, finance⟩

theorem serviceApproval_authority :
    (run (GovernanceOp.apply fakeOdooGateway) serviceApproval serviceWorld).db.deal.approvalState =
        .approved ∧
      ∃ s,
        (run (GovernanceOp.apply fakeOdooGateway) serviceApproval
            serviceWorld).db.approvedAssessment = some s ∧
        (s.requiredLevel = .managerAndFinance →
          ∃ t ∈ history (GovernanceOp.apply fakeOdooGateway) serviceApproval serviceWorld,
            ApprovesStage fakeOdooGateway .finance s.id t) := by
  have approved : (run (GovernanceOp.apply fakeOdooGateway) serviceApproval
      serviceWorld).db.deal.approvalState = .approved := by decide +kernel
  obtain ⟨s, found, -, -, -, finance⟩ :=
    twoStageAuthority_run serviceWorld_fresh serviceApproval approved
  exact ⟨approved, s, found, finance⟩

end Step

end DealFlow
