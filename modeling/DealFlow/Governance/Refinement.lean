import DealFlow.Governance.Chain
import DealFlow.Guardian.Evaluator
import DealFlow.Services.ApprovalService

/-!
# The services refine the approval chain

`DealStore.approvals` forgets what the approval chain does not depend on.  Audit events,
notifications and confirmations do not show in it, so an evaluation that completes is one `assess`
of the chain (`evaluateDeal_cases`), and a decision whose guards pass is one `approve`, `decline` or
`remark` (`decideApprovalRequest_cases`), whatever the gateway answers.
-/

namespace DealFlow

def DealStore.approvals (db : DealStore) : Approvals :=
  { odooSaleOrderId := db.deal.odooSaleOrderId
    assessments := db.assessments
    requests := db.requests
    nextId := db.nextId
    approvalState := db.deal.approvalState
    requiredLevel := db.deal.requiredLevel
    currentRiskScore := db.deal.currentRiskScore
    currentAssessmentId := db.deal.currentAssessmentId
    approvedAssessmentId := db.deal.approvedAssessmentId }

/-! ## What does not show -/

@[simp] theorem recordAuditEvent_approvals (db : DealStore) (event : AuditEvent) :
    (db.recordAuditEvent event).approvals = db.approvals := rfl

@[simp] theorem createNotification_approvals (db : DealStore) (notification : Notification) :
    (db.createNotification notification).approvals = db.approvals := by
  unfold DealStore.createNotification
  split <;> rfl

@[simp] theorem autoConfirm_approvals {σ : Type} (gateway : OdooGateway σ) (now : Timestamp)
    (w : World σ) : (autoConfirm gateway now w).db.approvals = w.db.approvals := by
  unfold autoConfirm
  split
  · split <;> rfl
  · rfl

/-! ## Evaluation -/

theorem invalidatePending_approvals (db : DealStore) (now : Timestamp) :
    (invalidatePending db now).approvals =
      { db.approvals with requests := db.requests.map (supersede now) } := by
  unfold invalidatePending
  rw [DealStore.foldl_recordAuditEvent]
  rfl

theorem openManagerStage_approvals (db : DealStore) (riskAssessmentId : ℕ) (now : Timestamp) :
    (openManagerStage db riskAssessmentId now).approvals =
      { db.approvals with
        requests := db.approvals.requests ++
          [stageRequest .salesManager 1 db.approvals.nextId riskAssessmentId now]
        nextId := db.approvals.nextId + 1
        approvalState := .pendingManager } := rfl

theorem isCovered_eq (db : DealStore) (args : EvaluateArgs) (ctx : DealContext)
    (calcRes : RiskCalculationResult) :
    isCovered db calcRes = db.approvals.covers (newAssessment db.nextId ctx calcRes args) := rfl

/-- Assessment, routing and the update of the deal are one step of the chain. -/
theorem settleEvaluation_approvals (db : DealStore) (args : EvaluateArgs) (ctx : DealContext) :
    (settleEvaluation db args ctx).approvals =
      db.approvals.assess (newAssessment db.nextId ctx (assessRisk db args.tables ctx) args)
        args.now := by
  set calcRes := assessRisk db args.tables ctx with calcDef
  set assessment := newAssessment db.nextId ctx calcRes args with assessmentDef
  have updated : ∀ routed : DealStore,
      (routed.updateDeal fun d =>
        { d with
          currentRiskScore := some calcRes.riskScore
          currentSeverity := some calcRes.severity
          requiredLevel := calcRes.requiredLevel
          currentAssessmentId := some assessment.id
          lastActivityAt := args.now }).approvals =
        { routed.approvals with
          requiredLevel := assessment.requiredLevel
          currentRiskScore := some assessment.riskScore
          currentAssessmentId := some assessment.id } := fun _ => rfl
  unfold settleEvaluation
  dsimp only
  rw [← calcDef, ← assessmentDef, updated]
  unfold applyApprovalRouting Approvals.assess
  rw [isCovered_eq db args ctx calcRes, ← assessmentDef]
  have state : (persistAssessment db assessment calcRes.factors).deal.approvalState =
      db.approvals.approvalState := rfl
  rw [state]
  by_cases kept : db.approvals.covers assessment = true ∧ db.approvals.approvalState = .approved
  · rw [if_pos kept, if_pos kept]
    rfl
  · have level : calcRes.requiredLevel = assessment.requiredLevel := rfl
    rw [if_neg kept, if_neg kept, level]
    cases required : assessment.requiredLevel with
    | none =>
        have routed : ∀ db' : DealStore, ((invalidatePending db' args.now).updateDeal fun d =>
            { d with approvalState := .evaluatedNoApproval }).approvals =
            { (invalidatePending db' args.now).approvals with
              approvalState := .evaluatedNoApproval } := fun _ => rfl
        dsimp only
        rw [routed, invalidatePending_approvals, if_pos rfl]
        simp only [Approvals.settle, required]
        rfl
    | manager =>
        dsimp only
        rw [openManagerStage_approvals, invalidatePending_approvals, if_neg (by decide)]
        simp only [Approvals.settle, required]
        rfl
    | managerAndFinance =>
        dsimp only
        rw [openManagerStage_approvals, invalidatePending_approvals, if_neg (by decide)]
        simp only [Approvals.settle, required]
        rfl

/-- An evaluation raises and leaves the store alone, or it completes as one step of the chain on
the context it read. -/
theorem evaluateDeal_cases {σ : Type} (gateway : OdooGateway σ) (args : EvaluateArgs)
    (w : World σ) :
    (∃ e, (evaluateDeal gateway args w).1 = .error e ∧
      (evaluateDeal gateway args w).2.db = w.db) ∨
    ∃ ctx response,
      (buildDealContext gateway args.tables w.db.deal.odooSaleOrderId w.odoo).1 = .ok ctx ∧
      (evaluateDeal gateway args w).1 = .ok response ∧
      (evaluateDeal gateway args w).2.db.approvals =
        w.db.approvals.assess
          (newAssessment w.db.nextId ctx (assessRisk w.db args.tables ctx) args) args.now := by
  unfold evaluateDeal
  cases built : buildDealContext gateway args.tables w.db.deal.odooSaleOrderId w.odoo with
  | mk result odoo =>
      cases result with
      | error e => exact .inl ⟨e, rfl, rfl⟩
      | ok ctx =>
          refine .inr ⟨ctx, _, rfl, rfl, ?_⟩
          exact settleEvaluation_approvals w.db args ctx

/-! ## Decision -/

/-- The role that decides a stage, besides the admin. -/
def ApprovalStage.role : ApprovalStage → Role
  | .salesManager => .salesManager
  | .finance => .finance

theorem roleGuard_ok {req : ApprovalRequest} {actor : DealflowUser}
    (passed : roleGuard req actor = .ok ()) :
    actor.role = req.requiredLevel.role ∨ actor.role = .admin := by
  unfold roleGuard at passed
  split at passed
  · next admin => exact .inr admin
  · left
    split at passed
    · next stage =>
        rw [stage]
        split at passed
        · next role => exact role
        · cases passed
    · next stage =>
        rw [stage]
        split at passed
        · next role => exact role
        · cases passed

/-- What the guards of a decision establish. -/
theorem guardDecision_ok {db : DealStore} {requestId : ℕ} {actor : DealflowUser}
    {req : ApprovalRequest} (passed : guardDecision db requestId actor = .ok req) :
    db.findRequest requestId = some req ∧ req.status = .pending ∧
      db.deal.ownerOdooUserId ≠ actor.odooUserId ∧
      (actor.role = req.requiredLevel.role ∨ actor.role = .admin) := by
  unfold guardDecision at passed
  cases found : db.findRequest requestId with
  | none =>
      rw [found] at passed
      cases passed
  | some r =>
      rw [found] at passed
      dsimp only at passed
      split at passed
      · cases passed
      · next pending =>
          split at passed
          · cases passed
          · next notOwner =>
              cases role : roleGuard r actor with
              | error e =>
                  rw [role] at passed
                  cases passed
              | ok u =>
                  rw [role] at passed
                  cases passed
                  exact ⟨rfl, not_not.mp pending, notOwner, roleGuard_ok role⟩

theorem approveRequest_approvals {σ : Type} (gateway : OdooGateway σ) (req : ApprovalRequest)
    (actor : DealflowUser) (reason : Option String) (now : Timestamp) (w : World σ) :
    (approveRequest gateway req actor reason now w).db.approvals =
      w.db.approvals.approve req (closeRequest .approved actor reason now) now := by
  by_cases twoStage :
      w.db.approvals.requiredLevel = .managerAndFinance ∧ req.requiredLevel = .salesManager
  · rw [Approvals.approve, if_pos twoStage]
    exact congrArg (fun w' : World σ => w'.db.approvals) (if_pos twoStage)
  · rw [Approvals.approve, if_neg twoStage]
    refine Eq.trans (congrArg (fun w' : World σ => w'.db.approvals) (if_neg twoStage)) ?_
    simp only [finalApproval, createNotification_approvals, autoConfirm_approvals]
    rfl

theorem declineRequest_approvals {σ : Type} (gateway : OdooGateway σ)
    (status : ApprovalRequestStatus) (state : ApprovalState) (locked : Bool)
    (event : AuditEventType) (notification : Deal → Notification) (req : ApprovalRequest)
    (actor : DealflowUser) (reason : Option String) (now : Timestamp) (w : World σ) :
    (declineRequest gateway status state locked event notification req actor reason now
      w).db.approvals =
      w.db.approvals.decline req (closeRequest status actor reason now) state := by
  simp only [declineRequest, createNotification_approvals, recordAuditEvent_approvals]
  rfl

/-- What a decision whose guards passed does to the chain. -/
def decided (a : Approvals) (req : ApprovalRequest) (actor : DealflowUser)
    (action : ApprovalActionType) (reason : Option String) (now : Timestamp) : Approvals :=
  match action with
  | .approve => a.approve req (closeRequest .approved actor reason now) now
  | .reject => a.decline req (closeRequest .rejected actor reason now) .rejected
  | .return => a.decline req (closeRequest .returned actor reason now) .returned
  | .escalate => a.remark req fun r => { r with decisionReason := reason }
  | .invalidate => a

/-- A decision whose guards raise changes nothing. -/
theorem decideApprovalRequest_refused {σ : Type} (gateway : OdooGateway σ) {requestId : ℕ}
    {actor : DealflowUser} {w : World σ} {e : DealFlowException}
    (refused : guardDecision w.db requestId actor = .error e) (action : ApprovalActionType)
    (reason : Option String) (now : Timestamp) :
    decideApprovalRequest gateway requestId actor action reason now w = (.error e, w) := by
  unfold decideApprovalRequest
  rw [refused]

/-- A decision raises and changes nothing, or its guards pass and it is one step of the chain. -/
theorem decideApprovalRequest_cases {σ : Type} (gateway : OdooGateway σ) (requestId : ℕ)
    (actor : DealflowUser) (action : ApprovalActionType) (reason : Option String)
    (now : Timestamp) (w : World σ) :
    (∃ e, decideApprovalRequest gateway requestId actor action reason now w = (.error e, w)) ∨
    ∃ req, guardDecision w.db requestId actor = .ok req ∧
      (decideApprovalRequest gateway requestId actor action reason now w).1 = .ok () ∧
      (decideApprovalRequest gateway requestId actor action reason now w).2.db.approvals =
        decided w.db.approvals req actor action reason now := by
  cases guarded : guardDecision w.db requestId actor with
  | error e => exact .inl ⟨e, decideApprovalRequest_refused gateway guarded action reason now⟩
  | ok req =>
      refine .inr ⟨req, rfl, ?_⟩
      unfold decideApprovalRequest
      rw [guarded]
      cases action with
      | approve => exact ⟨rfl, approveRequest_approvals ..⟩
      | reject => exact ⟨rfl, declineRequest_approvals ..⟩
      | «return» => exact ⟨rfl, declineRequest_approvals ..⟩
      | escalate => exact ⟨rfl, by simp only [escalateRequest, createNotification_approvals]; rfl⟩
      | invalidate => exact ⟨rfl, rfl⟩

/-- A decision leaves order, assessments and the current assessment alone. -/
theorem decided_frame (a : Approvals) (req : ApprovalRequest) (actor : DealflowUser)
    (action : ApprovalActionType) (reason : Option String) (now : Timestamp) :
    (decided a req actor action reason now).odooSaleOrderId = a.odooSaleOrderId ∧
      (decided a req actor action reason now).assessments = a.assessments ∧
      (decided a req actor action reason now).currentAssessmentId = a.currentAssessmentId := by
  cases action with
  | approve =>
      unfold decided Approvals.approve
      dsimp only
      split <;> exact ⟨rfl, rfl, rfl⟩
  | reject | «return» | escalate | invalidate => exact ⟨rfl, rfl, rfl⟩

end DealFlow
