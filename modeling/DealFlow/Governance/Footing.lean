import DealFlow.Governance.Refinement
import DealFlow.Services.PortalService

/-!
# What approval does not decide

Beside its approvals a deal has a footing: its status, whether its customer has accepted it, who
owns it and who it is for, the approval actions and the negotiations.  An evaluation leaves it
alone (`evaluateDeal_footing`).  A decision records its action, and the last approval of a deal that
its customer has accepted confirms it where the gateway does (`decideApprovalRequest_footing`).
-/

namespace DealFlow

structure Footing where
  status : DealStatus
  customerConfirmedPending : Bool
  ownerOdooUserId : ℤ
  odooPartnerId : ℤ
  actions : List ApprovalAction
  negotiations : List NegotiationRequest

def DealStore.footing (db : DealStore) : Footing :=
  { status := db.deal.status
    customerConfirmedPending := db.deal.customerConfirmedPending
    ownerOdooUserId := db.deal.ownerOdooUserId
    odooPartnerId := db.deal.odooPartnerId
    actions := db.actions
    negotiations := db.negotiations }

/-- A footing once the order is confirmed. -/
def Footing.confirm (f : Footing) : Footing :=
  { f with status := .confirmed, customerConfirmedPending := false }

@[simp] theorem recordAuditEvent_footing (db : DealStore) (event : AuditEvent) :
    (db.recordAuditEvent event).footing = db.footing := rfl

@[simp] theorem createNotification_footing (db : DealStore) (notification : Notification) :
    (db.createNotification notification).footing = db.footing := by
  unfold DealStore.createNotification
  split <;> rfl

/-! ## Evaluation -/

theorem evaluateDeal_footing {σ : Type} (gateway : OdooGateway σ) (args : EvaluateArgs)
    (w : World σ) : (evaluateDeal gateway args w).2.db.footing = w.db.footing := by
  have kept := congrArg DealStore.footing (evaluateDeal_unassessed gateway args w)
  exact kept

/-! ## Decision -/

/-- The row a decision adds. -/
def decisionEntry (req : ApprovalRequest) (actor : DealflowUser) (action : ApprovalActionType)
    (reason : Option String) (now : Timestamp) : ApprovalAction :=
  { approvalRequestId := req.id
    actorOdooUserId := actor.odooUserId
    actorRole := actor.role
    action
    reason
    createdAt := now }

/-- The decision is the last approval of a deal that its customer has accepted. -/
def AutoConfirms (db : DealStore) (req : ApprovalRequest) (action : ApprovalActionType) : Prop :=
  action = .approve ∧
    ¬ (db.deal.requiredLevel = .managerAndFinance ∧ req.requiredLevel = .salesManager) ∧
    db.deal.customerConfirmedPending = true

instance (db : DealStore) (req : ApprovalRequest) (action : ApprovalActionType) :
    Decidable (AutoConfirms db req action) :=
  inferInstanceAs (Decidable (_ ∧ _))

section Decision

variable {σ : Type} (gateway : OdooGateway σ)

/-- The Odoo side as the last approval leaves it before it confirms. -/
def unlockedOdoo (w : World σ) : σ :=
  (gateway.setGovernance w.db.deal.odooSaleOrderId ApprovalState.approved.value
    (w.db.deal.currentRiskScore.getD 0) false w.odoo).2

/-- What the gateway answers when the order is confirmed after the last approval. -/
def autoConfirmAnswer (w : World σ) : Except OdooError Unit × σ :=
  gateway.confirm w.db.deal.odooSaleOrderId (unlockedOdoo gateway w)

theorem autoConfirm_footing (now : Timestamp) (w : World σ) :
    (autoConfirm gateway now w).db.footing =
      if w.db.deal.customerConfirmedPending = true ∧
          (gateway.confirm w.db.deal.odooSaleOrderId w.odoo).1.isOk = true then
        w.db.footing.confirm
      else w.db.footing := by
  unfold autoConfirm
  by_cases accepted : w.db.deal.customerConfirmedPending = true
  · rw [if_pos accepted]
    rcases answered : gateway.confirm w.db.deal.odooSaleOrderId w.odoo with ⟨e | ok, odoo⟩
    · exact (if_neg fun confirmed => by cases confirmed.2).symm
    · exact (if_pos ⟨accepted, rfl⟩).symm
  · rw [if_neg accepted, if_neg fun confirmed => accepted confirmed.1]

/-- What a decision whose guards pass does to the footing. -/
theorem decideApprovalRequest_footing {w : World σ} {requestId : ℕ} {actor : DealflowUser}
    {req : ApprovalRequest} (guarded : guardDecision w.db requestId actor = .ok req)
    (action : ApprovalActionType) (reason : Option String) (now : Timestamp) :
    (decideApprovalRequest gateway requestId actor action reason now w).2.db.footing =
      if AutoConfirms w.db req action ∧ (autoConfirmAnswer gateway w).1.isOk = true then
        { w.db.footing.confirm with
          actions := w.db.actions ++ [decisionEntry req actor action reason now] }
      else
        { w.db.footing with
          actions := w.db.actions ++ [decisionEntry req actor action reason now] } := by
  have other : action ≠ .approve → ¬ (AutoConfirms w.db req action ∧
      (autoConfirmAnswer gateway w).1.isOk = true) := fun kind confirms => kind confirms.1.1
  unfold decideApprovalRequest
  rw [guarded]
  cases action with
  | approve =>
      dsimp only
      unfold approveRequest
      dsimp only
      split
      · next twoStage => exact (if_neg fun confirms => confirms.1.2.1 twoStage).symm
      · next lastStage =>
          unfold finalApproval
          dsimp only
          rw [createNotification_footing, autoConfirm_footing]
          by_cases confirms : w.db.deal.customerConfirmedPending = true ∧
              (autoConfirmAnswer gateway w).1.isOk = true
          · refine Eq.trans (if_pos confirms) (if_pos ?_).symm
            exact ⟨⟨rfl, lastStage, confirms.1⟩, confirms.2⟩
          · refine Eq.trans (if_neg confirms) (if_neg fun all => confirms ?_).symm
            exact ⟨all.1.2.2, all.2⟩
  | reject =>
      rw [if_neg (other (by decide))]
      exact createNotification_footing ..
  | «return» =>
      rw [if_neg (other (by decide))]
      exact createNotification_footing ..
  | escalate =>
      rw [if_neg (other (by decide))]
      exact createNotification_footing ..
  | invalidate =>
      rw [if_neg (other (by decide))]
      rfl

end Decision

end DealFlow
