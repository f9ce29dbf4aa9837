import DealFlow.Governance.Refinement

/-!
# What governance does to the Odoo side

Reading an order changes nothing that its two reads leave alone, and an evaluation nothing besides
that its `set_governance` call does.  A decision tells Odoo of the state it brings and, with the
last approval, may confirm the order (`decideApprovalRequest_odoo`).  So a view of the Odoo side
that these calls keep is kept by the whole operation.
-/

namespace DealFlow

/-- The reads of an evaluation leave alone what `f` shows. -/
structure ReadsKeep {σ β : Type} (gateway : OdooGateway σ) (f : σ → β) : Prop where
  getSaleOrder : ∀ orderId, Keeps f (gateway.getSaleOrder orderId)
  getAvailability : ∀ productIds, Keeps f (gateway.getAvailability productIds)

section Frame

variable {σ β : Type} {gateway : OdooGateway σ} {f : σ → β}

theorem buildDealContext_keeps (reads : ReadsKeep gateway f) (tables : PolicyTables) (orderId : ℤ)
    (odoo : σ) : f (buildDealContext gateway tables orderId odoo).2 = f odoo := by
  have order := reads.getSaleOrder orderId odoo
  unfold buildDealContext
  split
  · next e odoo' raised =>
      rw [raised] at order
      exact order
  · next raw odoo' found =>
      rw [found] at order
      have stock := reads.getAvailability (raw.lines.map (·.productId)) odoo'
      dsimp only
      split
      · exact order
      · split
        · next stocked =>
            rw [stocked] at stock
            exact stock.trans order
        · next unread =>
            rw [unread] at stock
            exact stock.trans order

theorem evaluateDeal_raises {args : EvaluateArgs} {w : World σ} {e : DealFlowException} {odoo : σ}
    (built : buildDealContext gateway args.tables w.db.deal.odooSaleOrderId w.odoo =
      (.error e, odoo)) :
    evaluateDeal gateway args w = (.error e, { w with odoo }) := by
  unfold evaluateDeal
  rw [built]

/-- What a completed evaluation does to the Odoo side. -/
theorem evaluateDeal_odoo {args : EvaluateArgs} {w : World σ} {ctx : DealContext} {odoo : σ}
    (built : buildDealContext gateway args.tables w.db.deal.odooSaleOrderId w.odoo =
      (.ok ctx, odoo)) :
    (evaluateDeal gateway args w).2.odoo =
      (gateway.setGovernance (settleEvaluation w.db args ctx).deal.odooSaleOrderId
        (settleEvaluation w.db args ctx).deal.approvalState.value
        (assessRisk w.db args.tables ctx).riskScore
        (isLocked (assessRisk w.db args.tables ctx).requiredLevel
          (settleEvaluation w.db args ctx).deal.approvalState) odoo).2 := by
  unfold evaluateDeal
  rw [built]

/-- What it does to the approval chain. -/
theorem evaluateDeal_approvals {args : EvaluateArgs} {w : World σ} {ctx : DealContext} {odoo : σ}
    (built : buildDealContext gateway args.tables w.db.deal.odooSaleOrderId w.odoo =
      (.ok ctx, odoo)) :
    (evaluateDeal gateway args w).2.db.approvals = (settleEvaluation w.db args ctx).approvals := by
  unfold evaluateDeal
  rw [built]
  rfl

theorem evaluateDeal_keeps (reads : ReadsKeep gateway f)
    (sets : ∀ orderId approvalState riskScore locked,
      Keeps f (gateway.setGovernance orderId approvalState riskScore locked))
    (args : EvaluateArgs) (w : World σ) :
    f (evaluateDeal gateway args w).2.odoo = f w.odoo := by
  have read := buildDealContext_keeps reads args.tables w.db.deal.odooSaleOrderId w.odoo
  cases built : buildDealContext gateway args.tables w.db.deal.odooSaleOrderId w.odoo with
  | mk result odoo =>
      rw [built] at read
      cases result with
      | error e =>
          rw [evaluateDeal_raises built]
          exact read
      | ok ctx =>
          rw [evaluateDeal_odoo built]
          exact (sets ..).trans read

/-- After the last approval the order is confirmed if the customer had accepted the deal. -/
theorem autoConfirm_odoo (gateway : OdooGateway σ) (now : Timestamp) (w : World σ) :
    (autoConfirm gateway now w).odoo =
      if w.db.deal.customerConfirmedPending = true then
        (gateway.confirm w.db.deal.odooSaleOrderId w.odoo).2
      else w.odoo := by
  unfold autoConfirm
  split
  · split
    · next refused => rw [refused]
    · next done => rw [done]
  · rfl

/-- The Odoo side after it is told an approval state of the deal. -/
def toldOdoo (gateway : OdooGateway σ) (w : World σ) (state : ApprovalState) (locked : Bool) : σ :=
  (gateway.setGovernance w.db.deal.odooSaleOrderId state.value
    (w.db.deal.currentRiskScore.getD 0) locked w.odoo).2

/-- What a decision whose guards pass does to the Odoo side. -/
theorem decideApprovalRequest_odoo (gateway : OdooGateway σ) {requestId : ℕ}
    {actor : DealflowUser} {w : World σ} {req : ApprovalRequest}
    (guarded : guardDecision w.db requestId actor = .ok req) (action : ApprovalActionType)
    (reason : Option String) (now : Timestamp) :
    (decideApprovalRequest gateway requestId actor action reason now w).2.odoo =
      match action with
      | .approve =>
          if w.db.deal.requiredLevel = .managerAndFinance ∧ req.requiredLevel = .salesManager then
            w.odoo
          else if w.db.deal.customerConfirmedPending = true then
            (gateway.confirm w.db.deal.odooSaleOrderId (toldOdoo gateway w .approved false)).2
          else toldOdoo gateway w .approved false
      | .reject => toldOdoo gateway w .rejected true
      | .return => toldOdoo gateway w .returned false
      | .escalate | .invalidate => w.odoo := by
  unfold decideApprovalRequest
  rw [guarded]
  cases action with
  | approve =>
      dsimp only
      unfold approveRequest
      dsimp only
      by_cases twoStage :
          w.db.deal.requiredLevel = .managerAndFinance ∧ req.requiredLevel = .salesManager
      · exact (congrArg World.odoo (if_pos twoStage)).trans (if_pos twoStage).symm
      · refine (congrArg World.odoo (if_neg twoStage)).trans ?_
        exact (autoConfirm_odoo gateway now _).trans (if_neg twoStage).symm
  | reject | «return» | escalate | invalidate => rfl

/-- A decision that does not confirm keeps what telling a state keeps. -/
theorem decideApprovalRequest_keeps (sets : ∀ orderId approvalState riskScore locked,
      Keeps f (gateway.setGovernance orderId approvalState riskScore locked))
    {requestId : ℕ} {actor : DealflowUser} {action : ApprovalActionType} {w : World σ}
    (quiet : ∀ req, guardDecision w.db requestId actor = .ok req → action = .approve →
      w.db.deal.customerConfirmedPending = true →
        w.db.deal.requiredLevel = .managerAndFinance ∧ req.requiredLevel = .salesManager)
    (reason : Option String) (now : Timestamp) :
    f (decideApprovalRequest gateway requestId actor action reason now w).2.odoo = f w.odoo := by
  cases guarded : guardDecision w.db requestId actor with
  | error e => rw [decideApprovalRequest_refused gateway guarded]
  | ok req =>
      rw [decideApprovalRequest_odoo gateway guarded]
      cases action with
      | approve =>
          dsimp only
          split
          · rfl
          · next lastStage =>
              rw [if_neg fun accepted => lastStage (quiet req guarded rfl accepted)]
              exact sets ..
      | reject => exact sets ..
      | «return» => exact sets ..
      | escalate => rfl
      | invalidate => rfl

end Frame

end DealFlow
