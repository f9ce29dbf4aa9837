import DealFlow.Guardian.ApprovalRouting
import DealFlow.Guardian.MaterialChange
import DealFlow.Guardian.Policy

/-!
# Deal evaluation

`evaluate_deal` of `app/guardian/evaluator.py`: read the order, resolve the policies of its lines,
compute the risk, store the assessment with a snapshot of the lines, route the approval and tell
Odoo whether the order is locked.

Both ways of naming the deal lead to the deal of the store.  An evaluation that raises is rolled
back: the store is as before, what the gateway calls did to the Odoo side stays.

`simulate_deal_what_if` of the same file builds the context of a deal, overrides discounts and
quantities of its lines in it and computes the risk of the patched context.  Nothing is stored.
-/

namespace DealFlow

/-- The arguments of an evaluation, with the policy tables as it finds them. -/
structure EvaluateArgs where
  tables : PolicyTables
  triggerType : TriggerType := .manual
  actorId : Option ℤ := none
  actorRole : Option Role := none
  now : Timestamp
  deriving DecidableEq, Repr

structure EvaluationResponse where
  riskAssessment : RiskAssessment
  approvalState : ApprovalState
  requiredLevel : ApprovalLevel
  decision : String
  materialChanges : List MaterialChangeKind
  deriving DecidableEq, Repr

/-- The ceilings of the lines, and the policy figures, which are those of the last line. -/
def resolvePolicies (tables : PolicyTables) (ctx : DealContext) : (ℤ → Option ℚ) × RiskPolicy :=
  ctx.lines.foldl
    (fun acc l =>
      let res := resolvePolicyForLine tables ctx.companyId ctx.tierCode l.categoryId
        ctx.tierDefaultCeiling
      (fun lineId => if lineId = l.lineId then some res.maxDiscountPct else acc.1 lineId,
        { minimumMarginPct := res.minimumMarginPct
          managerThreshold := res.managerThreshold
          financeThreshold := res.financeThreshold
          singleLineFinancePts := res.singleLineFinancePts }))
    (fun _ => none, {})

/-- Whether the customer has an open counter-discount. -/
def hasOpenCounter (db : DealStore) : Bool :=
  db.negotiations.any fun n =>
    n.status = .open ∧ n.type = NegotiationRequestType.counterDiscount.value

/-- The risk of the order under the policies and negotiations there are. -/
def assessRisk (db : DealStore) (tables : PolicyTables) (ctx : DealContext) :
    RiskCalculationResult :=
  let resolved := resolvePolicies tables ctx
  calculateDealRisk ctx resolved.1 resolved.2 {} (hasOpenCounter db)

def snapshotLine (l : DealLineContext) : LineSnapshot :=
  { lineId := l.lineId
    productId := l.productId
    productName := l.productName
    qty := l.qty
    priceUnit := l.priceUnit
    discountPct := l.discountPct
    subtotal := l.subtotal
    cost := l.costSubtotal
    marginPct := l.marginPct }

def newAssessment (assessmentId : ℕ) (ctx : DealContext) (calcRes : RiskCalculationResult)
    (args : EvaluateArgs) : RiskAssessment :=
  { id := assessmentId
    riskScore := calcRes.riskScore
    severity := calcRes.severity
    requiredLevel := calcRes.requiredLevel
    decision := calcRes.decision
    triggerType := args.triggerType
    lineSnapshot := ctx.lines.map snapshotLine
    totals :=
      { amountUntaxed := ctx.amountUntaxed
        amountTotal := ctx.amountTotal
        totalCost := ctx.totalCost
        totalMarginPct := ctx.totalMarginPct
        blendedDiscountPct := ctx.blendedDiscountPct }
    calculatedAt := args.now }

/-- Store an assessment with its factors. -/
def persistAssessment (db : DealStore) (assessment : RiskAssessment)
    (factors : List RiskFactorDetail) : DealStore :=
  { db with
    assessments := db.assessments ++ [assessment]
    factors := db.factors ++ factors.map fun f =>
      { riskAssessmentId := assessment.id
        factorType := f.factorType
        sourceReference := f.sourceReference
        rawValue := f.rawValue
        weight := f.weight
        contribution := f.contribution }
    nextId := db.nextId + 1 }

/-- Whether the approved assessment covers the risk just computed. -/
def isCovered (db : DealStore) (calcRes : RiskCalculationResult) : Bool :=
  isCoveredByApprovedAssessment db.approvedAssessment calcRes.requiredLevel calcRes.riskScore

/-- The store after assessment, routing and the update of the deal. -/
def settleEvaluation (db : DealStore) (args : EvaluateArgs) (ctx : DealContext) : DealStore :=
  let calcRes := assessRisk db args.tables ctx
  let assessment := newAssessment db.nextId ctx calcRes args
  let routed := applyApprovalRouting (persistAssessment db assessment calcRes.factors) assessment.id
    calcRes.requiredLevel (isCovered db calcRes) args.now
  routed.updateDeal fun d =>
    { d with
      currentRiskScore := some calcRes.riskScore
      currentSeverity := some calcRes.severity
      requiredLevel := calcRes.requiredLevel
      currentAssessmentId := some assessment.id
      lastActivityAt := args.now }

/-- Whether the evaluation leaves the order locked. -/
def isLocked (requiredLevel : ApprovalLevel) (approvalState : ApprovalState) : Bool :=
  if requiredLevel = .none then false
  else if approvalState = .approved then false
  else true

def evaluateDeal {σ : Type} (gateway : OdooGateway σ) (args : EvaluateArgs) (w : World σ) :
    Except DealFlowException EvaluationResponse × World σ :=
  match buildDealContext gateway args.tables w.db.deal.odooSaleOrderId w.odoo with
  | (.error e, odoo) => (.error e, { w with odoo })
  | (.ok ctx, odoo) =>
      let calcRes := assessRisk w.db args.tables ctx
      let settled := settleEvaluation w.db args ctx
      -- an exception of this call is swallowed
      let odoo := (gateway.setGovernance settled.deal.odooSaleOrderId
        settled.deal.approvalState.value calcRes.riskScore
        (isLocked calcRes.requiredLevel settled.deal.approvalState) odoo).2
      let db := settled.recordAuditEvent
        { eventType := .riskRecalculated
          entityType := "deal"
          entityId := toString settled.deal.id
          actorType := if args.actorId.any (· ≠ 0) then "USER" else "SYSTEM"
          actorId := args.actorId
          actorRole := args.actorRole
          createdAt := args.now }
      (.ok
        { riskAssessment := newAssessment w.db.nextId ctx calcRes args
          approvalState := db.deal.approvalState
          requiredLevel := db.deal.requiredLevel
          decision := calcRes.decision
          materialChanges :=
            (isMaterialChange none ctx args.triggerType w.db.currentAssessment).2 },
        { db, odoo })

/-! ## What an evaluation leaves alone -/

/-- The store without what an evaluation writes. -/
def DealStore.unassessed (db : DealStore) : DealStore :=
  { db with
    assessments := []
    factors := []
    requests := []
    auditEvents := []
    nextId := 0
    deal :=
      { db.deal with
        approvalState := .notEvaluated
        currentRiskScore := none
        currentSeverity := none
        requiredLevel := .none
        currentAssessmentId := none
        lastActivityAt := 0 } }

theorem applyApprovalRouting_unassessed (db : DealStore) (riskAssessmentId : ℕ)
    (requiredLevel : ApprovalLevel) (isCovered : Bool) (now : Timestamp) :
    (applyApprovalRouting db riskAssessmentId requiredLevel isCovered now).unassessed =
      db.unassessed := by
  have invalidated : (invalidatePending db now).unassessed = db.unassessed := by
    unfold invalidatePending
    rw [DealStore.foldl_recordAuditEvent]
    rfl
  unfold applyApprovalRouting
  split
  · rfl
  · cases requiredLevel with
    | none => exact invalidated
    | manager | managerAndFinance => exact invalidated

/-- An evaluation writes its assessment, the requests it supersedes and opens, and the audit log; of
the deal it keeps what is not about any of these. -/
theorem evaluateDeal_unassessed {σ : Type} (gateway : OdooGateway σ) (args : EvaluateArgs)
    (w : World σ) : (evaluateDeal gateway args w).2.db.unassessed = w.db.unassessed := by
  unfold evaluateDeal
  split
  · rfl
  · exact applyApprovalRouting_unassessed ..

/-! ## What-if simulation -/

/-- The overrides of a simulation, by line id. -/
structure LineOverrides where
  lineDiscounts : ℤ → Option ℚ := fun _ => none
  lineQuantities : ℤ → Option ℚ := fun _ => none

structure WhatIfSimulateResponse where
  simulatedRiskScore : ℚ
  simulatedSeverity : RiskSeverity
  simulatedRequiredLevel : ApprovalLevel
  simulatedDecision : String
  factors : List RiskFactorDetail
  marginPct : ℚ
  amountTotal : ℚ
  deriving DecidableEq, Repr

/-- The line with its overrides; what was computed from its figures stays. -/
def LineOverrides.patch (overrides : LineOverrides) (l : DealLineContext) : DealLineContext :=
  { l with
    discountPct := (overrides.lineDiscounts l.lineId).getD l.discountPct
    qty := (overrides.lineQuantities l.lineId).getD l.qty }

def whatIfContext (orderDiscountPct : Option ℚ) (overrides : LineOverrides) (ctx : DealContext) :
    DealContext :=
  { ctx with
    orderDiscountPct := orderDiscountPct.getD ctx.orderDiscountPct
    lines := ctx.lines.map overrides.patch }

/-- Of the resolved policies only the ceilings are used. -/
def simulateDealWhatIf {σ : Type} (gateway : OdooGateway σ) (tables : PolicyTables)
    (orderDiscountPct : Option ℚ) (overrides : LineOverrides) (w : World σ) :
    Except DealFlowException WhatIfSimulateResponse × World σ :=
  match buildDealContext gateway tables w.db.deal.odooSaleOrderId w.odoo with
  | (.error e, odoo) => (.error e, { w with odoo })
  | (.ok built, odoo) =>
      let ctx := whatIfContext orderDiscountPct overrides built
      let calcRes := calculateDealRisk ctx (resolvePolicies tables built).1
      (.ok
        { simulatedRiskScore := calcRes.riskScore
          simulatedSeverity := calcRes.severity
          simulatedRequiredLevel := calcRes.requiredLevel
          simulatedDecision := calcRes.decision
          factors := calcRes.factors
          marginPct := calcRes.marginPct
          amountTotal := ctx.amountTotal },
        { w with odoo })

end DealFlow
