import DealFlow.Governance.Runs

/-!
# Approved terms that deteriorate

An approved deal is evaluated again and some line is worse than its approved baseline
(`ExceedsBaseline`): a line that was never reviewed, a discount two points up, or one further above
its ceiling.  Such an evaluation should cost the deal its approval.

Coverage looks only at the score and the level of the order as a whole, both of which are capped, so
it does so exactly when the recomputed risk exceeds the approved assessment's
(`trapSprings_iff`).  On a deal approved at 25 % the score is at its caps already, and the
same line at 40 % leaves it approved (`discountedOrder_stays_approved`).
-/

namespace DealFlow

open Lib

/-- A line is worse than what the approved assessment records for it. -/
def ExceedsBaseline (approved : RiskAssessment) (lineCeilings : ℤ → Option ℚ) (ctx : DealContext) :
    Prop :=
  ∃ l ∈ ctx.lines,
    (∀ s ∈ approved.lineSnapshot, s.lineId ≠ l.lineId) ∨
    (∃ s ∈ approved.lineSnapshot, s.lineId = l.lineId ∧ s.discountPct + 2 ≤ l.discountPct) ∨
    (ceilingOf ctx lineCeilings l < l.discountPct ∧
      ∃ s ∈ approved.lineSnapshot, s.lineId = l.lineId ∧ s.discountPct < l.discountPct)

instance (approved : RiskAssessment) (lineCeilings : ℤ → Option ℚ) (ctx : DealContext) :
    Decidable (ExceedsBaseline approved lineCeilings ctx) := by
  unfold ExceedsBaseline
  infer_instance

/-- The recomputed risk exceeds what was approved. -/
def RiskExceeds (approved : RiskAssessment) (calcRes : RiskCalculationResult) : Prop :=
  approved.riskScore < calcRes.riskScore ∨
    levelPriority approved.requiredLevel < levelPriority calcRes.requiredLevel

/-- After an assessment the approval stands exactly when it stood and covers the assessment. -/
theorem assess_approved_iff (a : Approvals) (s : RiskAssessment) (now : Timestamp) :
    (a.assess s now).approvalState = .approved ↔
      a.covers s = true ∧ a.approvalState = .approved := by
  unfold Approvals.assess
  split
  · next kept => exact ⟨fun _ => kept, fun _ => kept.2⟩
  · next lost =>
      refine ⟨fun state => ?_, fun kept => absurd kept lost⟩
      split at state
      · cases state
      · cases state

theorem not_covered_iff (approved : RiskAssessment) (newLevel : ApprovalLevel) (newRiskScore : ℚ) :
    isCoveredByApprovedAssessment (some approved) newLevel newRiskScore ≠ true ↔
      approved.riskScore < newRiskScore ∨
        levelPriority approved.requiredLevel < levelPriority newLevel := by
  unfold isCoveredByApprovedAssessment
  dsimp only
  split
  · next level => exact ⟨fun _ => .inr level, fun _ => nofun⟩
  · next level =>
      split
      · next score => exact ⟨fun _ => .inl score, fun _ => nofun⟩
      · next score =>
          exact ⟨fun refused => absurd rfl refused, fun worse => absurd worse (by tauto)⟩

section Evaluation

variable {σ : Type} {gateway : OdooGateway σ} {args : EvaluateArgs} {w : World σ}
  {ctx : DealContext} {approved : RiskAssessment}

/-- An approved deal keeps its approval unless the recomputed risk exceeds it. -/
theorem evaluateDeal_loses_approval_iff (state : w.db.deal.approvalState = .approved)
    (baseline : w.db.approvedAssessment = some approved)
    (read : (buildDealContext gateway args.tables w.db.deal.odooSaleOrderId w.odoo).1 = .ok ctx) :
    (evaluateDeal gateway args w).2.db.deal.approvalState ≠ .approved ↔
      RiskExceeds approved (assessRisk w.db args.tables ctx) := by
  rcases evaluateDeal_cases gateway args w with
    ⟨e, raised, -⟩ | ⟨ctx', response, read', -, assessed⟩
  · -- the evaluation raises only where the order cannot be read
    unfold evaluateDeal at raised
    split at raised
    · next built =>
        rw [built] at read
        cases read
    · cases raised
  · obtain rfl : ctx = ctx' := Except.ok.inj (read.symm.trans read')
    have after : (evaluateDeal gateway args w).2.db.deal.approvalState = _ :=
      congrArg Approvals.approvalState assessed
    rw [after, Ne, assess_approved_iff]
    have held : w.db.approvals.approvalState = .approved := state
    have coverage : w.db.approvals.approvedAssessment = some approved := baseline
    rw [and_iff_left held]
    unfold Approvals.covers
    rw [coverage]
    exact not_covered_iff ..

/-- An evaluation that finds a line worse than its baseline should take the approval away. -/
def TrapSprings (gateway : OdooGateway σ) (args : EvaluateArgs) (w : World σ) (ctx : DealContext)
    (approved : RiskAssessment) : Prop :=
  ExceedsBaseline approved (resolvePolicies args.tables ctx).1 ctx →
    (evaluateDeal gateway args w).2.db.deal.approvalState ≠ .approved

instance (gateway : OdooGateway σ) (args : EvaluateArgs) (w : World σ) (ctx : DealContext)
    (approved : RiskAssessment) : Decidable (TrapSprings gateway args w ctx approved) := by
  unfold TrapSprings
  infer_instance

/-- It does so exactly when no line is worse or the recomputed risk exceeds the approved one. -/
theorem trapSprings_iff (state : w.db.deal.approvalState = .approved)
    (baseline : w.db.approvedAssessment = some approved)
    (read : (buildDealContext gateway args.tables w.db.deal.odooSaleOrderId w.odoo).1 = .ok ctx) :
    TrapSprings gateway args w ctx approved ↔
      ¬ ExceedsBaseline approved (resolvePolicies args.tables ctx).1 ctx ∨
        RiskExceeds approved (assessRisk w.db args.tables ctx) := by
  unfold TrapSprings
  rw [evaluateDeal_loses_approval_iff state baseline read]
  exact imp_iff_not_or

/-- An approval of the highest level and a full score outlives every later evaluation. -/
theorem saturated_approval_stands (state : w.db.deal.approvalState = .approved)
    (baseline : w.db.approvedAssessment = some approved)
    (read : (buildDealContext gateway args.tables w.db.deal.odooSaleOrderId w.odoo).1 = .ok ctx)
    (full : approved.riskScore = 100) (highest : approved.requiredLevel = .managerAndFinance) :
    (evaluateDeal gateway args w).2.db.deal.approvalState = .approved := by
  by_contra lost
  have exceeds := (evaluateDeal_loses_approval_iff state baseline read).mp lost
  rcases exceeds with score | level
  · have bound : (assessRisk w.db args.tables ctx).riskScore ≤ 100 := min_le_left ..
    rw [full] at score
    exact absurd score (not_lt.mpr bound)
  · have bound : ∀ lvl : ApprovalLevel, levelPriority lvl ≤ 2 := by
      intro lvl
      cases lvl <;> decide
    rw [highest] at level
    exact absurd level (not_lt.mpr (bound _))

end Evaluation

/-- The assessment of the service order at 25 %. -/
def serviceAssessment : RiskAssessment :=
  { id := 2
    riskScore := 85
    severity := .high
    requiredLevel := .managerAndFinance
    decision := "FINANCE_APPROVAL_REQUIRED"
    triggerType := .manual
    lineSnapshot :=
      [{ lineId := 1001, productId := 107, productName := "Setup Service", qty := 1
         priceUnit := 100000, discountPct := 25, subtotal := 75000, cost := 80000
         marginPct := -667 / 100 }]
    totals :=
      { amountUntaxed := 75000, amountTotal := 88500, totalCost := 80000
        totalMarginPct := -667 / 100, blendedDiscountPct := 25 }
    calculatedAt := 1 }

/-- The service order approved at 25 %, its line now at 40 %. -/
def discountedWorld : World FakeOdoo :=
  run (GovernanceOp.apply fakeOdooGateway)
    (serviceApproval ++ [.onOdoo (FakeOdoo.editLines 101
      (List.map fun l => { l with discountPct := 40 }))]) serviceWorld

/-- The context of that order. -/
def discountedContext : DealContext :=
  dealContextOf goldTables
    { header :=
        { id := 101, name := "SO00101", partnerId := 1, partnerName := "Acme Corp"
          state := "draft", currency := "INR", userId := 4, teamId := some 1, companyId := 1 }
      lines :=
        [{ id := 1001, productId := 107, productName := "Setup Service", categoryId := 2
           productType := "SERVICE", qty := 1, priceUnit := 100000, discountPct := 40
           unitCost := 80000, taxRatePct := 18 }] }
    fun _ => ∅

/-- At 40 % the recomputed risk is that of 25 %, so the evaluation takes nothing away. -/
theorem discountedOrder_stays_approved :
    discountedWorld.db.deal.approvalState = .approved ∧
      discountedWorld.db.approvedAssessment = some serviceAssessment ∧
      (buildDealContext fakeOdooGateway goldTables 101 discountedWorld.odoo).1 =
        .ok discountedContext ∧
      ¬ TrapSprings fakeOdooGateway { tables := goldTables, now := 4 } discountedWorld
        discountedContext serviceAssessment := by
  decide +kernel

theorem discountedOrder_trapSprings_iff :
    TrapSprings fakeOdooGateway { tables := goldTables, now := 4 } discountedWorld
        discountedContext serviceAssessment ↔
      ¬ ExceedsBaseline serviceAssessment (resolvePolicies goldTables discountedContext).1
          discountedContext ∨
        RiskExceeds serviceAssessment
          (assessRisk discountedWorld.db goldTables discountedContext) :=
  trapSprings_iff (by decide +kernel) (by decide +kernel) (by decide +kernel)

end DealFlow
