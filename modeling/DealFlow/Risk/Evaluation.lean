import DealFlow.Guardian.Evaluator

/-!
# What an evaluation makes of an order

The verdict of an evaluation, seen from the order and the stock the gateway answers its reads with
(`evaluatedVerdict_of_reads`).
-/

namespace DealFlow

/-- What an evaluation says about a deal. -/
abbrev Verdict := ℚ × RiskSeverity × ApprovalLevel

def RiskCalculationResult.verdict (r : RiskCalculationResult) : Verdict :=
  (r.riskScore, r.severity, r.requiredLevel)

/-- The verdict of an evaluation that goes through. -/
def evaluatedVerdict {σ : Type} (gateway : OdooGateway σ) (args : EvaluateArgs) (w : World σ) :
    Option Verdict :=
  match (evaluateDeal gateway args w).1 with
  | .error _ => none
  | .ok response =>
      some (response.riskAssessment.riskScore, response.riskAssessment.severity,
        response.riskAssessment.requiredLevel)

/-- The policy figures of a resolved policy. -/
def ResolvedPolicy.figures (res : ResolvedPolicy) : RiskPolicy :=
  { minimumMarginPct := res.minimumMarginPct
    managerThreshold := res.managerThreshold
    financeThreshold := res.financeThreshold
    singleLineFinancePts := res.singleLineFinancePts }

/-- The policy of a line of a deal. -/
def linePolicy (tables : PolicyTables) (ctx : DealContext) (l : DealLineContext) :
    ResolvedPolicy :=
  resolvePolicyForLine tables ctx.companyId ctx.tierCode l.categoryId ctx.tierDefaultCeiling

/-- The figures of an evaluation are those of the last line. -/
theorem resolvePolicies_figures (tables : PolicyTables) (ctx : DealContext) :
    (resolvePolicies tables ctx).2 =
      (ctx.lines.getLast?.map fun l => (linePolicy tables ctx l).figures).getD {} := by
  unfold resolvePolicies
  rcases List.eq_nil_or_concat ctx.lines with none | ⟨ls, last, eq⟩
  · rw [none]
    rfl
  · rw [eq, List.concat_eq_append, List.foldl_concat, List.getLast?_concat]
    rfl

/-! ## Reading an order -/

/-- The gateway answers the reads of an order and its stock with these. -/
def ReadsOrder {σ : Type} (gateway : OdooGateway σ) (orderId : ℤ) (odoo : σ) (raw : RawOrder)
    (stock : Availability) : Prop :=
  ∀ tables, (buildDealContext gateway tables orderId odoo).1 = .ok (dealContextOf tables raw stock)

section Reads

variable {σ : Type} {gateway : OdooGateway σ} {odoo : σ} {args : EvaluateArgs} {db : DealStore}
  {raw : RawOrder} {stock : Availability}

theorem evaluateDeal_of_reads (args : EvaluateArgs)
    (reads : ReadsOrder gateway db.deal.odooSaleOrderId odoo raw stock) :
    ∃ response, (evaluateDeal gateway args { db, odoo }).1 = .ok response ∧
      response.riskAssessment = newAssessment db.nextId (dealContextOf args.tables raw stock)
        (assessRisk db args.tables (dealContextOf args.tables raw stock)) args := by
  unfold evaluateDeal
  cases read : buildDealContext gateway args.tables db.deal.odooSaleOrderId odoo with
  | mk answer odoo' =>
      have ok : answer = .ok (dealContextOf args.tables raw stock) := by
        rw [← reads args.tables, read]
      subst ok
      exact ⟨_, rfl, rfl⟩

theorem evaluatedVerdict_of_reads
    (reads : ReadsOrder gateway db.deal.odooSaleOrderId odoo raw stock) :
    evaluatedVerdict gateway args { db, odoo } =
      some (assessRisk db args.tables (dealContextOf args.tables raw stock)).verdict := by
  obtain ⟨response, ok, assessed⟩ := evaluateDeal_of_reads args reads
  unfold evaluatedVerdict
  rw [ok]
  dsimp only
  rw [assessed]
  rfl

end Reads

/-- A gateway that answers every read from one order and one stock. -/
def orderOnFile : OdooGateway (RawOrder × Availability) where
  getSaleOrder _ s := (.ok s.1, s)
  getAvailability _ s := (.ok s.2, s)
  applyLineChanges _ _ s := (.ok (), s)
  addLine _ _ _ _ s := (.ok 0, s)
  setGovernance _ _ _ _ s := (.ok (), s)
  confirm _ s := (.ok (), s)

theorem orderOnFile_reads (orderId : ℤ) (raw : RawOrder) (stock : Availability) :
    ReadsOrder orderOnFile orderId (raw, stock) raw stock := by
  intro tables
  unfold buildDealContext
  simp only [orderOnFile]
  split
  · next none =>
      have empty : raw.lines = [] := List.map_eq_nil_iff.mp none
      simp [dealContextOf, empty]
  · rfl

/-- A quotation of these lines, in the books of Odoo. -/
def quotation (lines : List RawOrderLine) : RawOrder :=
  { header :=
      { id := 7, name := "S00007", partnerId := 3, partnerName := "Acme", state := "draft"
        currency := "INR", userId := 4, teamId := none, companyId := 1 }
    lines }

/-- Its deal. -/
def quotationStore : DealStore :=
  { deal :=
      { id := 1, reference := "DF-00001", odooSaleOrderId := 7, odooOrderName := "S00007"
        odooPartnerId := 3, partnerNameCache := "Acme", ownerOdooUserId := 4 }
    nextId := 2 }

def goodsLine : RawOrderLine :=
  { id := 1, productId := 10, productName := "Desk", categoryId := 1, productType := "SERVICE"
    qty := 1, priceUnit := 100, discountPct := 0, unitCost := 70, taxRatePct := 18 }

end DealFlow
