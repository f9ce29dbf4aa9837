import DealFlow.Addon.SaleOrder

/-!
# The governance actions of the addon's order

`action_dealflow_evaluate_governance`, `action_dealflow_apply_approved_change` and
`action_dealflow_confirm` of `dealflow_odoo/models/sale_order.py`.
-/

namespace DealFlow.Addon

open Lib

/-! ## Evaluation -/

structure CategoryBreach where
  lineId : ℕ
  product : String
  category : String
  discount : ℚ
  ceiling : ℚ
  excess : ℚ
  deriving DecidableEq, Repr

def lineBreach (round : ℚ → ℚ) (entry : ℕ × SaleOrderLine) : Option CategoryBreach :=
  let line := entry.2
  if line.ceiling < line.discount then
    some
      { lineId := entry.1
        product := line.name
        category := line.categoryName
        discount := line.discount
        ceiling := line.ceiling
        excess := round (round line.discount - line.ceiling) }
  else none

structure EvaluationReport where
  riskScore : ℚ
  healthStatus : OrderHealth
  dealflowLocked : Bool
  categoryBreaches : List CategoryBreach
  isFreeDeal : Bool
  hasNegativeMargin : Bool
  deriving DecidableEq, Repr

/-- What an evaluation finds on the priced lines of an order. -/
structure GovernanceFindings where
  blendedDiscount : ℚ
  categoryBreaches : List CategoryBreach
  hasNegativeMargin : Bool
  totalList : ℚ
  totalMargin : ℚ
  isFreeDeal : Bool
  deriving DecidableEq, Repr

/-- The findings on priced lines, with the untaxed amount of the order. -/
def governanceFindings (round : ℚ → ℚ) (amountUntaxed : ℚ) (lines : List (ℕ × SaleOrderLine)) :
    GovernanceFindings :=
  let blended := computeBlendedDiscount round (lines.map (·.2))
  let totalList := runningSum round (lines.map fun entry => entry.2.listAmount round)
  let totalCost := runningSum round (lines.map fun entry => entry.2.lineCost round)
  { blendedDiscount := blended
    categoryBreaches := lines.filterMap (lineBreach round)
    hasNegativeMargin := lines.any fun entry =>
      entry.2.discountedAmount round < entry.2.lineCost round
    totalList
    totalMargin := round (round amountUntaxed - totalCost)
    isFreeDeal := (lines.any fun entry => 100 ≤ entry.2.discount) ||
      (0 < totalList && 100 ≤ blended) }

/-- What a breach adds to the score. -/
def CategoryBreach.penalty (round : ℚ → ℚ) (breach : CategoryBreach) : ℚ :=
  round (round (breach.excess * 2) + 15)

section Findings

variable (round : ℚ → ℚ) (f : GovernanceFindings)

/-- What is added to `risk`, one after another. -/
def GovernanceFindings.riskParts : List ℚ :=
  (if defaultMaxRepDiscount < f.blendedDiscount then
    [round (round (f.blendedDiscount - defaultMaxRepDiscount) * (3 / 2))]
  else []) ++ f.categoryBreaches.map (·.penalty round) ++
    if f.totalMargin < 0 ∨ f.hasNegativeMargin = true then [35] else []

def GovernanceFindings.riskScore : ℚ :=
  let risk := if f.isFreeDeal then 100 else runningSum round (f.riskParts round)
  round (roundTo 2 (min 100 (max 0 risk)))

def GovernanceFindings.healthStatus : OrderHealth :=
  if f.isFreeDeal = true ∨ defaultFinanceDiscountThreshold ≤ f.blendedDiscount ∨
      f.totalMargin < 0 then
    .critical
  else if f.categoryBreaches ≠ [] ∨ defaultMaxRepDiscount < f.blendedDiscount then .atRisk
  else .healthy

end Findings

section Methods

variable (base : BaseOdoo) (env : Env)

def Db.findings (round : ℚ → ℚ) (db : Db) (orderId : ℕ) : GovernanceFindings :=
  governanceFindings round (base.amountUntaxed ((db.orderLine orderId).map (·.2)))
    (db.pricedLines orderId)

/-- The lock that an evaluation sets, unless the order is approved or in health. -/
def lockUnhealthy (orderId : ℕ) (health : OrderHealth) (db : Db) : Except OdooException Db :=
  if health ≠ .healthy ∧ db.approvalState orderId ≠ some .approved then
    writeOrders base env [orderId] { dealflowLocked := some true } db
  else .ok db

/-- An evaluation in an arithmetic that rounds: each field is assigned, that is written, on its
own. -/
def evaluateGovernance (round : ℚ → ℚ) (orderId : ℕ) (db : Db) :
    Except OdooException (EvaluationReport × Db) := do
  let findings := db.findings base round orderId
  let riskScore := findings.riskScore round
  let db ← writeOrders base env [orderId] { dealflowRiskScore := some riskScore } db
  let db ← writeOrders base env [orderId] { dealflowHealthStatus := some findings.healthStatus } db
  let db ← lockUnhealthy base env orderId findings.healthStatus db
  let db ← writeOrders base env [orderId] { dealflowLastEvaluatedAt := some (some env.now) } db
  .ok ({ riskScore
         healthStatus := findings.healthStatus
         dealflowLocked := ((db.orders.row orderId).map (·.dealflowLocked)).getD false
         categoryBreaches := findings.categoryBreaches
         isFreeDeal := findings.isFreeDeal
         hasNegativeMargin := findings.hasNegativeMargin }, db)

/-- `action_dealflow_evaluate_governance`, which computes with doubles. -/
def actionDealflowEvaluateGovernance (orderId : ℕ) (db : Db) :
    Except OdooException (EvaluationReport × Db) :=
  evaluateGovernance base env float64 orderId db

/-! ## Applying an approved change -/

/-- An entry of `lines`. -/
structure ChangeLine where
  lineId : Option ℕ := none
  id : Option ℕ := none
  discount : Option ℚ := none
  deriving DecidableEq, Repr

/-- The approved changes.  A key of a dictionary of line discounts is `none` where it is not the
text of a number. -/
structure ApprovedChanges where
  discount : Option ℚ := none
  lineDiscounts : Option (List (Option ℕ × ℚ)) := none
  targetLineDiscounts : Option (List (Option ℕ × ℚ)) := none
  lines : Option (List ChangeLine) := none
  paymentTermId : Option (Option ℕ) := none
  validityDate : Option (Option ℤ) := none
  terms : Option String := none
  note : Option String := none
  dealflowDealId : Option (Option String) := none
  dealflowRiskScore : Option ℚ := none
  dealflowHealthStatus : Option OrderHealth := none
  deriving DecidableEq, Repr

/-- `line_discounts or target_line_discounts or {}`. -/
def ApprovedChanges.chosenLineDiscounts (changes : ApprovedChanges) : List (Option ℕ × ℚ) :=
  let given := changes.lineDiscounts.getD []
  if given ≠ [] then given else changes.targetLineDiscounts.getD []

/-- The discounts of the changes that the role check looks at. -/
def ApprovedChanges.discounts (changes : ApprovedChanges) : List ℚ :=
  changes.discount.toList ++ (changes.targetLineDiscounts.getD []).map (·.2) ++
    (changes.lineDiscounts.getD []).map (·.2) ++
    (changes.lines.getD []).map fun item => item.discount.getD 0

/-- `line_id or id` of an entry. -/
def ChangeLine.target (item : ChangeLine) : Option ℕ :=
  (item.lineId.filter (· ≠ 0)).or item.id

/-- `line.write` of a discount with its approval, where the line is on the order. -/
def writeApprovedDiscount (orderId : ℕ) (db : Db) (lineId : ℕ) (discount : ℚ) :
    Except OdooException Db :=
  if (db.lines.row lineId).map (·.orderId) = some orderId then
    writeLines base env [lineId]
      { discount := some discount, dealflowApprovedDiscount := some discount } db
  else .ok db

/-- The line discounts of the changes, written one after another. -/
def applyLineDiscounts (orderId : ℕ) (changes : ApprovedChanges) (db : Db) :
    Except OdooException Db := do
  let db ← changes.chosenLineDiscounts.foldlM (fun db entry =>
    match entry.1 with
    | none => .ok db
    | some lineId => writeApprovedDiscount base env orderId db lineId entry.2) db
  let db ← (changes.lines.getD []).foldlM (fun db item =>
    match item.target, item.discount with
    | some lineId, some discount => writeApprovedDiscount base env orderId db lineId discount
    | _, _ => .ok db) db
  match changes.discount with
  | none => .ok db
  | some discount =>
      if changes.chosenLineDiscounts = [] ∧ changes.lines = none then
        (db.pricedLines orderId).foldlM (fun db entry =>
          writeApprovedDiscount base env orderId db entry.1 discount) db
      else .ok db

/-- The values of the order in an approved change. -/
def approvedOrderVals (changes : ApprovedChanges) (now : ℤ) : SaleOrderVals :=
  { dealflowApprovalState := some .approved
    dealflowLocked := some false
    dealflowLastEvaluatedAt := some (some now)
    paymentTermId := changes.paymentTermId
    validityDate := changes.validityDate
    note := changes.terms.or changes.note
    dealflowDealId := changes.dealflowDealId
    dealflowRiskScore := changes.dealflowRiskScore
    dealflowHealthStatus := changes.dealflowHealthStatus }

/-- `action_dealflow_apply_approved_change`. -/
def actionDealflowApplyApprovedChange (orderId : ℕ) (changes : ApprovedChanges) (db : Db) :
    Except OdooException Db := do
  require (env.user.isPortal = false) (.accessError
    "Privilege Escalation Blocked: Portal users cannot apply approved changes.")
  require (env.user.isSalesRep = false ∨ env.user.isFinanceOrAdmin = true ∨
      ∀ d ∈ changes.discounts, d ≤ defaultFinanceDiscountThreshold) (.accessError
    ("Privilege Escalation Blocked: Sales Rep cannot approve discounts exceeding " ++
      "20.0% (Finance approval required)."))
  let db ← applyLineDiscounts base env.withSkipReapproval orderId changes db
  writeOrders base env.withSkipReapproval [orderId] (approvedOrderVals changes env.now) db

/-! ## Confirmation -/

/-- A discount above what a rep may give: blended, or on a line. -/
def exceedsThreshold (blended : ℚ) (lines : List (ℕ × SaleOrderLine)) : Bool :=
  defaultMaxRepDiscount < blended ||
    lines.any fun entry => defaultMaxRepDiscount < entry.2.discount

def hasCategoryBreach (lines : List (ℕ × SaleOrderLine)) : Bool :=
  lines.any fun entry => entry.2.ceiling < entry.2.discount

/-- The discount gate of a confirmation. -/
def exceedsLimits (db : Db) (orderId : ℕ) : Bool :=
  exceedsThreshold (db.blendedDiscount orderId) (db.pricedLines orderId) ||
    hasCategoryBreach (db.pricedLines orderId)

/-- What `action_dealflow_confirm` checks on each order. -/
def confirmGate (db : Db) (orderId : ℕ) : Except OdooException Unit :=
  match db.orders.row orderId with
  | none => .error (missing "sale.order")
  | some order => do
      require (order.dealflowApprovalState ≠ .rejected) (.userError
        "Confirmation Blocked: Quotation has been formally rejected by DealFlow governance.")
      require (¬ ((order.dealflowLocked = true ∨ exceedsLimits db orderId = true) ∧
          order.dealflowApprovalState ≠ .approved)) (.userError
        "Order locked pending DealFlow approval")

/-- `action_dealflow_confirm`, which is also `action_confirm`. -/
def actionDealflowConfirm (ids : List ℕ) (db : Db) : Except OdooException Db := do
  require (env.user.isPortal = false) (.accessError
    "Privilege Escalation Blocked: Portal users cannot confirm sales orders directly.")
  if env.bypassCheck then superConfirm base env ids db
  else
    ids.forM (confirmGate db)
    superConfirm base env ids db

variable {base} {env} in
/-- A confirmation that comes to its end is Odoo's own. -/
theorem actionDealflowConfirm_ok {ids : List ℕ} {db after : Db}
    (ok : actionDealflowConfirm base env ids db = .ok after) :
    superConfirm base env ids db = .ok after := by
  obtain ⟨-, ok⟩ := require_bind_eq_ok.mp ok
  split at ok
  · exact ok
  · obtain ⟨-, -, ok⟩ := bind_eq_ok.mp ok
    exact ok

end Methods

end DealFlow.Addon
