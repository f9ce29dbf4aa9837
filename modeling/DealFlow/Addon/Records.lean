import DealFlow.Addon.Security
import DealFlow.Lib.Significant
import DealFlow.Lib.Table
import DealFlow.Odoo.XmlRpc

/-!
# The records of the addon

The constants of `dealflow_odoo/constants.py` and the records of `sale.order`, `sale.order.line` and
`dealflow.negotiation`: the fields the addon adds, and of Odoo's own those the addon reads or lists
as commercial terms.  A record that nothing here writes (a product, a customer) stands in the field
that points to it.

The blended discount of an order is computed from its lines, and so is a function of them.  Amounts
are `Float` fields: a rational stands for the double next to it, and what is computed from it is
rounded at each step.  The steps are written for any such rounding, of which the code's is
`float64`.
-/

namespace DealFlow.Addon

open Lib

/-! ## Constants -/

def defaultMaxRepDiscount : ℚ := 10

def defaultFinanceDiscountThreshold : ℚ := 20

/-- `CATEGORY_DISCOUNT_CEILINGS`, with the default of its look-ups. -/
def categoryCeiling (category : String) : ℚ :=
  if category = "Hardware" then 15
  else if category = "Service" then 15
  else if category = "Subscription" then 10
  else defaultMaxRepDiscount

inductive OrderHealth
  | healthy | atRisk | critical
  deriving DecidableEq, Repr

inductive NegotiationStatus
  | submitted | underReview | approved | rejected
  deriving DecidableEq, Repr

/-- The status is approved or rejected. -/
def NegotiationStatus.decided (status : NegotiationStatus) : Bool :=
  status = .approved || status = .rejected

/-! ## Order lines -/

structure Product where
  id : ℕ
  name : String := ""
  categName : Option String := none
  standardPrice : ℚ := 0
  deriving DecidableEq, Repr

inductive RecurringInterval
  | month | year
  deriving DecidableEq, Repr

structure SaleOrderLine where
  orderId : ℕ
  /-- `display_type`: the line is a section or a note. -/
  displayType : Bool := false
  name : String := ""
  productId : Option Product := none
  productUomQty : ℚ := 1
  priceUnit : ℚ := 0
  discount : ℚ := 0
  purchasePrice : ℚ := 0
  dealflowApprovedDiscount : ℚ := 0
  dealflowIsRecurring : Bool := false
  dealflowRecurringInterval : Option RecurringInterval := none
  dealflowCostPrice : ℚ := 0
  deriving DecidableEq, Repr

section Line

variable (line : SaleOrderLine)

def SaleOrderLine.gross : ℚ := line.priceUnit * line.productUomQty

/-- `gross`, as it is computed. -/
def SaleOrderLine.listAmount (round : ℚ → ℚ) : ℚ :=
  round (round line.priceUnit * round line.productUomQty)

def SaleOrderLine.discountAmount (round : ℚ → ℚ) : ℚ :=
  round (line.listAmount round * round (round line.discount / 100))

/-- The category the line's discount is judged by. -/
def SaleOrderLine.categoryName : String :=
  (line.productId.bind (·.categName)).getD "All"

def SaleOrderLine.ceiling : ℚ := categoryCeiling line.categoryName

/-- `_compute_cost_price`. -/
def SaleOrderLine.computeCostPrice : SaleOrderLine :=
  { line with
    dealflowCostPrice :=
      match line.productId with
      | none => 0
      | some product =>
          if line.purchasePrice ≠ 0 then line.purchasePrice else product.standardPrice }

/-- The unit cost a governance check takes: the stored one, else the product's. -/
def SaleOrderLine.cost : ℚ :=
  if line.dealflowCostPrice ≠ 0 then line.dealflowCostPrice
  else (line.productId.map (·.standardPrice)).getD 0

/-- `line_cost` -/
def SaleOrderLine.lineCost (round : ℚ → ℚ) : ℚ :=
  round (round line.cost * round line.productUomQty)

/-- `subtotal`, the discounted list amount. -/
def SaleOrderLine.discountedAmount (round : ℚ → ℚ) : ℚ :=
  round (line.listAmount round * round (1 - round (round line.discount / 100)))

end Line

/-! ## Orders -/

inductive OrderState
  | draft | sent | sale | done | cancel
  deriving DecidableEq, Repr

def OrderState.value : OrderState → String
  | .draft => "draft"
  | .sent => "sent"
  | .sale => "sale"
  | .done => "done"
  | .cancel => "cancel"

structure SaleOrder where
  name : String
  partner : Partner
  state : OrderState := .draft
  paymentTermId : Option ℕ := none
  note : String := ""
  termsType : String := "plain"
  validityDate : Option ℤ := none
  pricelistId : Option ℕ := none
  dealflowDealId : Option String := none
  dealflowRiskScore : ℚ := 0
  dealflowApprovalState : AddonApprovalState := .draft
  dealflowHealthStatus : OrderHealth := .healthy
  dealflowLastEvaluatedAt : Option ℤ := none
  dealflowLocked : Bool := false
  deriving DecidableEq, Repr

/-! ## Negotiations -/

structure DealFlowNegotiation where
  saleOrderId : ℕ
  requestedDiscount : ℚ := 0
  status : NegotiationStatus := .submitted
  originalAmount : ℚ := 0
  proposedAmount : ℚ := 0
  submittedAt : ℤ
  reviewedBy : Option ℕ := none
  reviewNote : Option String := none
  deriving DecidableEq, Repr

/-! ## The database -/

structure Db where
  orders : Table SaleOrder
  lines : Table SaleOrderLine
  negotiations : Table DealFlowNegotiation

section Order

variable (db : Db) (orderId : ℕ)

/-- `order.order_line`. -/
def Db.orderLine : List (ℕ × SaleOrderLine) :=
  db.lines.entries.filter fun entry => entry.2.orderId = orderId

/-- The lines of an order that are neither sections nor notes. -/
def Db.pricedLines : List (ℕ × SaleOrderLine) :=
  (db.orderLine orderId).filter fun entry => !entry.2.displayType

/-- `_compute_blended_discount`. -/
def computeBlendedDiscount (round : ℚ → ℚ) (lines : List SaleOrderLine) : ℚ :=
  let totalListAmount := runningSum round (lines.map (·.listAmount round))
  let totalDiscountAmount := runningSum round (lines.map (·.discountAmount round))
  if 0 < totalListAmount then
    round (roundTo 2 (round (round (totalDiscountAmount / totalListAmount) * 100)))
  else 0

def Db.blendedDiscount : ℚ :=
  computeBlendedDiscount float64 ((db.pricedLines orderId).map (·.2))

def Db.approvalState : Option AddonApprovalState :=
  (db.orders.row orderId).map (·.dealflowApprovalState)

end Order

/-- The blended discount is a function of the lines. -/
theorem blendedDiscount_congr {after : Db} {lines : Table SaleOrderLine}
    (same : after.lines = lines) (db : Db) (orderId : ℕ) :
    after.blendedDiscount orderId = ({ db with lines } : Db).blendedDiscount orderId := by
  unfold Db.blendedDiscount Db.pricedLines Db.orderLine
  rw [same]

end DealFlow.Addon
