import DealFlow.Addon.Records
import DealFlow.Addon.Schemas

/-!
# The context of a deal

`action_get_deal_context` of `dealflow_odoo/models/sale_order.py`: what the guardian is told about
an order.  What Odoo itself keeps or computes of an order (its customer, dates, currency and
amounts, the subtotals of its lines) is passed on, and stands in `OdooFields`.  An amount stands for
the double next to it, also one that is rounded to cents.
-/

namespace DealFlow.Addon

open Lib

/-- Odoo's own fields of an order and of its lines. -/
structure OdooFields where
  customer : CustomerDTO
  dateOrder : String
  currency : String := "USD"
  amountUntaxed : ℚ
  amountTax : ℚ
  amountTotal : ℚ
  /-- `price_subtotal` of the line with an id. -/
  priceSubtotal : ℕ → ℚ

structure DealContextDTO where
  dealId : Option String
  orderId : ℕ
  orderName : String
  customer : CustomerDTO
  state : String
  dateOrder : String
  currency : String
  amountUntaxed : ℚ
  amountTax : ℚ
  amountTotal : ℚ
  blendedDiscount : ℚ
  totalCost : ℚ
  totalMargin : ℚ
  marginPercent : ℚ
  lines : List OrderLineDTO
  hasRecurringLines : Bool
  mrr : ℚ
  arr : ℚ
  dealflowRiskScore : ℚ
  dealflowApprovalState : AddonApprovalState
  dealflowHealthStatus : OrderHealth
  dealflowLocked : Bool
  deriving DecidableEq, Repr

def RecurringInterval.value : RecurringInterval → String
  | .month => "month"
  | .year => "year"

section Line

variable (line : SaleOrderLine) (subtotal : ℚ)

/-- `_compute_dealflow_margin`. -/
def SaleOrderLine.dealflowMargin : ℚ :=
  if line.displayType then 0
  else
    let cost := float64 (float64 line.dealflowCostPrice * float64 line.productUomQty)
    roundTo 2 (float64 (float64 subtotal - cost))

/-- The margin a context reports: the stored one, or what it would be where that is nothing. -/
def SaleOrderLine.contextMargin : ℚ :=
  if line.dealflowMargin subtotal ≠ 0 then float64 (line.dealflowMargin subtotal)
  else float64 (float64 subtotal - line.lineCost float64)

/-- `amount / whole * 100`, nothing of a whole that is not positive. -/
def percentOf (amount whole : ℚ) : ℚ :=
  if 0 < whole then float64 (float64 (amount / float64 whole) * 100) else 0

def SaleOrderLine.dto (id : ℕ) : OrderLineDTO :=
  let margin := line.contextMargin subtotal
  { id
    productId := (line.productId.map (·.id)).getD 0
    productName := (line.productId.map (·.name)).getD line.name
    categoryName := line.categoryName
    productUomQty := line.productUomQty
    priceUnit := line.priceUnit
    costPrice := line.cost
    discount := line.discount
    priceSubtotal := subtotal
    margin := roundTo 2 margin
    marginPercent := roundTo 2 (percentOf margin subtotal)
    isRecurring := line.dealflowIsRecurring
    recurringInterval := line.dealflowRecurringInterval.map (·.value) }

end Line

/-- Whether something recurs, and what comes in by the month and by the year. -/
structure RecurringRevenue where
  hasRecurring : Bool := false
  mrr : ℚ := 0
  arr : ℚ := 0
  deriving DecidableEq, Repr

/-- What a line adds: an interval other than a year counts as a month. -/
def RecurringRevenue.add (revenue : RecurringRevenue) (line : SaleOrderLine) (subtotal : ℚ) :
    RecurringRevenue :=
  let subtotal := float64 subtotal
  if line.dealflowIsRecurring then
    if line.dealflowRecurringInterval = some .year then
      { hasRecurring := true
        mrr := float64 (revenue.mrr + float64 (subtotal / 12))
        arr := float64 (revenue.arr + subtotal) }
    else
      { hasRecurring := true
        mrr := float64 (revenue.mrr + subtotal)
        arr := float64 (revenue.arr + float64 (subtotal * 12)) }
  else revenue

section Context

variable (db : Db) (fields : OdooFields) (orderId : ℕ)

def Db.contextLines : List OrderLineDTO :=
  (db.pricedLines orderId).map fun entry => entry.2.dto (fields.priceSubtotal entry.1) entry.1

def Db.contextRevenue : RecurringRevenue :=
  (db.pricedLines orderId).foldl
    (fun revenue entry => revenue.add entry.2 (fields.priceSubtotal entry.1)) {}

/-- `action_get_deal_context`. -/
def getDealContext (order : SaleOrder) : DealContextDTO :=
  let totalCost :=
    runningSum float64 ((db.pricedLines orderId).map fun entry => entry.2.lineCost float64)
  let totalMargin := float64 (float64 fields.amountUntaxed - totalCost)
  let revenue := db.contextRevenue fields orderId
  { dealId := order.dealflowDealId
    orderId
    orderName := order.name
    customer := fields.customer
    state := order.state.value
    dateOrder := fields.dateOrder
    currency := fields.currency
    amountUntaxed := fields.amountUntaxed
    amountTax := fields.amountTax
    amountTotal := fields.amountTotal
    blendedDiscount := db.blendedDiscount orderId
    totalCost := roundTo 2 totalCost
    totalMargin := roundTo 2 totalMargin
    marginPercent := roundTo 2 (percentOf totalMargin fields.amountUntaxed)
    lines := db.contextLines fields orderId
    hasRecurringLines := revenue.hasRecurring
    mrr := roundTo 2 revenue.mrr
    arr := roundTo 2 revenue.arr
    dealflowRiskScore := order.dealflowRiskScore
    dealflowApprovalState := order.dealflowApprovalState
    dealflowHealthStatus := order.dealflowHealthStatus
    dealflowLocked := order.dealflowLocked }

end Context

end DealFlow.Addon
