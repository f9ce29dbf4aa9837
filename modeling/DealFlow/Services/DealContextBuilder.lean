import DealFlow.Lib.Rounding
import DealFlow.Odoo.Interface

/-!
# Deal context

`app/services/deal_context_builder.py`: read an order from Odoo and turn it into the decimal
figures the guardian works on.  Decimals are rationals here and the divisions are exact; the source
computes them to 28 significant digits.
-/

namespace DealFlow

/-- Round to `places` decimals, ties away from zero (`ROUND_HALF_UP`). -/
def quantizeDec (val : ℚ) (places : ℕ := 2) : ℚ :=
  Lib.quantize places val

/-- The integer part of a decimal. -/
def truncDec (val : ℚ) : ℤ :=
  if 0 ≤ val then ⌊val⌋ else ⌈val⌉

/-! ## Tables the guardian reads -/

structure CustomerTier where
  code : String
  defaultMaxDiscountPct : ℚ
  deriving DecidableEq, Repr

structure CustomerTierAssignment where
  odooPartnerId : ℤ
  tierCode : String
  deriving DecidableEq, Repr

structure DiscountPolicy where
  id : ℕ
  odooCompanyId : ℤ := 1
  name : String
  customerTierCode : Option String := none
  odooProductCategoryId : Option ℤ := none
  maxDiscountPct : ℚ
  minimumMarginPct : Option ℚ := none
  managerThreshold : Option ℚ := none
  financeThreshold : Option ℚ := none
  singleLineFinancePts : Option ℚ := none
  priority : ℤ := 10
  active : Bool := true
  deriving DecidableEq, Repr

/-- The tables as they stand when a deal is evaluated. -/
structure PolicyTables where
  customerTiers : List CustomerTier := []
  tierAssignments : List CustomerTierAssignment := []
  discountPolicies : List DiscountPolicy := []
  deriving DecidableEq, Repr

/-! ## The context -/

structure DealLineContext where
  lineId : ℤ
  productId : ℤ
  productName : String
  categoryId : ℤ
  productType : String
  qty : ℚ
  priceUnit : ℚ
  discountPct : ℚ
  unitCost : ℚ
  subtotal : ℚ
  costSubtotal : ℚ
  marginAmount : ℚ
  marginPct : ℚ
  isRecurring : Bool
  taxRatePct : ℚ
  availableQty : ℤ
  inventoryShortage : Bool
  deriving DecidableEq, Repr

structure DealContext where
  odooSaleOrderId : ℤ
  odooOrderName : String
  partnerId : ℤ
  partnerName : String
  tierCode : String
  tierDefaultCeiling : ℚ
  currencyCode : String
  companyId : ℤ
  userId : ℤ
  teamId : Option ℤ
  state : String
  orderDiscountPct : ℚ
  amountUntaxed : ℚ
  amountTotal : ℚ
  oneTimeTotal : ℚ
  recurringFirstCycleTotal : ℚ
  totalCost : ℚ
  totalMarginAmount : ℚ
  totalMarginPct : ℚ
  blendedDiscountPct : ℚ
  deliveryDate : Option Timestamp
  lines : List DealLineContext
  deriving DecidableEq, Repr

def isStockable (productType : String) : Bool :=
  productType.toUpper ∈ ["PRODUCT", "CONSU", "STOCKABLE"]

/-- One order line, given the stock of its product. -/
def buildLineContext (l : RawOrderLine) (prodStock : AList fun _ : ℤ => ℤ) : DealLineContext :=
  let qty := quantizeDec l.qty
  let priceUnit := quantizeDec l.priceUnit
  let discPct := quantizeDec l.discountPct
  let unitCost := quantizeDec l.unitCost
  let subtotal := quantizeDec (qty * priceUnit * (1 - discPct / 100))
  let lineCost := quantizeDec (qty * unitCost)
  let marginAmt := quantizeDec (subtotal - lineCost)
  let wh1Available := (prodStock.lookup 1).getD 0
  { lineId := l.id
    productId := l.productId
    productName := l.productName
    categoryId := l.categoryId
    productType := l.productType
    qty
    priceUnit
    discountPct := discPct
    unitCost
    subtotal
    costSubtotal := lineCost
    marginAmount := marginAmt
    marginPct := if 0 < subtotal then quantizeDec (marginAmt / subtotal * 100) else 0
    isRecurring := l.isRecurring
    taxRatePct := quantizeDec l.taxRatePct
    availableQty := (prodStock.entries.map (·.2)).sum
    inventoryShortage := isStockable l.productType && wh1Available < truncDec qty }

/-- The context of an order that was read, under the stock that was read with it. -/
def dealContextOf (tables : PolicyTables) (rawOrder : RawOrder) (stock : Availability) :
    DealContext :=
  let header := rawOrder.header
  let assignment := tables.tierAssignments.find? fun a => a.odooPartnerId = header.partnerId
  let tierCode := (assignment.map (·.tierCode)).getD "STANDARD"
  let tierRec := tables.customerTiers.find? fun t => t.code = tierCode
  let lines := rawOrder.lines.map fun l => buildLineContext l (stock l.productId)
  let totalListRevenue := (lines.map fun l => l.qty * l.priceUnit).sum
  let totalActualUntaxed := (lines.map (·.subtotal)).sum
  let totalActualTax :=
    (lines.map fun l => quantizeDec (l.subtotal * (l.taxRatePct / 100))).sum
  let totalCost := (lines.map (·.costSubtotal)).sum
  let totalMarginAmt := quantizeDec (totalActualUntaxed - totalCost)
  { odooSaleOrderId := header.id
    odooOrderName := header.name
    partnerId := header.partnerId
    partnerName := header.partnerName
    tierCode
    tierDefaultCeiling := (tierRec.map (·.defaultMaxDiscountPct)).getD 5
    currencyCode := if header.currency = "" then "INR" else header.currency
    companyId := if header.companyId = 0 then 1 else header.companyId
    userId := header.userId
    teamId := header.teamId
    state := header.state
    orderDiscountPct := 0
    amountUntaxed := totalActualUntaxed
    amountTotal := quantizeDec (totalActualUntaxed + totalActualTax)
    oneTimeTotal := ((lines.filter fun l => !l.isRecurring).map (·.subtotal)).sum
    recurringFirstCycleTotal := ((lines.filter (·.isRecurring)).map (·.subtotal)).sum
    totalCost
    totalMarginAmount := totalMarginAmt
    totalMarginPct :=
      if 0 < totalActualUntaxed then quantizeDec (totalMarginAmt / totalActualUntaxed * 100)
      else 0
    blendedDiscountPct :=
      if 0 < totalListRevenue then
        quantizeDec ((totalListRevenue - totalActualUntaxed) / totalListRevenue * 100)
      else 0
    deliveryDate := header.commitmentDate
    lines }

/-- Read the order and the stock of its products.  An order that cannot be read is reported as not
found; stock that cannot be read counts as none. -/
def buildDealContext {σ : Type} (gateway : OdooGateway σ) (tables : PolicyTables) (orderId : ℤ)
    (odoo : σ) : Except DealFlowException DealContext × σ :=
  match gateway.getSaleOrder orderId odoo with
  | (.error e, odoo') =>
      (.error (notFoundError s!"Sale order {orderId} not found in Odoo: {e.text}"), odoo')
  | (.ok rawOrder, odoo') =>
      let productIds := rawOrder.lines.map (·.productId)
      if productIds = [] then (.ok (dealContextOf tables rawOrder fun _ => ∅), odoo')
      else
        match gateway.getAvailability productIds odoo' with
        | (.ok stock, odoo'') => (.ok (dealContextOf tables rawOrder stock), odoo'')
        | (.error _, odoo'') => (.ok (dealContextOf tables rawOrder fun _ => ∅), odoo'')

end DealFlow
