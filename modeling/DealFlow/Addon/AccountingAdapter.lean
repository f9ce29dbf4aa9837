import DealFlow.Addon.Records
import DealFlow.Addon.Schemas
import DealFlow.Lib.Dict
import DealFlow.Lib.Fallible
import DealFlow.Lib.Significant

/-!
# The accounting adapter on its own store

`dealflow_odoo/services/accounting_adapter.py` where neither an Odoo environment nor a client is
given: orders and invoices are dictionaries the adapter keeps.  A dictionary of invoices is the list
of its entries in the order they were first written; orders are a partial function.  An amount in
cents stands for the double next to it, any other amount is the double itself.
-/

namespace DealFlow.Addon

open Lib

inductive InvoiceState
  | draft | posted | cancel
  deriving DecidableEq, Repr

inductive PaymentState
  | notPaid | inPayment | paid
  deriving DecidableEq, Repr

inductive MoveType
  | outInvoice | outRefund | inInvoice | inRefund | entry
  deriving DecidableEq, Repr

/-- A line of a registered order, with the keys it has. -/
structure MockLine where
  productName : Option String := none
  name : Option String := none
  categoryName : String := ""
  productUomQty : Option ℚ := none
  quantity : Option ℚ := none
  priceUnit : ℚ := 0
  discount : ℚ := 0
  priceSubtotal : Option ℚ := none
  isRecurring : Bool := false
  recurringInterval : Option String := none
  deriving DecidableEq, Repr

structure MockOrder where
  state : OrderState := .draft
  name : Option String := none
  amountTotal : ℚ := 0
  dealflowDealId : Option String := none
  dateOrder : Option String := none
  lines : List MockLine := []
  invoiceIds : List ℤ := []
  deriving DecidableEq, Repr

structure MockInvoice where
  name : String
  orderId : ℤ
  invoiceOrigin : String
  moveType : MoveType := .outInvoice
  state : InvoiceState := .posted
  paymentState : PaymentState := .notPaid
  amountTotal : ℚ
  amountResidual : ℚ
  dealflowDealId : Option String := none
  dealflowIsRecurring : Bool := false
  invoiceDate : String
  deriving DecidableEq, Repr

structure AccountingAdapter where
  mockOrders : ℤ → Option MockOrder
  mockInvoices : List (ℤ × MockInvoice) := []
  nextInvoiceId : ℤ := 1001

/-- What the clock says: the year and the day as `%Y-%m-%d`. -/
structure Today where
  year : ℕ
  date : String
  deriving DecidableEq, Repr

namespace AccountingAdapter

/-- `self._mock_invoices[invoice_id]`. -/
def findInvoice (a : AccountingAdapter) (invoiceId : ℤ) : Option MockInvoice :=
  a.mockInvoices.lookup invoiceId

/-- `self._mock_invoices[invoice_id] = invoice`. -/
def setInvoice (a : AccountingAdapter) (invoiceId : ℤ) (invoice : MockInvoice) :
    AccountingAdapter :=
  { a with
    mockInvoices :=
      if invoiceId ∈ a.mockInvoices.map (·.1) then
        a.mockInvoices.map fun entry => if entry.1 = invoiceId then (invoiceId, invoice) else entry
      else a.mockInvoices ++ [(invoiceId, invoice)] }

theorem findInvoice_setInvoice (a : AccountingAdapter) (invoiceId : ℤ) (invoice : MockInvoice)
    (other : ℤ) :
    (a.setInvoice invoiceId invoice).findInvoice other =
      if other = invoiceId then some invoice else a.findInvoice other :=
  Dict.lookup_setEntry a.mockInvoices invoiceId invoice other

/-! ## Reading invoices -/

structure InvoiceSummary where
  invoiceId : ℤ
  name : String
  state : InvoiceState
  amountTotal : ℚ
  amountResidual : ℚ
  paymentState : PaymentState
  isPaid : Bool
  moveType : MoveType
  dealflowDealId : Option String
  dealflowIsRecurring : Bool
  deriving DecidableEq, Repr

/-- What `get_invoice` returns of an invoice, its amounts to the cent. -/
def summary (invoiceId : ℤ) (inv : MockInvoice) : InvoiceSummary :=
  { invoiceId
    name := inv.name
    state := inv.state
    amountTotal := roundTo 2 inv.amountTotal
    amountResidual := roundTo 2 inv.amountResidual
    paymentState := inv.paymentState
    isPaid := inv.paymentState = .paid || (0 < inv.amountTotal && inv.amountResidual ≤ 0) ||
      (inv.amountTotal = 0 && inv.amountResidual ≤ 0 && inv.state = .posted)
    moveType := inv.moveType
    dealflowDealId := inv.dealflowDealId
    dealflowIsRecurring := inv.dealflowIsRecurring }

def getInvoice (a : AccountingAdapter) (invoiceId : ℤ) :
    Except DealFlowIntegrationError InvoiceSummary :=
  match a.findInvoice invoiceId with
  | none => .error (notFoundError s!"Invoice {invoiceId} not found.")
  | some inv => .ok (summary invoiceId inv)

def orderNotFound (orderId : ℤ) : DealFlowIntegrationError :=
  notFoundError s!"Sale order {orderId} not found."

def getOrderInvoices (a : AccountingAdapter) (orderId : ℤ) :
    Except DealFlowIntegrationError (List InvoiceSummary) :=
  match a.mockOrders orderId with
  | none => .error (orderNotFound orderId)
  | some _ =>
      .ok ((a.mockInvoices.filter fun entry => entry.2.orderId = orderId).map fun entry =>
        summary entry.1 entry.2)

/-! ## The payment status of an order -/

structure PaymentStatus where
  orderId : ℤ
  isPaid : Bool
  amountPaid : ℚ
  amountDue : ℚ
  paymentState : PaymentState
  invoicesCount : ℕ
  deriving DecidableEq, Repr

/-- The status of an order that nothing is invoiced for. -/
def nothingInvoiced (orderId : ℤ) (totalExpected : ℚ) (invoicesCount : ℕ) : PaymentStatus :=
  { orderId
    isPaid := false
    amountPaid := 0
    amountDue := roundTo 2 totalExpected
    paymentState := .notPaid
    invoicesCount }

/-- What a move adds to `total_invoiced` and `total_due`, in doubles; a refund takes it off. -/
def tally (sums : ℚ × ℚ) (inv : InvoiceSummary) : ℚ × ℚ :=
  if inv.moveType = .outRefund then
    (float64 (sums.1 - float64 inv.amountTotal), float64 (sums.2 - float64 inv.amountResidual))
  else (float64 (sums.1 + float64 inv.amountTotal), float64 (sums.2 + float64 inv.amountResidual))

/-- The status over the moves that are not cancelled. -/
def aggregateStatus (orderId : ℤ) (validInvoices : List InvoiceSummary) : PaymentStatus :=
  let sums := validInvoices.foldl tally (0, 0)
  let totalInvoiced := sums.1
  let totalDue := max 0 sums.2
  let totalPaid := max 0 (float64 (totalInvoiced - totalDue))
  let isPaid : Bool :=
    totalDue ≤ 0 && (0 < totalInvoiced || validInvoices.any fun inv => inv.amountTotal = 0)
  { orderId
    isPaid
    amountPaid := roundTo 2 totalPaid
    amountDue := roundTo 2 totalDue
    paymentState :=
      if isPaid then .paid
      else if validInvoices.any fun inv => inv.paymentState = .inPayment then .inPayment
      else if 0 < totalPaid then .inPayment
      else .notPaid
    invoicesCount := validInvoices.length }

/-- `get_payment_status`. -/
def getPaymentStatus (a : AccountingAdapter) (orderId : ℤ) :
    Except DealFlowIntegrationError PaymentStatus :=
  match a.getOrderInvoices orderId, a.mockOrders orderId with
  | .error e, _ => .error e
  | .ok _, none => .error (orderNotFound orderId)
  | .ok invoices, some order =>
      let validInvoices := invoices.filter fun inv => inv.state ≠ .cancel
      if invoices = [] then .ok (nothingInvoiced orderId order.amountTotal 0)
      else if validInvoices = [] then
        .ok (nothingInvoiced orderId order.amountTotal invoices.length)
      else .ok (aggregateStatus orderId validInvoices)

/-! ## Creating an invoice -/

/-- The invoices that count as billed. -/
def activeInvoices (invoices : List InvoiceSummary) : List InvoiceSummary :=
  invoices.filter fun inv => inv.state ≠ .cancel ∧ inv.moveType ≠ .outRefund

/-- The guard against billing an order twice, which adds up and compares doubles. -/
def doubleBillingError (orderId : ℤ) (amountTotal : ℚ) (active : List InvoiceSummary) :
    Option DealFlowIntegrationError :=
  let totalAlreadyInvoiced := runningSum float64 (active.map fun inv => float64 inv.amountTotal)
  let ordTotal := float64 amountTotal
  if active = [] then none
  else if 0 < ordTotal ∧ ordTotal ≤ totalAlreadyInvoiced then
    some (invalidStateError (s!"Sale order {orderId} is already fully invoiced " ++
      s!"(${twoDecimals totalAlreadyInvoiced} invoiced of ${twoDecimals ordTotal} total). " ++
      "Cannot create duplicate invoices without additional deliverables or milestones."))
  else if ordTotal = 0 then
    some (invalidStateError (s!"Sale order {orderId} is already invoiced. " ++
      "Cannot create duplicate invoices for zero-amount orders."))
  else none

def newInvoice (orderId : ℤ) (moveType : MoveType) (today : Today) (newId : ℤ)
    (order : MockOrder) : MockInvoice :=
  { name := s!"INV/{today.year}/{padded newId}"
    orderId
    invoiceOrigin := order.name.getD s!"SO-{orderId}"
    moveType
    amountTotal := order.amountTotal
    amountResidual := order.amountTotal
    dealflowDealId := order.dealflowDealId
    invoiceDate := today.date }

structure CreatedInvoice where
  invoiceId : ℤ
  name : String
  amountTotal : ℚ
  state : InvoiceState
  paymentState : PaymentState
  dealflowDealId : Option String
  deriving DecidableEq, Repr

/-- The store with the new invoice, linked back to its order. -/
def postInvoice (a : AccountingAdapter) (orderId : ℤ) (order : MockOrder) (invoice : MockInvoice) :
    AccountingAdapter :=
  { a.setInvoice a.nextInvoiceId invoice with
    nextInvoiceId := a.nextInvoiceId + 1
    mockOrders := fun id =>
      if id = orderId then some { order with invoiceIds := order.invoiceIds ++ [a.nextInvoiceId] }
      else a.mockOrders id }

/-- `create_invoice`. -/
def createInvoice (a : AccountingAdapter) (orderId : ℤ) (moveType : MoveType) (today : Today) :
    Except DealFlowIntegrationError (CreatedInvoice × AccountingAdapter) :=
  match a.getOrderInvoices orderId, a.mockOrders orderId with
  | .error e, _ => .error e
  | .ok _, none => .error (orderNotFound orderId)
  | .ok existing, some order =>
      match doubleBillingError orderId order.amountTotal (activeInvoices existing) with
      | some e => .error e
      | none =>
          if order.state ≠ .sale ∧ order.state ≠ .done then
            .error (invalidStateError (s!"Cannot invoice order {orderId} in state " ++
              s!"'{order.state.value}'. Order must be confirmed ('sale' or 'done') prior to " ++
              "invoicing."))
          else
            let invoice := newInvoice orderId moveType today a.nextInvoiceId order
            .ok
              ({ invoiceId := a.nextInvoiceId
                 name := invoice.name
                 amountTotal := invoice.amountTotal
                 state := .posted
                 paymentState := .notPaid
                 dealflowDealId := order.dealflowDealId },
               a.postInvoice orderId order invoice)

/-! ## Payments and cancellation -/

structure PaymentResult where
  invoiceId : ℤ
  amountPaid : ℚ
  amountResidual : ℚ
  paymentState : PaymentState
  isPaid : Bool
  deriving DecidableEq, Repr

/-- `record_payment`. -/
def recordPayment (a : AccountingAdapter) (invoiceId : ℤ) (amount : Option ℚ) :
    Except DealFlowIntegrationError (PaymentResult × AccountingAdapter) := do
  require (¬ amount.any (· < 0)) (validationError "Payment amount cannot be negative.")
  let invoice ← a.getInvoice invoiceId
  require (invoice.state ≠ .cancel)
    (invalidStateError s!"Cannot record payment on cancelled invoice {invoiceId}.")
  let residual := invoice.amountResidual
  let payAmount :=
    match amount with
    | none => residual
    | some amount => if residual < amount then residual else amount
  let newResidual := max 0 (residual - payAmount)
  let newState : PaymentState := if newResidual ≤ 0 then .paid else .inPayment
  .ok
    ({ invoiceId
       amountPaid := roundTo 2 payAmount
       amountResidual := roundTo 2 newResidual
       paymentState := newState
       isPaid := newState = .paid },
     match a.findInvoice invoiceId with
     | none => a
     | some inv =>
         a.setInvoice invoiceId
           { inv with amountResidual := newResidual, paymentState := newState })

/-- An invoice is cancelled in the store; the adapter has no method for it. -/
def cancelInvoice (a : AccountingAdapter) (invoiceId : ℤ) : AccountingAdapter :=
  match a.findInvoice invoiceId with
  | none => a
  | some inv => a.setInvoice invoiceId { inv with state := .cancel }

end AccountingAdapter

end DealFlow.Addon
