import DealFlow.Lib.Rounding
import DealFlow.Services.NegotiationService

/-!
# The customer portal

`app/services/portal_service.py` and the views of `app/schemas/portal.py`: the customer reads a
quotation and confirms it.
-/

namespace DealFlow

open Lib

/-! ## The view of a deal -/

structure PortalLineRead where
  odooSaleOrderLineId : ℤ
  odooProductId : ℤ
  productName : String
  productUomQty : ℚ
  priceUnit : ℚ
  discountPct : ℚ
  priceSubtotal : ℚ
  deriving DecidableEq, Repr

structure PortalCommentPublicRead where
  id : ℕ
  odooSaleOrderLineId : Option ℤ
  authorRole : Role
  body : String
  createdAt : Timestamp
  deriving DecidableEq, Repr

structure PortalNegotiationRead where
  id : ℕ
  type : String
  status : NegotiationRequestStatus
  message : Option String
  responseMessage : Option String
  counterValue : Option ℚ
  createdAt : Timestamp
  processedAt : Option Timestamp
  deriving DecidableEq, Repr

structure PortalDealRead where
  reference : String
  odooSaleOrderId : ℤ
  odooOrderName : String
  partnerName : String
  currencyCode : String
  status : String
  orderDiscountPct : ℚ
  amountUntaxed : ℚ
  amountTotal : ℚ
  customerConfirmedPending : Bool
  sentAt : Option Timestamp
  confirmedAt : Option Timestamp
  promisedDeliveryDate : Option Timestamp
  lines : List PortalLineRead
  comments : List PortalCommentPublicRead
  negotiations : List PortalNegotiationRead
  deriving DecidableEq, Repr

def portalLineRead (line : RawOrderLine) : PortalLineRead :=
  { odooSaleOrderLineId := line.id
    odooProductId := line.productId
    productName := line.productName
    productUomQty := line.qty
    priceUnit := line.priceUnit
    discountPct := line.discountPct
    priceSubtotal := roundCents (line.priceUnit * line.qty * (1 - line.discountPct / 100)) }

def portalCommentRead (c : PortalComment) : PortalCommentPublicRead :=
  { id := c.id
    odooSaleOrderLineId := c.odooSaleOrderLineId
    authorRole := c.authorRole
    body := c.body
    createdAt := c.createdAt }

def portalNegotiationRead (n : NegotiationRequest) : PortalNegotiationRead :=
  { id := n.id
    type := n.type
    status := n.status
    message := n.message
    responseMessage := n.responseMessage
    counterValue := n.counterValue
    createdAt := n.createdAt
    processedAt := n.processedAt }

/-- The statuses in which a confirmation has nothing to do. -/
def alreadyConfirmed (status : DealStatus) : Bool :=
  status ∈ [.confirmed, .invoiced, .paid]

/-- A deal its customer has accepted is under review until it is confirmed. -/
def portalStatus (deal : Deal) : String :=
  if deal.customerConfirmedPending && !alreadyConfirmed deal.status then "UNDER_REVIEW"
  else deal.status.value

def forbiddenPortalKeys : List String :=
  ["cost_price", "cost", "margin_pct", "margin_pct_cache", "margin_amount", "current_risk_score",
    "risk_score", "current_severity", "current_assessment_id", "approved_assessment_id",
    "required_level", "risk_factors", "is_internal", "decided_by_odoo_user_id", "decision_reason",
    "algorithm_notes", "shipping_cost_weight", "warehouse_profile", "tier_ceiling"]

/-- The keys of the view once it is dumped. -/
def portalDealKeys : List String :=
  ["reference", "odoo_sale_order_id", "odoo_order_name", "partner_name", "currency_code", "status",
    "order_discount_pct", "amount_untaxed", "amount_total", "customer_confirmed_pending", "sent_at",
    "confirmed_at", "promised_delivery_date", "lines", "comments", "negotiations"]

theorem portalDealKeys_allowed : ∀ key ∈ portalDealKeys, key ∉ forbiddenPortalKeys := by
  decide +kernel

/-- The assertion on the keys of the view passes, whatever the deal (`portalDealKeys_allowed`). -/
def portalDealRead (db : DealStore) (rawOrder : RawOrder) : PortalDealRead :=
  { reference := db.deal.reference
    odooSaleOrderId := db.deal.odooSaleOrderId
    odooOrderName := db.deal.odooOrderName
    partnerName := db.deal.partnerNameCache
    currencyCode := db.deal.currencyCode
    status := portalStatus db.deal
    orderDiscountPct := db.deal.orderDiscountPct
    amountUntaxed := db.deal.amountUntaxedCache
    amountTotal := db.deal.amountTotalCache
    customerConfirmedPending := db.deal.customerConfirmedPending
    sentAt := db.deal.sentAt
    confirmedAt := db.deal.confirmedAt
    promisedDeliveryDate := db.deal.promisedDeliveryDate
    lines := rawOrder.lines.map portalLineRead
    comments := (listPortalComments false db).map portalCommentRead
    negotiations := (listNegotiationRequests db).map portalNegotiationRead }

/-- The deal as its customer sees it; to others it is not there. -/
def getDealForPortal {σ : Type} (gateway : OdooGateway σ) (customerPartnerId : ℤ) (w : World σ) :
    Except ServiceError PortalDealRead × World σ :=
  if w.db.deal.odooPartnerId ≠ customerPartnerId then
    (.error (.dealflow (entityNotFoundError "Deal" (toString w.db.deal.id))), w)
  else
    match gateway.getSaleOrder w.db.deal.odooSaleOrderId w.odoo with
    | (.error e, odoo) => (.error (.odoo e), { w with odoo })
    | (.ok rawOrder, odoo) => (.ok (portalDealRead w.db rawOrder), { w with odoo })

/-- A deal in the list of its customer. -/
structure PortalDealEntry where
  id : ℕ
  reference : String
  status : DealStatus
  approvalState : ApprovalState
  amountTotal : ℚ
  currencyCode : String
  createdAt : Timestamp
  deriving DecidableEq, Repr

def portalDealEntry (d : Deal) : PortalDealEntry :=
  { id := d.id
    reference := d.reference
    status := d.status
    approvalState := d.approvalState
    amountTotal := d.amountTotalCache
    currencyCode := if d.currencyCode = "" then "INR" else d.currencyCode
    createdAt := d.createdAt }

/-- The deals of a customer, the newest first. -/
def listDealsForPortal (customerPartnerId : ℤ) (deals : List DealStore) : List PortalDealEntry :=
  let own := deals.filter fun db => db.deal.odooPartnerId = customerPartnerId
  (own.insertionSort fun a b => b.deal.createdAt ≤ a.deal.createdAt).map fun db =>
    portalDealEntry db.deal

/-! ## Confirming -/

/-- The audit event of a customer's confirmation. -/
def customerEvent (customerPartnerId : ℤ) (now : Timestamp) (db : DealStore) : AuditEvent :=
  { eventType := .customerConfirmed
    entityType := "deal"
    entityId := toString db.deal.id
    actorType := "CUSTOMER"
    actorId := some customerPartnerId
    createdAt := now }

/-- An approved deal is confirmed in Odoo at once; what the gateway raises is swallowed. -/
def confirmApproved {σ : Type} (gateway : OdooGateway σ) (customerPartnerId : ℤ) (now : Timestamp)
    (w : World σ) : World σ :=
  let odoo := (gateway.confirm w.db.deal.odooSaleOrderId w.odoo).2
  let db := w.db.updateDeal fun d =>
    { d with
      status := .confirmed
      confirmedAt := some now
      customerConfirmedPending := false
      lastActivityAt := now }
  let db := (db.recordAuditEvent (customerEvent customerPartnerId now db)).recordAuditEvent
    { eventType := .orderConfirmed
      entityType := "deal"
      entityId := toString db.deal.id
      actorType := "SYSTEM"
      createdAt := now }
  { db := db.createNotification
      (ownerNotification db.deal "ORDER_CONFIRMED" s!"Deal {db.deal.reference} Confirmed"
        s!"Customer confirmed deal {db.deal.reference} ({db.deal.odooOrderName}). Order is confirmed in Odoo."
        none now)
    odoo }

/-- A deal not yet approved waits for its approval. -/
def acceptPending (customerPartnerId : ℤ) (now : Timestamp) (db : DealStore) : DealStore :=
  let db := db.updateDeal fun d =>
    { d with customerConfirmedPending := true, lastActivityAt := now }
  let db := db.recordAuditEvent (customerEvent customerPartnerId now db)
  db.createNotification
    (ownerNotification db.deal "CUSTOMER_ACCEPTED_PENDING"
      s!"Customer Accepted Quotation {db.deal.reference}"
      s!"Customer accepted quotation {db.deal.reference}. Deal is locked awaiting governance approval before confirmation."
      none now)

/-- The comment a customer leaves with a confirmation. -/
def noteConfirmation (comment : Option String) (now : Timestamp) (db : DealStore) : DealStore :=
  match nonEmpty comment with
  | none => db
  | some text =>
      addPortalComment none 0 .customer s!"Customer Confirmation Note: {text}" false now db

def confirmDealByCustomer {σ : Type} (gateway : OdooGateway σ) (customerPartnerId : ℤ)
    (comment : Option String) (now : Timestamp) (w : World σ) :
    Except ServiceError PortalDealRead × World σ :=
  if w.db.deal.odooPartnerId ≠ customerPartnerId then
    (.error (.dealflow (entityNotFoundError "Deal" (toString w.db.deal.id))), w)
  else if alreadyConfirmed w.db.deal.status = true then getDealForPortal gateway customerPartnerId w
  else
    let confirmed :=
      if w.db.deal.approvalState = .approved then confirmApproved gateway customerPartnerId now w
      else { w with db := acceptPending customerPartnerId now w.db }
    getDealForPortal gateway customerPartnerId
      { confirmed with db := noteConfirmation comment now confirmed.db }

end DealFlow
