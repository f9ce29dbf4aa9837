import DealFlow.Addon.FulfillmentApi
import DealFlow.Addon.Negotiation
import DealFlow.Addon.SalesAdapter

/-!
# The portal controller of the addon

`dealflow_odoo/controllers/portal.py`: a customer looks at a quotation, or makes a counter-offer on
it.  Both look the order up in a superuser environment, and check themselves whose it is.

The names, dates and texts of a quotation, which no check reads, are left out, and so are the event
of an offer and what it posts to the chatter: the controller catches whatever they raise.
-/

namespace DealFlow.Addon

open Lib

structure PortalError where
  code : String
  message : String
  status : ℕ
  deriving DecidableEq, Repr

/-- Odoo's own fields of an order and of its lines, and how Python reads a number in a text. -/
structure PortalFields where
  /-- `order.user_id` by the order's id. -/
  salesperson : ℕ → Option ℕ
  amountUntaxed : List SaleOrderLine → ℚ
  amountTax : List SaleOrderLine → ℚ
  priceSubtotal : SaleOrderLine → ℚ
  floatOfText : String → Option ℚ

/-! ## Values of a request -/

/-- Whether a value counts as true. -/
def JsonValue.truthy : JsonValue → Bool
  | .null => false
  | .bool b => b
  | .number x => x ≠ 0
  | .string s => s ≠ ""
  | .array items => !items.isEmpty
  | .object fields => !fields.isEmpty

/-- `int(value)`, `none` where it raises. -/
def JsonValue.int : JsonValue → Option ℤ
  | .bool b => some (if b then 1 else 0)
  | .number x => some (if 0 ≤ x then ⌊x⌋ else ⌈x⌉)
  | .string s => pythonInt 4300 s.toList
  | _ => none

/-- `float(value)`, `none` where it raises. -/
def JsonValue.float (floatOfText : String → Option ℚ) : JsonValue → Option ℚ
  | .bool b => some (if b then 1 else 0)
  | .number x => some x
  | .string s => floatOfText s
  | _ => none

/-! ## Whose order it is -/

/-- `_validate_order_authorization`. -/
def validateOrderAuthorization (salesperson : Option ℕ) (user : User) (order : SaleOrder) : Bool :=
  if user.hasGroup .user then
    user.hasGroup .dealflowAdmin || user.hasGroup .dealflowSalesManager ||
      user.hasGroup .dealflowFinance ||
      (salesperson.filter (· ≠ 0)).any (· = user.id)
  else mayNegotiate user order

def orderNotFound (orderId : ℤ) : PortalError :=
  { code := "NOT_FOUND", message := s!"Quotation with ID {orderId} not found.", status := 404 }

def portalForbidden (message : String) : PortalError :=
  { code := "AUTHORIZATION_ERROR", message, status := 403 }

def portalInvalid (message : String) : PortalError :=
  { code := "VALIDATION_ERROR", message, status := 400 }

def authenticationRequired (message : String) : PortalError :=
  { code := "AUTHENTICATION_REQUIRED", message, status := 401 }

/-! ## Looking at a quotation -/

structure PortalLine where
  id : ℕ
  productId : Option ℕ
  productName : String
  description : String
  quantity : ℚ
  priceUnit : ℚ
  discount : ℚ
  priceSubtotal : ℚ
  deriving DecidableEq, Repr

structure PortalNegotiation where
  id : ℕ
  status : NegotiationStatus
  requestedDiscount : ℚ
  originalAmount : ℚ
  proposedAmount : ℚ
  submittedAt : ℤ
  reviewNote : Option String
  deriving DecidableEq, Repr

structure PortalDealView where
  orderId : ℕ
  name : String
  state : OrderState
  customerId : ℕ
  amountUntaxed : ℚ
  amountTax : ℚ
  amountTotal : ℚ
  dealflowApprovalState : AddonApprovalState
  dealflowLocked : Bool
  lines : List PortalLine
  negotiations : List PortalNegotiation
  deriving DecidableEq, Repr

/-- The negotiations on an order, with their ids. -/
def Db.negotiationsOn (db : Db) (orderId : ℕ) : List (ℕ × DealFlowNegotiation) :=
  db.negotiations.entries.filter fun entry => entry.2.saleOrderId = orderId

section View

variable (base : BaseOdoo) (fields : PortalFields)

def portalLine (entry : ℕ × SaleOrderLine) : PortalLine :=
  { id := entry.1
    productId := entry.2.productId.map (·.id)
    productName := (entry.2.productId.map (·.name)).getD entry.2.name
    description := entry.2.name
    quantity := entry.2.productUomQty
    priceUnit := entry.2.priceUnit
    discount := entry.2.discount
    priceSubtotal := fields.priceSubtotal entry.2 }

/-- The reviewer's note is for negotiations that are decided. -/
def portalNegotiation (entry : ℕ × DealFlowNegotiation) : PortalNegotiation :=
  { id := entry.1
    status := entry.2.status
    requestedDiscount := entry.2.requestedDiscount
    originalAmount := entry.2.originalAmount
    proposedAmount := entry.2.proposedAmount
    submittedAt := entry.2.submittedAt
    reviewNote := if entry.2.status.decided then entry.2.reviewNote else none }

/-- The payload: negotiations newest first, those of one moment by their ids. -/
def portalDealView (orderId : ℕ) (order : SaleOrder) (db : Db) : PortalDealView :=
  let lines := db.orderLine orderId
  { orderId
    name := order.name
    state := order.state
    customerId := order.partner.id
    amountUntaxed := fields.amountUntaxed (lines.map (·.2))
    amountTax := fields.amountTax (lines.map (·.2))
    amountTotal := base.amountTotal (lines.map (·.2))
    dealflowApprovalState := order.dealflowApprovalState
    dealflowLocked := order.dealflowLocked
    lines := lines.map (portalLine fields)
    negotiations :=
      ((db.negotiationsOn orderId).insertionSort fun a b => b.2.submittedAt ≤ a.2.submittedAt).map
        portalNegotiation }

/-- `portal_get_deal`. -/
def portalGetDeal (user : Option User) (orderId : ℤ) (db : Db) :
    Except PortalError PortalDealView :=
  match user with
  | none => .error (authenticationRequired "Authentication required to view this quotation.")
  | some user =>
      match db.browse orderId with
      | none => .error (orderNotFound orderId)
      | some order =>
          if validateOrderAuthorization (fields.salesperson orderId.toNat) user order = false then
            .error (portalForbidden
              "Forbidden: You do not have permission to access this quotation.")
          else .ok (portalDealView base fields orderId.toNat order db)

/-! ## Making a counter-offer -/

structure PortalNegotiationReply where
  negotiation : PortalNegotiation
  saleOrderId : ℕ
  saleOrderName : String
  saleOrderApprovalState : AddonApprovalState
  saleOrderLocked : Bool
  deriving DecidableEq, Repr

/-- What the controller makes of the amount that is proposed: one that is no number, negative or
more than the quotation counts for nothing. -/
def proposedAmount (original calculated : ℚ) (proposed : Option JsonValue) : ℚ :=
  match proposed with
  | none | some .null => calculated
  | some value =>
      match value.float fields.floatOfText with
      | none => calculated
      | some amount => if amount < 0 ∨ original < amount then calculated else amount

/-- The values of the negotiation that an offer creates. -/
def offerVals (orderId : ℕ) (original requestedDiscount : ℚ) (proposed : Option JsonValue) :
    NegotiationVals :=
  let calculated := roundTo 2 (original * max 0 (1 - requestedDiscount / 100))
  { saleOrderId := some orderId
    requestedDiscount := some requestedDiscount
    originalAmount := some original
    proposedAmount := some (proposedAmount fields original calculated proposed)
    status := some .submitted }

/-- The order that an offer names, if it is the user's to negotiate on. -/
def offeredOrder (user : User) (data : List (String × JsonValue)) (db : Db) :
    Except PortalError (ℕ × SaleOrder) :=
  match (data.lookup "order_id").filter (·.truthy) with
  | none => .error (portalInvalid "Missing required parameter: order_id")
  | some value =>
      match value.int with
      | none => .error (portalInvalid "Parameter order_id must be a valid integer.")
      | some orderId =>
          match db.browse orderId with
          | none => .error (orderNotFound orderId)
          | some order =>
              if validateOrderAuthorization (fields.salesperson orderId.toNat) user order = false
              then .error (portalForbidden
                "Forbidden: You do not have permission to negotiate on this quotation.")
              else .ok (orderId.toNat, order)

/-- The discount that an offer asks for. -/
def offeredDiscount (data : List (String × JsonValue)) : Except PortalError ℚ :=
  match ((data.lookup "requested_discount").getD (.number 0)).float fields.floatOfText with
  | none => .error (portalInvalid "requested_discount must be a valid float percentage.")
  | some discount =>
      if discount < 0 ∨ 100 < discount then
        .error (portalInvalid "requested_discount must be between 0.0% and 100.0%.")
      else .ok discount

/-- The values of an offer, once it has passed all checks. -/
def checkedOffer (user : User) (data : List (String × JsonValue)) (db : Db) :
    Except PortalError (ℕ × NegotiationVals) := do
  let (orderId, order) ← offeredOrder fields user data db
  require (order.state ≠ .cancel ∧ order.state ≠ .done)
    { code := "INVALID_STATE"
      message := s!"Cannot negotiate quotation in '{order.state.value}' state."
      status := 400 }
  let discount ← offeredDiscount fields data
  let original := base.amountTotal ((db.orderLine orderId).map (·.2))
  .ok (orderId, offerVals fields orderId original discount (data.lookup "proposed_amount"))

/-- The reply to an offer, with the order as it is now. -/
def offerReply (orderId negotiationId : ℕ) (after : Db) : Option PortalNegotiationReply := do
  let order ← after.orders.row orderId
  let rec ← after.negotiations.row negotiationId
  some
    { negotiation := portalNegotiation (negotiationId, rec)
      saleOrderId := orderId
      saleOrderName := order.name
      saleOrderApprovalState := order.dealflowApprovalState
      saleOrderLocked := order.dealflowLocked }

/-- `portal_submit_negotiation`. -/
def portalSubmitNegotiation (user : Option User) (data : List (String × JsonValue)) (now : ℤ)
    (db : Db) : Except PortalError (Option PortalNegotiationReply) × Db :=
  match user with
  | none => (.error (authenticationRequired "Authentication required to submit negotiation."), db)
  | some user =>
      if data.isEmpty then (.error (portalInvalid "Request payload cannot be empty."), db)
      else
        match checkedOffer base fields user data db with
        | .error e => (.error e, db)
        | .ok (orderId, vals) =>
            match createNegotiations base ({ user, now } : Env).sudo [vals] db with
            | .error e =>
                (.error
                  { code := "NEGOTIATION_CREATION_FAILED"
                    message := s!"Failed to submit negotiation request: {e.message}"
                    status := 500 }, db)
            | .ok after => (.ok (offerReply orderId db.negotiations.next after), after)

end View

/-! ## Calls -/

inductive PortalCallRequest
  | getDeal (orderId : ℤ)
  | negotiate (data : List (String × JsonValue))

/-- A request to the controller, and when it comes in. -/
structure PortalCall where
  user : Option User
  now : ℤ := 0
  request : PortalCallRequest

inductive PortalCallReply
  | deal (view : PortalDealView)
  | negotiation (reply : Option PortalNegotiationReply)

def servePortalCall (base : BaseOdoo) (fields : PortalFields) (call : PortalCall) (db : Db) :
    Except PortalError PortalCallReply × Db :=
  match call.request with
  | .getDeal orderId => ((portalGetDeal base fields call.user orderId db).map .deal, db)
  | .negotiate data =>
      let served := portalSubmitNegotiation base fields call.user data call.now db
      (served.1.map .negotiation, served.2)

def portalCallStep (base : BaseOdoo) (fields : PortalFields) (call : PortalCall) (db : Db) : Db :=
  (servePortalCall base fields call db).2

end DealFlow.Addon
