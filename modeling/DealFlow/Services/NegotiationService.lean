import DealFlow.Services.DealService
import Mathlib.Data.List.Sort

/-!
# Negotiations

`app/services/negotiation_service.py`: a customer submits a request on a quotation; a sales rep
accepts it, which applies its changes to the order and evaluates the deal again, or turns it down,
or counters it.
-/

namespace DealFlow

/-- A string the source tests for truth. -/
def nonEmpty (text : Option String) : Option String :=
  text.filter (· ≠ "")

/-- An id the source tests for truth. -/
def nonZero (id : Option ℤ) : Option ℤ :=
  id.filter (· ≠ 0)

structure PortalNegotiationSubmit where
  type : Option String := none
  requestType : Option String := none
  message : Option String := none
  counterValue : Option ℚ := none
  odooSaleOrderLineId : Option ℤ := none
  odooLineId : Option ℤ := none
  requestedQty : Option ℚ := none
  requestedProductId : Option ℤ := none
  deriving DecidableEq, Repr

namespace PortalNegotiationSubmit

def resolvedType (p : PortalNegotiationSubmit) : String :=
  ((nonEmpty p.type).or (nonEmpty p.requestType)).getD "COMMENT"

def resolvedLineId (p : PortalNegotiationSubmit) : Option ℤ :=
  (nonZero p.odooSaleOrderLineId).or p.odooLineId

/-- The change a request records.  Removing and adding a line look at the type as it was given. -/
def change (p : PortalNegotiationSubmit) : List NegotiationChange :=
  if p.resolvedType = NegotiationRequestType.qtyChange.value then
    [{ odooSaleOrderLineId := p.resolvedLineId, fieldName := .productUomQty
       requestedValue := p.requestedQty }]
  else if p.resolvedType = NegotiationRequestType.counterDiscount.value then
    [{ odooSaleOrderLineId := p.resolvedLineId, fieldName := .discount
       requestedValue := p.counterValue }]
  else if p.type = some NegotiationRequestType.removeLine.value then
    [{ odooSaleOrderLineId := p.odooSaleOrderLineId, fieldName := .removeLine
       requestedValue := none }]
  else if p.type = some NegotiationRequestType.addLine.value then
    [{ odooSaleOrderLineId := none, fieldName := .addProduct
       requestedValue := p.requestedProductId.map fun id => (id : ℚ) }]
  else []

end PortalNegotiationSubmit

/-- Prints like `{value}` in the source. -/
def shownType (type : Option String) : String :=
  type.getD "None"

def submitNegotiationRequest (customerPartnerId actorUserId : ℤ)
    (payload : PortalNegotiationSubmit) (now : Timestamp) (db : DealStore) :
    Except DealFlowException NegotiationRequest × DealStore :=
  if db.deal.odooPartnerId ≠ customerPartnerId then
    (.error (entityNotFoundError "Deal" (toString db.deal.id)), db)
  else if db.deal.status ∈ [.confirmed, .cancelled, .expired] then
    (.error (businessRuleError "DEAL_CLOSED"
      s!"Cannot negotiate on quotation in {db.deal.status.value} status."), db)
  else
    let req : NegotiationRequest :=
      { id := db.nextId
        customerPartnerId
        requestedByOdooUserId := actorUserId
        type := payload.resolvedType
        status := .open
        message := payload.message
        basedOnAssessmentId := db.deal.currentAssessmentId
        createdAt := now
        counterValue := payload.counterValue
        changes := payload.change }
    let stored : DealStore :=
      { db with negotiations := db.negotiations ++ [req], nextId := db.nextId + 1 }
    let received := (stored.updateDeal fun d =>
      { d with status := .underNegotiation, lastActivityAt := now }).recordAuditEvent
      { eventType := .negotiationReceived
        entityType := "negotiation_request"
        entityId := toString req.id
        actorType := "CUSTOMER"
        actorId := some customerPartnerId
        createdAt := now }
    let message := payload.message.getD ""
    (.ok req, received.createNotification
      (ownerNotification received.deal "NEGOTIATION_RECEIVED"
        s!"Negotiation on Deal {received.deal.reference}"
        s!"Customer submitted {shownType payload.type}: {message}" none now))

/-! ## Responding -/

inductive NegotiationAction
  | accept | reject | counter
  | other (name : String)
  deriving DecidableEq, Repr

/-- Apply one accepted change to the order. -/
def applyChange {σ : Type} (gateway : OdooGateway σ) (orderId : ℤ) (chg : NegotiationChange) :
    OdooCall σ Unit := fun odoo =>
  match chg.fieldName, nonZero chg.odooSaleOrderLineId, chg.requestedValue with
  | .productUomQty, some lineId, some value =>
      gateway.applyLineChanges orderId [{ lineId, qty := some value }] odoo
  | .removeLine, some lineId, _ =>
      gateway.applyLineChanges orderId [{ lineId, qty := some 0 }] odoo
  | .addProduct, _, some value =>
      match gateway.addLine orderId (truncDec value) 1 0 odoo with
      | (.error e, odoo') => (.error e, odoo')
      | (.ok _, odoo') => (.ok (), odoo')
  | .discount, some lineId, some value =>
      gateway.applyLineChanges orderId [{ lineId, discount := some value }] odoo
  | .discount, none, some value =>
      -- without a line the discount goes to every line
      match gateway.getSaleOrder orderId odoo with
      | (.error e, odoo') => (.error e, odoo')
      | (.ok raw, odoo') =>
          if raw.lines = [] then (.ok (), odoo')
          else
            gateway.applyLineChanges orderId
              (raw.lines.map fun l => { lineId := l.id, discount := some value }) odoo'
  | _, _, _ => (.ok (), odoo)

def applyChanges {σ : Type} (gateway : OdooGateway σ) (orderId : ℤ) :
    List NegotiationChange → OdooCall σ Unit
  | [], odoo => (.ok (), odoo)
  | chg :: changes, odoo =>
      match applyChange gateway orderId chg odoo with
      | (.error e, odoo') => (.error e, odoo')
      | (.ok (), odoo') => applyChanges gateway orderId changes odoo'

/-- Rewrite the row of one negotiation. -/
def updateNegotiation (db : DealStore) (requestId : ℕ)
    (f : NegotiationRequest → NegotiationRequest) : DealStore :=
  { db with negotiations := db.negotiations.map fun n => if n.id = requestId then f n else n }

/-- The end of every response: the deal takes its status and the response is recorded. -/
def closeResponse (requestId : ℕ) (actor : DealflowUser) (now : Timestamp)
    (status : Option DealStatus) (db : DealStore) : DealStore :=
  (db.updateDeal fun d =>
    { d with status := status.getD d.status, lastActivityAt := now }).recordAuditEvent
    { eventType := .negotiationResponded
      entityType := "negotiation_request"
      entityId := toString requestId
      actorType := "USER"
      actorId := some actor.odooUserId
      actorRole := some actor.role
      createdAt := now }

/-- The rest of an acceptance, once the deal has been evaluated. -/
def finishAcceptance {σ : Type} (req : NegotiationRequest) (actor : DealflowUser)
    (now : Timestamp) :
    Except DealFlowException EvaluationResponse × World σ → Except ServiceError Unit × World σ
  | (.error e, w) => (.error (.dealflow e), w)
  | (.ok response, w) =>
      let applied := updateNegotiation w.db req.id fun n =>
        { n with appliedAssessmentId := some response.riskAssessment.id }
      (.ok (), { w with db := closeResponse req.id actor now (some .sent) applied })

/-- Accept: apply the changes, sync and evaluate.  What the gateway has written stays written when
a later step raises. -/
def acceptNegotiation {σ : Type} (gateway : OdooGateway σ) (req : NegotiationRequest)
    (actor : DealflowUser) (tables : PolicyTables) (now : Timestamp) (answered : DealStore)
    (w : World σ) : Except ServiceError Unit × World σ :=
  let accepted := updateNegotiation answered req.id fun n => { n with status := .accepted }
  match applyChanges gateway w.db.deal.odooSaleOrderId req.changes w.odoo with
  | (.error e, odoo) => (.error (.odoo e), { w with odoo })
  | (.ok (), odoo) =>
      finishAcceptance req actor now
        (syncAndEvaluate gateway
          { tables
            triggerType := .negotiationAccepted
            actorId := some actor.odooUserId
            actorRole := some actor.role
            now }
          w.db { db := accepted, odoo })

def respondNegotiationRequest {σ : Type} (gateway : OdooGateway σ) (requestId : ℕ)
    (actor : DealflowUser) (action : NegotiationAction) (responseMessage : Option String)
    (counterValue : Option ℚ) (tables : PolicyTables) (now : Timestamp) (w : World σ) :
    Except ServiceError Unit × World σ :=
  match w.db.negotiations.find? fun n => n.id = requestId with
  | none =>
      (.error (.dealflow (entityNotFoundError "NegotiationRequest" (toString requestId))), w)
  | some req =>
      if req.status ≠ .open then
        (.error (.dealflow (businessRuleError "NEGOTIATION_NOT_OPEN"
          s!"Negotiation request is not open (current status: {req.status.value}).")), w)
      else
        let answered := updateNegotiation w.db req.id fun n =>
          { n with
            processedAt := some now
            processedByOdooUserId := some actor.odooUserId
            responseMessage }
        match action with
        | .accept => acceptNegotiation gateway req actor tables now answered w
        | .reject =>
            let rejected :=
              updateNegotiation answered req.id fun n => { n with status := .rejected }
            (.ok (), { w with db := closeResponse req.id actor now (some .sent) rejected })
        | .counter =>
            let countered := updateNegotiation answered req.id fun n =>
              { n with status := .countered, counterValue }
            (.ok (),
              { w with db := closeResponse req.id actor now (some .underNegotiation) countered })
        | .other _ => (.ok (), { w with db := closeResponse req.id actor now none answered })

/-- The newest first. -/
def listNegotiationRequests (db : DealStore) : List NegotiationRequest :=
  db.negotiations.insertionSort fun n m => m.createdAt ≤ n.createdAt

/-! ## Comments -/

/-- A new comment; a customer's is never internal.  Its id differs from those of the comments there
are, as none is ever deleted. -/
def newPortalComment (odooSaleOrderLineId : Option ℤ) (authorOdooUserId : ℤ) (authorRole : Role)
    (body : String) (isInternal : Bool) (now : Timestamp) (db : DealStore) : PortalComment :=
  { id := db.comments.length
    odooSaleOrderLineId
    authorOdooUserId
    authorRole
    body
    isInternal := if authorRole = .customer then false else isInternal
    createdAt := now }

def addPortalComment (odooSaleOrderLineId : Option ℤ) (authorOdooUserId : ℤ) (authorRole : Role)
    (body : String) (isInternal : Bool) (now : Timestamp) (db : DealStore) : DealStore :=
  { db with
    comments := db.comments ++
      [newPortalComment odooSaleOrderLineId authorOdooUserId authorRole body isInternal now db]
    deal := { db.deal with lastActivityAt := now } }

/-- The oldest first. -/
def listPortalComments (includeInternal : Bool) (db : DealStore) : List PortalComment :=
  let comments :=
    if includeInternal then db.comments else db.comments.filter fun c => !c.isInternal
  comments.insertionSort fun c d => c.createdAt ≤ d.createdAt

end DealFlow
