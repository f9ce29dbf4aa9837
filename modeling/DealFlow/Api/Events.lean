import DealFlow.Models.Store
import Mathlib.Data.List.Infix

/-!
# Inbound webhooks

`handle_odoo_inbound_event` of `app/api/v1/endpoints/events.py`.  First its effect on the deal, for
a request that passed the signature check: an event on the deal's order marks the deal as cancelled
or as synced.  It does not read the order.

Then the whole handler over all deals, statement by statement, in the session that `get_db` of
`app/core/deps.py` opens for the request.  It reads the event id and the deal first; what it writes
after that it commits at its end.  A raise on the way, of the signature check or of any statement,
lets the session roll back.  A delivery carries the time its handling reads off the clock.
-/

namespace DealFlow

structure OdooEventPayload where
  eventId : String
  eventType : String
  model : Option String := none
  recordId : Option ℤ := none
  orderId : Option ℤ := none
  deriving DecidableEq, Repr

namespace OdooEventPayload

def resolvedRecordId (p : OdooEventPayload) : ℤ :=
  ((p.recordId.filter (· ≠ 0)).or (p.orderId.filter (· ≠ 0))).getD 0

def resolvedModel (p : OdooEventPayload) : String :=
  (p.model.filter (· ≠ "")).getD "sale.order"

/-- `"cancel" in event_type.lower()`. -/
def isCancel (p : OdooEventPayload) : Bool :=
  decide ("cancel".toList <:+: p.eventType.toLower.toList)

end OdooEventPayload

/-- What an event does to the deal of the order it is about. -/
def dispatchEvent (payload : OdooEventPayload) (now : Timestamp) (db : DealStore) : DealStore :=
  if payload.isCancel = true then
    (db.updateDeal fun d => { d with status := .cancelled, lastActivityAt := now }).recordAuditEvent
      { eventType := .orderConfirmed
        entityType := "deal"
        entityId := toString db.deal.id
        actorType := "SYSTEM"
        sourceEventId := some payload.eventId
        createdAt := now }
  else
    (db.updateDeal fun d => { d with lastSyncedAt := now }).recordAuditEvent
      { eventType := .dealSynced
        entityType := "deal"
        entityId := toString db.deal.id
        actorType := "SYSTEM"
        sourceEventId := some payload.eventId
        createdAt := now }

/-- An event id is processed once. -/
def handleOdooInboundEvent (payload : OdooEventPayload) (now : Timestamp) (db : DealStore) :
    DealStore :=
  if payload.eventId ∈ db.processedEvents then db
  else
    let registered : DealStore :=
      { db with processedEvents := db.processedEvents ++ [payload.eventId] }
    if payload.resolvedModel = "sale.order" ∧
        payload.resolvedRecordId = db.deal.odooSaleOrderId then
      dispatchEvent payload now registered
    else registered

/-! ## Deliveries as transactions -/

structure ProcessedEvent where
  eventId : String
  source : String := "ODOO"
  eventType : String
  dealId : Option ℕ := none
  receivedAt : Timestamp
  processedAt : Timestamp
  result : String
  deriving DecidableEq, Repr

/-- A row of the audit table, with the deal it is about. -/
structure DealAudit where
  dealId : ℕ
  reason : String
  event : AuditEvent
  deriving DecidableEq, Repr

structure EventDb where
  deals : List Deal
  auditEvents : List DealAudit := []
  processedEvents : List ProcessedEvent := []
  deriving DecidableEq, Repr

namespace EventDb

/-- The deal of an order. -/
def findDeal (db : EventDb) (orderId : ℤ) : Option Deal :=
  db.deals.find? fun d => d.odooSaleOrderId = orderId

def updateDeal (db : EventDb) (dealId : ℕ) (f : Deal → Deal) : EventDb :=
  { db with deals := db.deals.map fun d => if d.id = dealId then f d else d }

def updateProcessed (db : EventDb) (eventId : String) (f : ProcessedEvent → ProcessedEvent) :
    EventDb :=
  { db with
    processedEvents := db.processedEvents.map fun e => if e.eventId = eventId then f e else e }

/-- `audit_service.record_audit_event` for a deal. -/
def recordAuditEvent (db : EventDb) (row : DealAudit) : EventDb :=
  { db.updateDeal row.dealId fun d => { d with lastActivityAt := row.event.createdAt } with
    auditEvents := db.auditEvents ++ [row] }

/-- The event id has been recorded. -/
def processed (db : EventDb) (eventId : String) : Prop :=
  eventId ∈ db.processedEvents.map (·.eventId)

instance (db : EventDb) (eventId : String) : Decidable (db.processed eventId) :=
  inferInstanceAs (Decidable (eventId ∈ _))

end EventDb

/-! ### The handler -/

def registration (payload : OdooEventPayload) (now : Timestamp) : ProcessedEvent :=
  { eventId := payload.eventId
    eventType := payload.eventType
    receivedAt := now
    processedAt := now
    result := "PROCESSING" }

def webhookAudit (payload : OdooEventPayload) (eventType : AuditEventType) (reason : String)
    (deal : Deal) (now : Timestamp) : DealAudit :=
  { dealId := deal.id
    reason
    event :=
      { eventType
        entityType := "deal"
        entityId := toString deal.id
        actorType := "SYSTEM"
        sourceEventId := some payload.eventId
        createdAt := now } }

/-- The statements about the deal of the order an event is on. -/
def dispatchStatements (payload : OdooEventPayload) (now : Timestamp) (deal : Deal) :
    List (EventDb → EventDb) :=
  let target := payload.resolvedRecordId
  if payload.isCancel = true then
    [(·.updateDeal deal.id fun d => { d with status := .cancelled }),
     (·.updateDeal deal.id fun d => { d with lastActivityAt := now }),
     (·.recordAuditEvent
       (webhookAudit payload .orderConfirmed s!"Order {target} cancelled in Odoo" deal now))]
  else
    [(·.updateDeal deal.id fun d => { d with lastSyncedAt := now }),
     (·.recordAuditEvent
       (webhookAudit payload .dealSynced s!"Webhook sync for order {target}" deal now))]

/-- What `handle_odoo_inbound_event` writes before its commit, by what it reads at its start. -/
def handlerStatements (payload : OdooEventPayload) (now : Timestamp) (db : EventDb) :
    List (EventDb → EventDb) :=
  if db.processed payload.eventId then []
  else
    let deal := db.findDeal payload.resolvedRecordId
    let registered : List (EventDb → EventDb) :=
      [fun db => { db with processedEvents := db.processedEvents ++ [registration payload now] }]
    let linked : List (EventDb → EventDb) := deal.elim [] fun d =>
      [(·.updateProcessed payload.eventId fun e => { e with dealId := some d.id })]
    let dispatched : List (EventDb → EventDb) :=
      if payload.resolvedModel = "sale.order" then deal.elim [] (dispatchStatements payload now)
      else []
    let finished : List (EventDb → EventDb) :=
      [(·.updateProcessed payload.eventId fun e =>
        { e with result := "PROCESSED", processedAt := now })]
    registered ++ linked ++ dispatched ++ finished

/-! ### The session -/

/-- What is committed, and what the session works on. -/
structure WebhookSession where
  stored : EventDb
  working : EventDb

def WebhookSession.opened (db : EventDb) : WebhookSession :=
  { stored := db, working := db }

def WebhookSession.execute (statements : List (EventDb → EventDb)) (s : WebhookSession) :
    WebhookSession :=
  { s with working := statements.foldl (fun db statement => statement db) s.working }

def WebhookSession.commit (s : WebhookSession) : WebhookSession :=
  { s with stored := s.working }

def WebhookSession.rollback (s : WebhookSession) : WebhookSession :=
  { s with working := s.stored }

/-- A delivery, the time of its handling, and after how many statements this raises before its
commit comes through, where it does. -/
structure WebhookDelivery where
  payload : OdooEventPayload
  now : Timestamp
  raisesAfter : Option ℕ := none
  deriving DecidableEq, Repr

/-- The request of a delivery, from the session's opening to its end. -/
def WebhookDelivery.session (d : WebhookDelivery) (db : EventDb) : WebhookSession :=
  let statements := handlerStatements d.payload d.now db
  match d.raisesAfter with
  | none => ((WebhookSession.opened db).execute statements).commit
  | some k => ((WebhookSession.opened db).execute (statements.take k)).rollback

def WebhookDelivery.handle (d : WebhookDelivery) (db : EventDb) : EventDb :=
  (d.session db).stored

end DealFlow
