import DealFlow.Guardian.Evaluator
import DealFlow.Odoo.Interface

/-!
# Deals and their order

`app/services/deal_service.py`: a deal caches figures of its order, refreshed by a sync.  Also here
are `send` and `record_invoice_payment` of `app/api/v1/endpoints/deals.py`.  A payment's invoice is
named by its id alone, and the amount is passed on as it is.
-/

namespace DealFlow

/-- What a service raises: an exception of its own, or one of the gateway's it does not catch. -/
inductive ServiceError
  | dealflow (e : DealFlowException)
  | odoo (e : OdooError)
  deriving DecidableEq, Repr

/-- The deal with the figures of a context. -/
def syncedDeal (ctx : DealContext) (now : Timestamp) (d : Deal) : Deal :=
  { d with
    version := d.version + 1
    partnerNameCache := ctx.partnerName
    orderDiscountPct := ctx.blendedDiscountPct
    amountTotalCache := ctx.amountTotal
    amountUntaxedCache := ctx.amountUntaxed
    marginPctCache := ctx.totalMarginPct
    oneTimeTotalCache := ctx.oneTimeTotal
    recurringFirstCycleTotalCache := ctx.recurringFirstCycleTotal
    promisedDeliveryDate := ctx.deliveryDate.or d.promisedDeliveryDate
    lastSyncedAt := now
    lastActivityAt := now }

/-- Who a sync is made for. -/
structure SyncActor where
  actorId : Option ℤ := none
  actorRole : Option Role := none
  deriving DecidableEq, Repr

/-- Refresh the deal from its order.  The refreshed deal is committed before the audit event is
written; the result is the store as committed. -/
def syncDealFromOdoo {σ : Type} (gateway : OdooGateway σ) (tables : PolicyTables)
    (expectedVersion : Option ℤ) (actor : SyncActor) (now : Timestamp) (w : World σ) :
    Except DealFlowException DealStore × World σ :=
  match buildDealContext gateway tables w.db.deal.odooSaleOrderId w.odoo with
  | (.error e, odoo) => (.error e, { w with odoo })
  | (.ok ctx, odoo) =>
      match expectedVersion.filter fun version => w.db.deal.version ≠ version with
      | some version => (.error (versionConflictError w.db.deal.version version), { w with odoo })
      | none =>
          let committed := w.db.updateDeal (syncedDeal ctx now)
          (.ok committed,
            { db := committed.recordAuditEvent
                { eventType := .dealSynced
                  entityType := "deal"
                  entityId := toString committed.deal.id
                  actorType := if actor.actorId.any (· ≠ 0) then "USER" else "SYSTEM"
                  actorId := actor.actorId
                  actorRole := actor.actorRole
                  createdAt := now }
              odoo })

/-- Sync the deal, then evaluate it.  A sync that raises is rolled back to `before`; when the
evaluation raises, the sync stays committed. -/
def syncAndEvaluate {σ : Type} (gateway : OdooGateway σ) (args : EvaluateArgs) (before : DealStore)
    (w : World σ) : Except DealFlowException EvaluationResponse × World σ :=
  match syncDealFromOdoo gateway args.tables none
      { actorId := args.actorId, actorRole := args.actorRole } args.now w with
  | (.error e, w') => (.error e, { w' with db := before })
  | (.ok committed, w') =>
      match evaluateDeal gateway args w' with
      | (.error e, w'') => (.error e, { w'' with db := committed })
      | (.ok response, w'') => (.ok response, w'')

/-- Mark the quotation as sent, whatever its state. -/
def sendDeal (currentUser : DealflowUser) (now : Timestamp) (db : DealStore) : DealStore :=
  (db.updateDeal fun d =>
    { d with status := .sent, sentAt := some now, lastActivityAt := now }).recordAuditEvent
    { eventType := .orderSent
      entityType := "deal"
      entityId := toString db.deal.id
      actorType := "USER"
      actorId := some currentUser.odooUserId
      actorRole := some currentUser.role
      createdAt := now }

/-! ## Payments -/

def recordInvoicePayment {σ : Type} (gateway : BackOfficeGateway σ) (invId : ℤ) (amount : ℚ)
    (currentUser : DealflowUser) (now : Timestamp) (w : World σ) :
    Except ServiceError PaymentRecord × World σ :=
  match gateway.registerPayment invId amount w.odoo with
  | (.error e, odoo) => (.error (.odoo e), { w with odoo })
  | (.ok res, odoo) =>
      (.ok res,
        { db := w.db.recordAuditEvent
            { eventType := .paymentReceived
              entityType := "invoice"
              entityId := toString invId
              actorType := "USER"
              actorId := some currentUser.odooUserId
              actorRole := some currentUser.role
              createdAt := now }
          odoo })

end DealFlow
