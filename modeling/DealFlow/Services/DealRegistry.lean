import DealFlow.Guardian.Health
import DealFlow.Lib.Dict
import DealFlow.Lib.Like
import DealFlow.Lib.Ordered
import DealFlow.Services.DealService

/-!
# The deals of all orders

`get_next_sequence` of `app/services/number_sequence_service.py`, and of
`app/services/deal_service.py` how an order gets its deal, `patch_deal` and `list_deals`, with
`paginate_query` of `app/core/pagination.py`.

A sync works in the transaction of its session.  It reads the deal of the order; where there is none
it reads the row of the sequence, which locks the row until the transaction ends, and inserts a deal
with the next reference.  `RegistryWorld` is what has been committed together with the transactions
that are open, and its steps interleave them in any way.  A sync of a deal that is there writes the
columns whose values it changes.  The audit event of a sync goes with its commit.
-/

namespace DealFlow

open Lib

/-- A row of the table of deals, with the columns that `Deal` leaves out. -/
structure DealRecord where
  deal : Deal
  tierCode : Option String := none
  salesTeamOdooId : Option ℤ := none
  odooCompanyId : ℤ := 1
  healthStatus : HealthStatus := .healthy
  deriving DecidableEq, Repr

inductive RegistryEventType
  | dealCreated | dealSynced | lineChanged
  deriving DecidableEq, Repr

structure RegistryEvent where
  eventType : RegistryEventType
  dealId : ℕ
  actorType : String
  actorId : Option ℤ
  actorRole : Option Role
  reason : String
  createdAt : Timestamp
  deriving DecidableEq, Repr

structure RegistryDb where
  deals : List DealRecord := []
  sequences : Dict String ℕ := .empty
  auditEvents : List RegistryEvent := []

namespace RegistryDb

/-- The deal of an order. -/
def findOrder (db : RegistryDb) (orderId : ℤ) : Option DealRecord :=
  db.deals.find? fun r => r.deal.odooSaleOrderId = orderId

def updateDeal (db : RegistryDb) (dealId : ℕ) (f : DealRecord → DealRecord) : RegistryDb :=
  { db with deals := db.deals.map fun r => if r.deal.id = dealId then f r else r }

/-- `audit_service.record_audit_event` for a deal. -/
def recordAuditEvent (db : RegistryDb) (event : RegistryEvent) : RegistryDb :=
  { db.updateDeal event.dealId fun r =>
      { r with deal := { r.deal with lastActivityAt := event.createdAt } } with
    auditEvents := db.auditEvents ++ [event] }

end RegistryDb

def registryEvent (eventType : RegistryEventType) (dealId : ℕ) (actor : SyncActor)
    (reason : String) (now : Timestamp) : RegistryEvent :=
  { eventType
    dealId
    actorType := if actor.actorId.any (· ≠ 0) then "USER" else "SYSTEM"
    actorId := actor.actorId
    actorRole := actor.actorRole
    reason
    createdAt := now }

/-! ## Syncs as transactions -/

/-- What a sync has read of the sequence. -/
inductive SequenceRead
  | unread
  /-- The row is not there. -/
  | absent
  /-- The row has this value, and the transaction holds its lock. -/
  | locked (value : ℕ)
  deriving DecidableEq, Repr

/-- A sync under way: the deal it has read, the context of the order, and the sequence. -/
structure DealSync where
  found : Option DealRecord
  ctx : DealContext
  actor : SyncActor
  sequence : SequenceRead := .unread
  deriving DecidableEq, Repr

structure RegistryWorld where
  db : RegistryDb := {}
  /-- The syncs under way, by session. -/
  syncs : ℕ → Option DealSync := fun _ => none
  /-- Who holds the lock of the row of the sequence. -/
  lock : Option ℕ := none

/-- A sequence starts here. -/
def firstSequenceValue : ℕ := 1001

/-- The reference with a value of a sequence. -/
def sequenceReference (refPrefix : String) (value : ℕ) : String :=
  s!"{refPrefix}-{value}"

/-- The deal of an order that had none. -/
def createdDeal (ctx : DealContext) (reference : String) (id : ℕ) (now : Timestamp) : DealRecord :=
  { deal :=
      { id
        reference
        odooSaleOrderId := ctx.odooSaleOrderId
        odooOrderName := ctx.odooOrderName
        odooPartnerId := ctx.partnerId
        partnerNameCache := ctx.partnerName
        ownerOdooUserId := ctx.userId
        currencyCode := ctx.currencyCode
        orderDiscountPct := ctx.blendedDiscountPct
        amountTotalCache := ctx.amountTotal
        amountUntaxedCache := ctx.amountUntaxed
        marginPctCache := ctx.totalMarginPct
        oneTimeTotalCache := ctx.oneTimeTotal
        recurringFirstCycleTotalCache := ctx.recurringFirstCycleTotal
        promisedDeliveryDate := ctx.deliveryDate
        createdAt := now
        lastActivityAt := now
        lastSyncedAt := now }
    tierCode := some ctx.tierCode
    salesTeamOdooId := ctx.teamId
    odooCompanyId := ctx.companyId }

/-- A column after a commit that writes a value over the one it has read. -/
def written {α : Type} [DecidableEq α] (read value current : α) : α :=
  if value = read then current else value

/-- The row of a deal after the commit of a sync that has read it. -/
def committedDeal (read : Deal) (ctx : DealContext) (now : Timestamp) (current : Deal) : Deal :=
  { current with
    version := read.version + 1
    partnerNameCache := written read.partnerNameCache ctx.partnerName current.partnerNameCache
    orderDiscountPct := written read.orderDiscountPct ctx.blendedDiscountPct current.orderDiscountPct
    amountTotalCache := written read.amountTotalCache ctx.amountTotal current.amountTotalCache
    amountUntaxedCache :=
      written read.amountUntaxedCache ctx.amountUntaxed current.amountUntaxedCache
    marginPctCache := written read.marginPctCache ctx.totalMarginPct current.marginPctCache
    oneTimeTotalCache := written read.oneTimeTotalCache ctx.oneTimeTotal current.oneTimeTotalCache
    recurringFirstCycleTotalCache :=
      written read.recurringFirstCycleTotalCache ctx.recurringFirstCycleTotal
        current.recurringFirstCycleTotalCache
    promisedDeliveryDate :=
      match ctx.deliveryDate with
      | none => current.promisedDeliveryDate
      | some date => written read.promisedDeliveryDate (some date) current.promisedDeliveryDate
    lastSyncedAt := now
    lastActivityAt := now }

/-- The row of the sequence and the deal inserted, unless a unique column forbids it. -/
def insertDeal (sync : DealSync) (value : ℕ) (now : Timestamp) (db : RegistryDb) :
    Option RegistryDb :=
  let reference := sequenceReference "D" value
  if db.deals.any fun r => r.deal.odooSaleOrderId = sync.ctx.odooSaleOrderId ∨
      r.deal.reference = reference then none
  else
    let record := createdDeal sync.ctx reference db.deals.length now
    some (({ db with
      deals := db.deals ++ [record]
      sequences := db.sequences.set "DEAL" (value + 1) }).recordAuditEvent
        (registryEvent .dealCreated record.deal.id sync.actor
          s!"Deal created from Odoo sale.order {sync.ctx.odooOrderName}" now))

/-- The commit of a sync, `none` where it fails and rolls back. -/
def commitSync (sync : DealSync) (now : Timestamp) (db : RegistryDb) : Option RegistryDb :=
  match sync.found, sync.sequence with
  | some read, _ =>
      some ((db.updateDeal read.deal.id fun r =>
        { r with deal := committedDeal read.deal sync.ctx now r.deal }).recordAuditEvent
          (registryEvent .dealSynced read.deal.id sync.actor
            s!"Deal synced with Odoo sale.order {sync.ctx.odooOrderName}" now))
  | none, .unread => none
  | none, .absent =>
      if db.sequences.get "DEAL" ≠ none then none
      else insertDeal sync firstSequenceValue now db
  | none, .locked value => insertDeal sync value now db

/-- A change of a deal's own columns. -/
structure DealPatch where
  promisedDeliveryDate : Option Timestamp := none
  tierCode : Option String := none
  deriving DecidableEq, Repr

/-- `patch_deal`, for a deal that is there. -/
def patchDeal (dealId : ℕ) (patch : DealPatch) (actor : SyncActor) (now : Timestamp)
    (db : RegistryDb) : RegistryDb :=
  if db.deals.any fun r => r.deal.id = dealId then
    (db.updateDeal dealId fun r =>
      { r with
        tierCode := patch.tierCode.or r.tierCode
        deal :=
          { r.deal with
            promisedDeliveryDate := patch.promisedDeliveryDate.or r.deal.promisedDeliveryDate
            lastActivityAt := now } }).recordAuditEvent
      (registryEvent .lineChanged dealId actor "Deal metadata updated" now)
  else db

inductive RegistryOp
  /-- A session reads the deal of an order and builds the context of the order. -/
  | read (session : ℕ) (orderId : ℤ) (ctx : Except DealFlowException DealContext)
      (expectedVersion : Option ℤ) (actor : SyncActor)
  /-- A session whose order has no deal reads the row of the sequence, unless it is locked. -/
  | reserve (session : ℕ)
  | commit (session : ℕ) (now : Timestamp)
  /-- A session raises, or its connection is lost. -/
  | rollback (session : ℕ)
  | patch (dealId : ℕ) (patch : DealPatch) (actor : SyncActor) (now : Timestamp)

namespace RegistryWorld

/-- The session ends its transaction with these rows committed. -/
def finish (w : RegistryWorld) (session : ℕ) (db : RegistryDb) : RegistryWorld :=
  { db
    syncs := Function.update w.syncs session none
    lock := w.lock.filter (· ≠ session) }

/-- A sync that has read an order's deal, or nothing where it raises. -/
def startSync (db : RegistryDb) (orderId : ℤ) (ctx : Except DealFlowException DealContext)
    (expectedVersion : Option ℤ) (actor : SyncActor) : Option DealSync :=
  match ctx with
  | .error _ => none
  | .ok ctx =>
      let found := db.findOrder orderId
      if found.any fun r => expectedVersion.any (· ≠ r.deal.version) then none
      else some { found, ctx, actor }

/-- The row of the sequence read, and locked where it is there and free. -/
def reserve (w : RegistryWorld) (session : ℕ) : RegistryWorld :=
  match w.syncs session with
  | some { found := none, ctx, actor, sequence := .unread } =>
      match w.db.sequences.get "DEAL", w.lock with
      | none, _ =>
          { w with
            syncs := Function.update w.syncs session
              (some { found := none, ctx, actor, sequence := .absent }) }
      | some value, none =>
          { w with
            syncs := Function.update w.syncs session
              (some { found := none, ctx, actor, sequence := .locked value })
            lock := some session }
      | some _, some _ => w
  | _ => w

def apply (op : RegistryOp) (w : RegistryWorld) : RegistryWorld :=
  match op with
  | .read session orderId ctx expectedVersion actor =>
      match w.syncs session with
      | some _ => w
      | none =>
          { w with
            syncs := Function.update w.syncs session
              (startSync w.db orderId ctx expectedVersion actor) }
  | .reserve session => w.reserve session
  | .commit session now =>
      match w.syncs session with
      | none => w
      | some sync => w.finish session ((commitSync sync now w.db).getD w.db)
  | .rollback session => w.finish session w.db
  | .patch dealId patch actor now => { w with db := patchDeal dealId patch actor now w.db }

end RegistryWorld

/-! ## The list of deals -/

structure DealFilterParams where
  status : Option DealStatus := none
  approvalState : Option ApprovalState := none
  healthStatus : Option HealthStatus := none
  ownerId : Option ℤ := none
  salesTeamId : Option ℤ := none
  partnerId : Option ℤ := none
  minRiskScore : Option ℚ := none
  maxRiskScore : Option ℚ := none
  query : Option String := none
  deriving DecidableEq, Repr

/-- How the database folds case: PostgreSQL by the locale of the column, SQLite the letters of
ASCII.  It leaves the wildcards around a text where they are. -/
structure Collation where
  lower : String → String
  lower_pattern : ∀ text, (lower ("%" ++ text ++ "%")).toList = '%' :: (lower text).toList ++ ['%']

/-- `column ILIKE '%' || query || '%'`. -/
def ilike (collation : Collation) (query text : String) : Bool :=
  ((likeTokens (collation.lower ("%" ++ query ++ "%")).toList).map
    (likeMatch · (collation.lower text).toList)).getD false

namespace DealFilterParams

/-- A filter that is set, and set to something that counts. -/
def idFilter (filter : Option ℤ) (column : Option ℤ) : Bool :=
  (filter.filter (· ≠ 0)).all fun id => column = some id

def admits (collation : Collation) (params : DealFilterParams) (r : DealRecord) : Bool :=
  (params.status.all fun status => r.deal.status = status) &&
  (params.approvalState.all fun state => r.deal.approvalState = state) &&
  (params.healthStatus.all fun health => r.healthStatus = health) &&
  idFilter params.ownerId (some r.deal.ownerOdooUserId) &&
  idFilter params.salesTeamId r.salesTeamOdooId &&
  idFilter params.partnerId (some r.deal.odooPartnerId) &&
  (params.minRiskScore.all fun low => r.deal.currentRiskScore.any (low ≤ ·)) &&
  (params.maxRiskScore.all fun high => r.deal.currentRiskScore.any (· ≤ high)) &&
  ((params.query.filter (· ≠ "")).all fun query =>
    ilike collation query r.deal.reference || ilike collation query r.deal.odooOrderName ||
      ilike collation query r.deal.partnerNameCache)

end DealFilterParams

structure PaginationParams where
  page : ℕ := 1
  pageSize : ℕ := 20
  deriving DecidableEq, Repr

structure PaginationMeta where
  page : ℕ
  pageSize : ℕ
  total : ℕ
  totalPages : ℕ
  deriving DecidableEq, Repr

/-- `paginate_query` of the rows of a query, in the order the database gives them. -/
def paginateQuery {α : Type} (rows : List α) (params : PaginationParams) :
    List α × PaginationMeta :=
  (pageOf params.pageSize (params.page - 1) rows,
    { page := params.page
      pageSize := params.pageSize
      total := rows.length
      totalPages := pageCount params.pageSize rows.length })

/-- The rows a list selects, newest activity first.  Rows of the same moment come in the order
`serve` gives them. -/
def listDeals (collation : Collation) (serve : List DealRecord → List DealRecord)
    (db : RegistryDb) (params : DealFilterParams) (pagination : PaginationParams) :
    List DealRecord × PaginationMeta :=
  paginateQuery (serve (db.deals.filter (params.admits collation))) pagination

end DealFlow
