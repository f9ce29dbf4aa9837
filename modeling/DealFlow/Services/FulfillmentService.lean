import DealFlow.Guardian.Fulfillment
import DealFlow.Lib.PythonText
import DealFlow.Odoo.Interface
import DealFlow.Odoo.Warehouse
import DealFlow.Services.DealService
import DealFlow.Services.NegotiationService

/-!
# Fulfilment plans

`app/services/fulfillment_service.py`.  A plan is proposed for the stockable lines of the order over
the active warehouse profiles, superseding one proposed before; it is accepted as it is, or its
lines are replaced by hand; and a backorder is consolidated by a new proposal.  An accepted plan of
a confirmed deal is carried out in Odoo.  How a plan is computed is in
`DealFlow.Guardian.Fulfillment`.

What an operation writes before it raises is rolled back.  The warehouse profiles a proposal creates
for a company without any are committed on their own and stay.
-/

namespace DealFlow

/-! ## Application -/

structure FulfillmentPlanLine where
  odooSaleOrderLineId : ℤ
  odooProductId : ℤ
  odooWarehouseId : Option ℤ
  requestedQty : ℤ
  allocatedQty : ℤ
  backorderQty : ℤ
  shippingCost : ℚ
  deriving DecidableEq, Repr

structure FulfillmentPlan where
  id : ℕ
  status : FulfillmentPlanStatus
  estimatedShipments : ℕ
  estimatedShippingCost : ℚ
  strategy : String
  generatedAt : Timestamp
  lines : List FulfillmentPlanLine
  acceptedByOdooUserId : Option ℤ := none
  acceptedAt : Option Timestamp := none
  appliedAt : Option Timestamp := none
  odooPickingIds : Option (List ℤ) := none
  deriving DecidableEq, Repr

/-- The allocations of a plan: its lines with a positive quantity in a warehouse. -/
def FulfillmentPlan.allocPayload (plan : FulfillmentPlan) : List AllocationPayload :=
  plan.lines.filterMap fun l =>
    match l.odooWarehouseId with
    | none => none
    | some warehouseId =>
        if 0 < l.allocatedQty then
          some
            { lineId := l.odooSaleOrderLineId
              productId := l.odooProductId
              warehouseId
              qty := l.allocatedQty }
        else none

/-- The store of a deal with its plans, and the Odoo side. -/
structure DealWorld (σ : Type) extends World σ where
  plans : List FulfillmentPlan := []

section Apply

variable {σ : Type}

/-- The plan to apply, once the guards have passed. -/
def guardPlan (w : DealWorld σ) (planId : ℕ) : Except DealFlowException FulfillmentPlan :=
  if w.db.deal.status ∉ [.confirmed, .inFulfillment] then
    .error (businessRuleError "DEAL_NOT_CONFIRMED"
      "Deal must be CONFIRMED before applying fulfillment plan.")
  else
    match w.plans.find? fun p => p.id = planId with
    | none => .error (entityNotFoundError "FulfillmentPlan" (toString planId))
    | some plan =>
        if plan.status ∉ [.accepted, .overridden] then
          .error (businessRuleError "INVALID_PLAN_STATUS"
            s!"Cannot apply plan in status {plan.status.value}. Must be ACCEPTED or OVERRIDDEN.")
        else .ok plan

/-- The plan carried out, the deal is in fulfilment. -/
def markApplied (plan : FulfillmentPlan) (pickingIds : List ℤ) (actor : DealflowUser)
    (now : Timestamp) (w : DealWorld σ) : DealWorld σ :=
  { w with
    db :=
      (w.db.updateDeal fun d =>
        { d with status := .inFulfillment, lastActivityAt := now }).recordAuditEvent
        { eventType := .fulfillmentApplied
          entityType := "fulfillment_plan"
          entityId := toString plan.id
          actorType := "USER"
          actorId := some actor.odooUserId
          actorRole := some actor.role
          createdAt := now }
    plans := w.plans.map fun p =>
      if p.id = plan.id then
        { p with
          status := .applied, appliedAt := some now, odooPickingIds := some pickingIds }
      else p }

def applyFulfillmentPlan (gateway : BackOfficeGateway σ) (planId : ℕ) (actor : DealflowUser)
    (now : Timestamp) (w : DealWorld σ) : Except ServiceError (List ℤ) × DealWorld σ :=
  match guardPlan w planId with
  | .error e => (.error (.dealflow e), w)
  | .ok plan =>
      match gateway.applyFulfillmentPlan w.db.deal.odooSaleOrderId plan.allocPayload w.odoo with
      | (.error e, odoo) => (.error (.odoo e), { w with odoo })
      | (.ok pickingIds, odoo) =>
          (.ok pickingIds, markApplied plan pickingIds actor now { w with odoo })

end Apply

/-! ## Proposal, acceptance and override -/

structure WarehouseProfile where
  odooWarehouseId : ℤ
  shippingCostWeight : ℚ := 10
  priority : ℤ := 1
  leadTimeDays : ℤ := 0
  active : Bool := true
  deriving DecidableEq, Repr

structure FulfillmentWorld (σ : Type) extends DealWorld σ where
  profiles : List WarehouseProfile := []

/-- What an operation raises: an error of a service or the gateway, a unique constraint of the
database, or a `TypeError` where a quantity is missing. -/
inductive FulfillmentError
  | service (e : ServiceError)
  | integrityError
  | typeError
  deriving DecidableEq, Repr

def businessRule (code message : String) : FulfillmentError :=
  .service (.dealflow (businessRuleError code message))

/-- An operation on plans: the state as it is left, also when it raises. -/
abbrev FulfillmentM (σ : Type) := ExceptT FulfillmentError (StateM (FulfillmentWorld σ))

section Operations

variable {σ α : Type}

/-- A call of the gateway. -/
def askOdoo (call : OdooCall σ α) : FulfillmentM σ α := fun w =>
  match call w.odoo with
  | (.error e, odoo) => (.error (.service (.odoo e)), { w with odoo })
  | (.ok a, odoo) => (.ok a, { w with odoo })

/-- An event about a plan, which counts as activity of the deal. -/
def recordPlanEvent (eventType : AuditEventType) (planId : ℕ) (actor : Option DealflowUser)
    (now : Timestamp) (db : DealStore) : DealStore :=
  db.recordAuditEvent
    { eventType
      entityType := "fulfillment_plan"
      entityId := toString planId
      actorType := if actor.isSome then "USER" else "SYSTEM"
      actorId := actor.map (·.odooUserId)
      actorRole := actor.map (·.role)
      createdAt := now }

/-! ### Proposing -/

/-- The lines a plan is made for. -/
def stockableLines (order : RawOrder) (products : AList fun _ : ℤ => RawProduct) :
    List StockableLine :=
  order.lines.filterMap fun l =>
    match products.lookup l.productId with
    | none => none
    | some product =>
        if product.type = "STOCKABLE" ∧ product.isRecurring = false ∧ (0 : ℚ) < l.qty then
          some { lineId := l.id, productId := l.productId, requestedQty := truncDec l.qty }
        else none

def defaultProfile (warehouse : RawWarehouse) : WarehouseProfile :=
  let weightAndPriority : ℚ × ℤ :=
    if warehouse.id = 1 then (10, 1)
    else if warehouse.id = 2 then (15, 2)
    else if warehouse.id = 3 then (25, 3)
    else (10, 1)
  { odooWarehouseId := warehouse.id
    shippingCostWeight := weightAndPriority.1
    priority := weightAndPriority.2 }

def activeProfiles (profiles : List WarehouseProfile) : List WarehouseProfile :=
  profiles.filter (·.active)

/-- Without an active profile, create one for each warehouse; a warehouse has one profile. -/
def ensureProfiles (gateway : WarehouseGateway σ) : FulfillmentM σ Unit := do
  if activeProfiles (← get).profiles = [] then
    let warehouses ← askOdoo gateway.getWarehouses
    let w ← get
    let profiles := w.profiles ++ warehouses.map defaultProfile
    if (profiles.map (·.odooWarehouseId)).Nodup then
      set { w with profiles }
    else
      throw .integrityError

/-- A profile as the planner sees it, under the name of its warehouse. -/
def warehouseInfo (warehouses : List RawWarehouse) (profile : WarehouseProfile) : WarehouseInfo :=
  let named := warehouses.reverse.find? fun w => w.id = profile.odooWarehouseId
  { warehouseId := profile.odooWarehouseId
    name := (named.map (·.name)).getD s!"Warehouse {profile.odooWarehouseId}"
    shippingCostWeight := profile.shippingCostWeight
    priority := profile.priority
    active := profile.active }

/-- Read the order, its products, the warehouses and their stock, and compute a plan. -/
def computePlan (gateway : WarehouseGateway σ) (strategy : Option String) :
    FulfillmentM σ FulfillmentCalculationResult := do
  let order ← askOdoo (gateway.getSaleOrder (← get).db.deal.odooSaleOrderId)
  if order.lines = [] then
    throw (businessRule "NO_LINES" "Order has no lines to fulfill.")
  let products ← askOdoo (gateway.getProducts (order.lines.map (·.productId)).dedup)
  let stockable := stockableLines order products
  ensureProfiles gateway
  let warehouses ← askOdoo gateway.getWarehouses
  let infos := (activeProfiles (← get).profiles).map (warehouseInfo warehouses)
  let availability ← askOdoo (gateway.getAvailabilityIn (stockable.map (·.productId)).dedup
    (infos.map (·.warehouseId)))
  return calculateFulfillmentPlan stockable infos (fun pid wid => (availability pid).lookup wid)
    strategy

def plannedLine (a : PlanAllocation) : FulfillmentPlanLine :=
  { odooSaleOrderLineId := a.lineId
    odooProductId := a.productId
    odooWarehouseId := a.warehouseId
    requestedQty := a.requestedQty
    allocatedQty := a.allocatedQty
    backorderQty := a.backorderQty
    shippingCost := a.shippingCost }

def proposedPlan (planId : ℕ) (calcRes : FulfillmentCalculationResult) (now : Timestamp) :
    FulfillmentPlan :=
  { id := planId
    status := .proposed
    estimatedShipments := calcRes.estimatedShipments
    estimatedShippingCost := calcRes.estimatedShippingCost
    strategy := calcRes.strategy
    generatedAt := now
    lines := calcRes.allocations.map plannedLine ++
      calcRes.backorders.map fun b => { plannedLine b with odooWarehouseId := none } }

/-- A proposed plan gives way to a new one. -/
def supersedeProposed (p : FulfillmentPlan) : FulfillmentPlan :=
  if p.status = .proposed then { p with status := .superseded } else p

/-- Store a new plan in the place of those proposed before. -/
def storeProposal (calcRes : FulfillmentCalculationResult) (now : Timestamp)
    (w : FulfillmentWorld σ) : FulfillmentWorld σ :=
  { w with
    plans := w.plans.map supersedeProposed ++ [proposedPlan w.db.nextId calcRes now]
    db := recordPlanEvent .fulfillmentPlanned w.db.nextId none now
      { w.db with nextId := w.db.nextId + 1 } }

def proposeFulfillmentPlan (gateway : WarehouseGateway σ) (strategy : Option String)
    (now : Timestamp) : FulfillmentM σ ℕ := do
  let calcRes ← computePlan gateway strategy
  let w ← get
  set (storeProposal calcRes now w)
  return w.db.nextId

/-! ### Accepting and overriding -/

/-- Rewrite the row of a plan. -/
def updatePlan (planId : ℕ) (f : FulfillmentPlan → FulfillmentPlan)
    (plans : List FulfillmentPlan) : List FulfillmentPlan :=
  plans.map fun p => if p.id = planId then f p else p

/-- A plan of the deal. -/
def getPlan (planId : ℕ) : FulfillmentM σ FulfillmentPlan := do
  match (← get).plans.find? fun p => p.id = planId with
  | none =>
      throw (.service (.dealflow (entityNotFoundError "FulfillmentPlan" (toString planId))))
  | some plan => return plan

def acceptFulfillmentPlan (planId : ℕ) (actor : DealflowUser) (now : Timestamp) :
    FulfillmentM σ Unit := do
  let plan ← getPlan planId
  if plan.status ≠ .proposed then
    throw (businessRule "INVALID_PLAN_STATUS"
      s!"Cannot accept plan with status {plan.status.value}.")
  modify fun w =>
    { w with
      plans := updatePlan planId (fun p =>
        { p with
          status := .accepted
          acceptedByOdooUserId := some actor.odooUserId
          acceptedAt := some now }) w.plans
      db := recordPlanEvent .fulfillmentAccepted planId (some actor) now w.db }

/-- A line of an override as it is sent; every figure may be missing. -/
structure FulfillmentOverrideLineItem where
  odooSaleOrderLineId : Option ℤ := none
  lineId : Option ℤ := none
  odooProductId : Option ℤ := none
  productId : Option ℤ := none
  odooWarehouseId : Option ℤ := none
  warehouseId : Option ℤ := none
  allocatedQty : Option ℤ := none
  qty : Option ℤ := none
  backorderQty : Option ℤ := some 0
  deriving DecidableEq, Repr

/-- `a or b` of the source. -/
def orElseId (a b : Option ℤ) : Option ℤ :=
  (nonZero a).or b

/-- Prints like `{value}` in the source. -/
def shownId (id : Option ℤ) : String :=
  (id.map toString).getD "None"

/-- The order lines by id; of two with one id the later counts. -/
def orderLine (order : RawOrder) (lineId : ℤ) : Option RawOrderLine :=
  order.lines.reverse.find? fun l => l.id = lineId

def profileWeight (profiles : List WarehouseProfile) (warehouseId : ℤ) : Option ℚ :=
  (profiles.find? fun p => p.odooWarehouseId = warehouseId).map (·.shippingCostWeight)

/-- The plan line of an item; an item without a quantity gives none. -/
def overrideLine (order : RawOrder) (profiles : List WarehouseProfile)
    (item : FulfillmentOverrideLineItem) : Except FulfillmentError (Option FulfillmentPlanLine) :=
  let lineId := orElseId item.odooSaleOrderLineId item.lineId
  let warehouseId := orElseId item.odooWarehouseId item.warehouseId
  let backorderQty := item.backorderQty.getD 0
  match (nonZero lineId).bind (orderLine order) with
  | none =>
      .error (businessRule "INVALID_LINE_ID" s!"Order line {shownId lineId} not found in order.")
  | some l =>
      match item.allocatedQty.or item.qty with
      | none => .error .typeError
      | some allocatedQty =>
          if allocatedQty + backorderQty ≤ 0 then .ok none
          else
            .ok (some
              { odooSaleOrderLineId := l.id
                odooProductId :=
                  (nonZero (orElseId item.odooProductId item.productId)).getD l.productId
                odooWarehouseId := warehouseId
                requestedQty := allocatedQty + backorderQty
                allocatedQty
                backorderQty
                shippingCost :=
                  match nonZero warehouseId with
                  | some wid =>
                      if 0 < allocatedQty then (profileWeight profiles wid).getD 0 else 0
                  | none => 0 })

/-- The lines of an override, in order; the first item that raises ends it. -/
def overrideLines (order : RawOrder) (profiles : List WarehouseProfile) :
    List FulfillmentOverrideLineItem → Except FulfillmentError (List FulfillmentPlanLine)
  | [] => .ok []
  | item :: items =>
      match overrideLine order profiles item with
      | .error e => .error e
      | .ok line =>
          match overrideLines order profiles items with
          | .error e => .error e
          | .ok lines => .ok (line.toList ++ lines)

/-- The warehouses an override ships from. -/
def overrideWarehouses (lines : List FulfillmentPlanLine) : Finset ℤ :=
  (lines.filterMap fun l => if 0 < l.allocatedQty then nonZero l.odooWarehouseId else none).toFinset

/-- The reason is missing, or nothing is left of it once it is stripped. -/
def isBlank (reason : String) : Bool :=
  (Lib.strip reason.toList).isEmpty

/-- A plan with its lines replaced by hand. -/
def overriddenPlan (profiles : List WarehouseProfile) (lines : List FulfillmentPlanLine)
    (actor : DealflowUser) (now : Timestamp) (p : FulfillmentPlan) : FulfillmentPlan :=
  { p with
    status := .overridden
    strategy := "MANUAL"
    lines
    estimatedShipments := (overrideWarehouses lines).card
    estimatedShippingCost :=
      ∑ wid ∈ overrideWarehouses lines, (profileWeight profiles wid).getD 0
    acceptedByOdooUserId := some actor.odooUserId
    acceptedAt := some now }

def overrideFulfillmentPlan (gateway : WarehouseGateway σ) (planId : ℕ)
    (allocations : List FulfillmentOverrideLineItem) (actor : DealflowUser) (reason : String)
    (now : Timestamp) : FulfillmentM σ Unit := do
  if isBlank reason then
    throw (businessRule "REASON_REQUIRED" "Reason is required for manual fulfillment override.")
  let plan ← getPlan planId
  if plan.status ∉ [.proposed, .accepted] then
    throw (businessRule "INVALID_PLAN_STATUS"
      s!"Cannot override plan with status {plan.status.value}.")
  let order ← askOdoo (gateway.getSaleOrder (← get).db.deal.odooSaleOrderId)
  match overrideLines order (← get).profiles allocations with
  | .error e => throw e
  | .ok lines =>
      modify fun w =>
        { w with
          plans := updatePlan planId (overriddenPlan w.profiles lines actor now) w.plans
          db := recordPlanEvent .fulfillmentOverridden planId (some actor) now w.db }

/-! ### Applying and consolidating -/

/-- `apply_fulfillment_plan`, which leaves the profiles alone. -/
def applyPlan (gateway : WarehouseGateway σ) (planId : ℕ) (actor : DealflowUser)
    (now : Timestamp) : FulfillmentM σ (List ℤ) := fun w =>
  let applied := applyFulfillmentPlan gateway.toBackOfficeGateway planId actor now w.toDealWorld
  (applied.1.mapError .service, { w with toDealWorld := applied.2 })

/-- A backorder is consolidated by a new proposal; the plan, warehouse and quantity of the request
are not looked at. -/
def consolidateBackorder (gateway : WarehouseGateway σ) (actor : DealflowUser) (now : Timestamp) :
    FulfillmentM σ ℕ := do
  let planId ← proposeFulfillmentPlan gateway none now
  modify fun w =>
    { w with db := recordPlanEvent .fulfillmentReplanned planId (some actor) now w.db }
  return planId

end Operations

end DealFlow
