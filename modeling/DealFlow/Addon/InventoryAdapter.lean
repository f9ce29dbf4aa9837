import DealFlow.Addon.Schemas
import DealFlow.Lib.Significant
import Mathlib.Data.List.Sort
import Mathlib.Data.Prod.Lex

/-!
# The inventory adapter on its own store

`calculate_fulfillment_split` and `apply_fulfillment_plan` of
`dealflow_odoo/services/inventory_adapter.py` where no Odoo environment is given, with the reads of
the store they make.  The dictionaries of stock and orders are partial
functions; quantities are floats in the source, here the decimal numbers they print as.  A split
adds them up and takes them off in doubles.

A plan is an object the caller keeps: a call without a batch id writes the one it makes up on the
plan, also when it raises afterwards.  So a call returns the plan beside its result.
-/

namespace DealFlow.Addon

open Lib

structure WarehouseData where
  warehouseId : ℤ
  warehouseName : String
  sequence : Option ℤ := none
  deriving DecidableEq, Repr

structure StockLevels where
  qtyAvailable : ℚ := 0
  qtyReserved : ℚ := 0
  qtyIncoming : ℚ := 0
  deriving DecidableEq, Repr

structure RegisteredOrder where
  name : String
  state : String
  deriving DecidableEq, Repr

structure Picking where
  pickingId : ℕ
  name : String
  orderId : ℤ
  warehouseId : ℤ
  warehouseName : String
  origin : String
  dealflowFulfillmentBatchId : Option String
  dealflowWarehouseSplit : Bool
  dealflowSplitDetails : List FulfillmentSplitItem
  productId : ℤ
  quantity : ℚ
  state : String
  createdAt : ℤ
  deriving DecidableEq, Repr

structure InventoryAdapter where
  warehouses : List WarehouseData
  stockStore : ℤ → ℤ → Option StockLevels
  pickings : List Picking := []
  orders : ℤ → Option RegisteredOrder
  nextPickingId : ℕ := 1001

/-- What a call raises: an error of the integration, or a `KeyError` of the store. -/
inductive AdapterError
  | integration (e : DealFlowIntegrationError)
  | keyError (productId warehouseId : ℤ)
  deriving DecidableEq, Repr

/-- The arguments of a call besides the plan, with the clock and the random token it would use. -/
structure ApplyArgs where
  orderId : ℤ
  batchId : Option String := none
  idempotent : Bool := false
  now : ℤ
  uniqueToken : String
  deriving DecidableEq, Repr

inductive ApplyStatus
  | applied | alreadyApplied
  deriving DecidableEq, Repr

structure ApplyResult where
  status : ApplyStatus
  orderId : ℤ
  dealflowFulfillmentBatchId : String
  pickingIds : List ℕ
  isSplit : Bool
  totalAllocated : ℚ
  duplicatePrevented : Bool
  allocations : List FulfillmentSplitItem
  message : String
  deriving DecidableEq, Repr

/-! ## Reading the store -/

/-- The sort key of the warehouses. -/
def routingKey (w : WarehouseData) : ℤ ×ₗ ℤ :=
  toLex (w.sequence.getD 999, w.warehouseId)

structure WarehouseStock where
  warehouseId : ℤ
  warehouseName : String
  qtyAvailable : ℚ
  qtyReserved : ℚ
  qtyIncoming : ℚ
  deriving DecidableEq, Repr

/-- The stock of a product by warehouse, in routing order; without an entry it is zero. -/
def InventoryAdapter.getWarehouseStock (s : InventoryAdapter) (productId : ℤ) :
    Except DealFlowIntegrationError (List WarehouseStock) :=
  if productId ≤ 0 then
    .error (validationError s!"Invalid product_id: {productId}. Must be a positive integer.")
  else
    let sortedWarehouses := s.warehouses.insertionSort fun v w => routingKey v ≤ routingKey w
    .ok (sortedWarehouses.map fun wh =>
      let levels := (s.stockStore productId wh.warehouseId).getD {}
      { warehouseId := wh.warehouseId
        warehouseName := wh.warehouseName
        qtyAvailable := levels.qtyAvailable
        qtyReserved := levels.qtyReserved
        qtyIncoming := levels.qtyIncoming })

def InventoryAdapter.getWarehouseStockSingle (s : InventoryAdapter) (productId warehouseId : ℤ) :
    Except DealFlowIntegrationError (Option WarehouseStock) :=
  (s.getWarehouseStock productId).map fun stocks =>
    stocks.find? fun wh => wh.warehouseId = warehouseId

/-! ## Splitting a quantity over the warehouses -/

/-- What `calculate_fulfillment_split` raises: an error of the integration, or an `IndexError` for
the notes of no allocation. -/
inductive SplitError
  | integration (e : DealFlowIntegrationError)
  | indexError
  deriving DecidableEq, Repr

/-- Allocate in routing order until nothing remains, in doubles. -/
def splitLoop (productId : ℤ) : List WarehouseStock → ℚ → List FulfillmentSplitItem
  | [], _ => []
  | wh :: warehouses, remainingQty =>
      let available := float64 wh.qtyAvailable
      if available ≤ 0 then splitLoop productId warehouses remainingQty
      else
        let takeQty := min available remainingQty
        { productId
          warehouseId := wh.warehouseId
          warehouseName := wh.warehouseName
          quantity := roundTo 4 takeQty } ::
          (if float64 (remainingQty - takeQty) ≤ float64 (1 / 1000000) then []
          else splitLoop productId warehouses (float64 (remainingQty - takeQty)))

def splitNotes : List FulfillmentSplitItem → Except SplitError String
  | [] => .error .indexError
  | [item] =>
      .ok s!"Direct fulfillment from {item.warehouseName} ({floatText item.quantity} units)"
  | items =>
      .ok (s!"Multi-warehouse split shipment ({items.length} warehouses): " ++
        ", ".intercalate (items.map fun item => s!"{item.warehouseName}: {floatText item.quantity}"))

def InventoryAdapter.calculateFulfillmentSplit (s : InventoryAdapter) (orderId productId : ℤ)
    (requestedQty : ℚ) : Except SplitError FulfillmentPlanDTO :=
  if orderId ≤ 0 then
    .error (.integration
      (validationError s!"Invalid order_id: {orderId}. Must be a positive integer."))
  else if productId ≤ 0 then
    .error (.integration
      (validationError s!"Invalid product_id: {productId}. Must be a positive integer."))
  else if requestedQty ≤ 0 then
    .error (.integration (validationError ("Requested quantity must be greater than zero, " ++
      s!"received: {floatText requestedQty}.")))
  else
    match s.getWarehouseStock productId with
    | .error e => .error (.integration e)
    | .ok warehouses =>
        let requested := float64 requestedQty
        let totalAvailable := runningSum float64 (warehouses.map fun wh => float64 wh.qtyAvailable)
        if totalAvailable < requested then
          let shortfall := roundTo 4 (float64 (requested - totalAvailable))
          .error (.integration (validationError
            (s!"Insufficient inventory across all warehouses for product {productId}. " ++
              s!"Requested: {floatText requestedQty}, " ++
              s!"Total Available: {floatText (shortestDecimal totalAvailable)}. " ++
              s!"Shortfall: {floatText shortfall}.")))
        else
          let allocations := splitLoop productId warehouses requested
          let allocatedSum :=
            roundTo 4 (runningSum float64 (allocations.map fun item => float64 item.quantity))
          if float64 (1 / 10000) < |float64 (float64 allocatedSum - requested)| then
            .error (.integration (validationError
              (s!"Fulfillment allocation sum ({floatText allocatedSum}) does not match " ++
                s!"requested quantity ({floatText requestedQty}).")))
          else
            (splitNotes allocations).map fun notes =>
              { orderId, allocations, notes := some notes, requestedQty := some requestedQty }

/-! ## Applying a plan -/

def totalPlanQty (plan : FulfillmentPlanDTO) : ℚ :=
  (plan.allocations.map (·.quantity)).sum

def allocationError (alloc : FulfillmentSplitItem) : Option DealFlowIntegrationError :=
  if alloc.warehouseId ≤ 0 then
    some (validationError s!"Invalid warehouse_id {alloc.warehouseId} in fulfillment allocation.")
  else if alloc.quantity ≤ 0 then
    some (validationError ("Allocation quantity must be greater than zero, got " ++
      s!"{floatText alloc.quantity} for warehouse {alloc.warehouseName}."))
  else none

/-- The sum of the allocations is not what was requested. -/
def tamperingError (plan : FulfillmentPlanDTO) : Option DealFlowIntegrationError :=
  match plan.requestedQty with
  | none => none
  | some requested =>
      if 1 / 10000 < |totalPlanQty plan - requested| then
        some (validationError ("Tampered fulfillment plan: sum of allocation quantities (" ++
          floatText (totalPlanQty plan) ++ ") does not match requested quantity (" ++
          floatText requested ++ ")."))
      else none

/-- The checks of the parameters, in the order they are made. -/
def parameterError (orderId : ℤ) (plan : FulfillmentPlanDTO) : Option DealFlowIntegrationError :=
  if orderId ≤ 0 then
    some (validationError s!"Invalid order_id: {orderId}. Must be a positive integer.")
  else if plan.orderId ≠ orderId then
    some (validationError (s!"Order ID mismatch: parameter order_id ({orderId}) != " ++
      s!"plan.order_id ({plan.orderId})."))
  else if plan.allocations = [] then
    some (validationError "Fulfillment plan must contain at least one warehouse allocation.")
  else if totalPlanQty plan ≤ 0 then
    some (validationError ("Total fulfillment quantity must be greater than zero, got " ++
      floatText (totalPlanQty plan) ++ "."))
  else
    match plan.allocations.findSome? allocationError with
    | some e => some e
    | none => tamperingError plan

/-- The order has to be registered and neither cancelled nor delivered. -/
def InventoryAdapter.openOrder (s : InventoryAdapter) (orderId : ℤ) :
    Except DealFlowIntegrationError RegisteredOrder :=
  match s.orders orderId with
  | none =>
      .error (notFoundError s!"Sale order with ID {orderId} not found in adapter registry.")
  | some order =>
      if order.state = "cancel" ∨ order.state = "done" then
        let stateDesc :=
          if order.state = "cancel" then "cancelled" else "already delivered (done)"
        .error (invalidStateError
          s!"Cannot apply fulfillment plan to {stateDesc} sale order {orderId}.")
      else .ok order

/-- A batch id that is given: neither `None` nor the empty string. -/
def givenBatchId (batchId : Option String) : Option String :=
  batchId.filter (· ≠ "")

def generatedBatchId (args : ApplyArgs) : String :=
  s!"BATCH-SO{args.orderId}-{args.now}-{args.uniqueToken}"

/-- `batch_id or fulfillment_plan.batch_id`, else a new one. -/
def targetBatchId (args : ApplyArgs) (plan : FulfillmentPlanDTO) : String :=
  ((givenBatchId args.batchId).or (givenBatchId plan.batchId)).getD (generatedBatchId args)

/-- The plan carries the batch id made up for it. -/
def recordBatchId (args : ApplyArgs) (plan : FulfillmentPlanDTO) : FulfillmentPlanDTO :=
  match (givenBatchId args.batchId).or (givenBatchId plan.batchId) with
  | some _ => plan
  | none => { plan with batchId := some (generatedBatchId args) }

def InventoryAdapter.existingPickingIds (s : InventoryAdapter) (batchId : String) : List ℕ :=
  (s.pickings.filter fun p => p.dealflowFulfillmentBatchId = some batchId).map (·.pickingId)

/-- Live stock is checked for each allocation by itself. -/
def InventoryAdapter.stockError (s : InventoryAdapter) (alloc : FulfillmentSplitItem) :
    Option DealFlowIntegrationError :=
  match s.getWarehouseStockSingle alloc.productId alloc.warehouseId with
  | .error e => some e
  | .ok none =>
      some (notFoundError (s!"Warehouse ID {alloc.warehouseId} ({alloc.warehouseName}) not " ++
        s!"found for product {alloc.productId}."))
  | .ok (some whStock) =>
      if whStock.qtyAvailable < alloc.quantity then
        some (invalidStateError (s!"Stock violation: Warehouse '{alloc.warehouseName}' " ++
          s!"(ID {alloc.warehouseId}) has insufficient stock ({floatText whStock.qtyAvailable}) " ++
          s!"to fulfill requested allocation of {floatText alloc.quantity} units."))
      else none

/-- What is taken out of a cell is reserved there. -/
def StockLevels.reserve (levels : StockLevels) (quantity : ℚ) : StockLevels :=
  { levels with
    qtyAvailable := roundTo 4 (levels.qtyAvailable - quantity)
    qtyReserved := roundTo 4 (levels.qtyReserved + quantity) }

/-- What the pickings of one call have in common. -/
structure PickingHead where
  orderId : ℤ
  order : RegisteredOrder
  batchId : String
  allocations : List FulfillmentSplitItem
  now : ℤ

def newPicking (head : PickingHead) (pickingId : ℕ) (alloc : FulfillmentSplitItem) : Picking :=
  let place := (String.ofList ((alloc.warehouseName.toList.take 4).filter (· ≠ ' '))).toUpper
  { pickingId
    name := s!"WH/{place}/OUT/{padded head.orderId}-{pickingId}"
    orderId := head.orderId
    warehouseId := alloc.warehouseId
    warehouseName := alloc.warehouseName
    origin := head.order.name
    dealflowFulfillmentBatchId := some head.batchId
    dealflowWarehouseSplit := 1 < head.allocations.length
    dealflowSplitDetails := head.allocations
    productId := alloc.productId
    quantity := alloc.quantity
    state := "assigned"
    createdAt := head.now }

/-- The store after one allocation whose cell has these levels. -/
def InventoryAdapter.allocate (s : InventoryAdapter) (head : PickingHead)
    (alloc : FulfillmentSplitItem) (levels : StockLevels) : InventoryAdapter :=
  { s with
    stockStore := fun productId warehouseId =>
      if productId = alloc.productId ∧ warehouseId = alloc.warehouseId then
        some (levels.reserve alloc.quantity)
      else s.stockStore productId warehouseId
    pickings := s.pickings ++ [newPicking head s.nextPickingId alloc]
    nextPickingId := s.nextPickingId + 1 }

/-- The loop that reserves and creates pickings; a missing cell raises in the middle of it. -/
def InventoryAdapter.allocateAll (head : PickingHead) :
    List FulfillmentSplitItem → InventoryAdapter → Except AdapterError (List ℕ) × InventoryAdapter
  | [], s => (.ok [], s)
  | alloc :: allocs, s =>
      match s.stockStore alloc.productId alloc.warehouseId with
      | none => (.error (.keyError alloc.productId alloc.warehouseId), s)
      | some levels =>
          let rest := allocateAll head allocs (s.allocate head alloc levels)
          (rest.1.map (s.nextPickingId :: ·), rest.2)

def alreadyApplied (args : ApplyArgs) (plan : FulfillmentPlanDTO) (pickingIds : List ℕ) :
    ApplyResult :=
  { status := .alreadyApplied
    orderId := args.orderId
    dealflowFulfillmentBatchId := targetBatchId args plan
    pickingIds
    isSplit := 1 < plan.allocations.length
    totalAllocated := roundTo 4 (totalPlanQty plan)
    duplicatePrevented := true
    allocations := []
    message := s!"Fulfillment batch '{targetBatchId args plan}' was already executed; " ++
      "idempotent return without duplicate pickings." }

def appliedResult (args : ApplyArgs) (plan : FulfillmentPlanDTO) (pickingIds : List ℕ) :
    ApplyResult :=
  { status := .applied
    orderId := args.orderId
    dealflowFulfillmentBatchId := targetBatchId args plan
    pickingIds
    isSplit := 1 < plan.allocations.length
    totalAllocated := roundTo 4 (totalPlanQty plan)
    duplicatePrevented := false
    allocations := plan.allocations
    message := s!"Fulfillment plan executed successfully: {pickingIds.length} picking(s) " ++
      s!"created across {plan.allocations.length} warehouse(s) under batch {targetBatchId args plan}." }

def duplicateError (args : ApplyArgs) (plan : FulfillmentPlanDTO) : DealFlowIntegrationError :=
  invalidStateError (s!"Duplicate fulfillment plan execution: Batch '{targetBatchId args plan}' " ++
    s!"has already been processed for order {args.orderId}.")

/-- What a call returns or raises, the plan as it leaves it, and the store. -/
abbrev ApplyOutcome := Except AdapterError ApplyResult × FulfillmentPlanDTO × InventoryAdapter

def InventoryAdapter.applyFulfillmentPlan (s : InventoryAdapter) (args : ApplyArgs)
    (plan : FulfillmentPlanDTO) : ApplyOutcome :=
  match parameterError args.orderId plan with
  | some e => (.error (.integration e), plan, s)
  | none =>
      match s.openOrder args.orderId with
      | .error e => (.error (.integration e), plan, s)
      | .ok order =>
          let target := targetBatchId args plan
          let plan' := recordBatchId args plan
          let existing := s.existingPickingIds target
          if existing ≠ [] then
            if args.idempotent = true then (.ok (alreadyApplied args plan existing), plan', s)
            else (.error (.integration (duplicateError args plan)), plan', s)
          else
            match plan.allocations.findSome? s.stockError with
            | some e => (.error (.integration e), plan', s)
            | none =>
                let head : PickingHead :=
                  { orderId := args.orderId
                    order
                    batchId := target
                    allocations := plan.allocations
                    now := args.now }
                let reserved := allocateAll head plan.allocations s
                (reserved.1.map (appliedResult args plan), plan', reserved.2)

end DealFlow.Addon
