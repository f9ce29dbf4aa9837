import DealFlow.Inventory.Batches

/-!
# A plan is applied as a whole, and when it oversells

A call checks everything before it takes anything out of the store: what it refuses it leaves alone,
and what it accepts it applies allocation by allocation to the end (`applyFulfillmentPlan_refused`,
`applyFulfillmentPlan_accepted`).

The check of the stock looks at each allocation by itself.  Several allocations of one cell pass it
one by one and may take out more than there is, so a call keeps its promise exactly when it is not
accepted or no cell is asked for more than it has (`applyFulfillmentPlan_allOrNothing_iff`).
-/

namespace DealFlow.Addon

open Lib

/-- No cell of the store is below zero. -/
def InventoryAdapter.NonNeg (s : InventoryAdapter) : Prop :=
  ∀ productId warehouseId, 0 ≤ (s.levelsAt productId warehouseId).qtyAvailable ∧
    0 ≤ (s.levelsAt productId warehouseId).qtyReserved

/-- The stock store and the pickings are as they were. -/
def Untouched (s s' : InventoryAdapter) : Prop :=
  s'.stockStore = s.stockStore ∧ s'.pickings = s.pickings

/-- All of a plan's allocations were applied, and no more than there was. -/
structure AppliedWhole (plan : FulfillmentPlanDTO) (s s' : InventoryAdapter) : Prop where
  pickings : ∃ created : List Picking, s'.pickings = s.pickings ++ created ∧
    created.map (·.item) = plan.allocations
  available : ∀ productId warehouseId, (s'.levelsAt productId warehouseId).qtyAvailable =
    (s.levelsAt productId warehouseId).qtyAvailable - cellQty plan.allocations productId warehouseId
  reserved : ∀ productId warehouseId, (s'.levelsAt productId warehouseId).qtyReserved =
    (s.levelsAt productId warehouseId).qtyReserved + cellQty plan.allocations productId warehouseId
  nonneg : ∀ productId warehouseId, 0 ≤ (s'.levelsAt productId warehouseId).qtyAvailable

/-- A call applies its whole plan or changes nothing.  The answer to a repeated batch, which the
caller has to ask for, is about the pickings of its application and takes nothing out again. -/
inductive AllOrNothing (s : InventoryAdapter) (plan : FulfillmentPlanDTO) : ApplyOutcome → Prop
  | raised {e : AdapterError} {plan' : FulfillmentPlanDTO} {s' : InventoryAdapter}
      (same : Untouched s s') : AllOrNothing s plan (.error e, plan', s')
  | answered {r : ApplyResult} {plan' : FulfillmentPlanDTO} {s' : InventoryAdapter}
      (status : r.status = .alreadyApplied)
      (earlier : r.pickingIds = s.existingPickingIds r.dealflowFulfillmentBatchId)
      (nonempty : r.pickingIds ≠ []) (same : Untouched s s') :
      AllOrNothing s plan (.ok r, plan', s')
  | applied {r : ApplyResult} {plan' : FulfillmentPlanDTO} {s' : InventoryAdapter}
      (status : r.status = .applied) (whole : AppliedWhole plan s s') :
      AllOrNothing s plan (.ok r, plan', s')

/-- The call passes each of its checks: of its parameters, of the order, of the batch and of the
stock. -/
structure InventoryAdapter.Accepts (s : InventoryAdapter) (args : ApplyArgs)
    (plan : FulfillmentPlanDTO) : Prop where
  parameters : parameterError args.orderId plan = none
  order : ∃ order, s.openOrder args.orderId = .ok order
  newBatch : s.existingPickingIds (targetBatchId args plan) = []
  inStock : plan.allocations.findSome? s.stockError = none

/-- No cell is asked for more than it has. -/
def InventoryAdapter.Covers (s : InventoryAdapter) (allocs : List FulfillmentSplitItem) : Prop :=
  ∀ productId warehouseId,
    cellQty allocs productId warehouseId ≤ (s.levelsAt productId warehouseId).qtyAvailable

/-! ## The two ways of a call -/

theorem applyFulfillmentPlan_accepted {s : InventoryAdapter} {args : ApplyArgs}
    {plan : FulfillmentPlanDTO} (grid : s.Grid) (gridPlan : plan.Grid)
    (accepts : s.Accepts args plan) :
    ∃ head ids s', s.applyFulfillmentPlan args plan =
        (.ok (appliedResult args plan ids), recordBatchId args plan, s') ∧
      Allocated head plan.allocations s s' ids := by
  obtain ⟨order, opened⟩ := accepts.order
  obtain ⟨-, positive⟩ := allocations_positive accepts.parameters
  have cells : ∀ a ∈ plan.allocations, (s.stockStore a.productId a.warehouseId).isSome := by
    intro a mem
    exact cell_of_stock (List.findSome?_eq_none_iff.mp accepts.inStock a mem) (positive a mem)
  obtain ⟨ids, ok, done⟩ := allocateAll_spec
    { orderId := args.orderId
      order
      batchId := targetBatchId args plan
      allocations := plan.allocations
      now := args.now } grid gridPlan cells
  refine ⟨_, ids, _, ?_, done⟩
  unfold InventoryAdapter.applyFulfillmentPlan
  rw [accepts.parameters, opened]
  dsimp only
  rw [if_neg (not_not.mpr accepts.newBatch), accepts.inStock]
  dsimp only
  rw [ok]
  rfl

/-- What is not accepted raises or is the answer to a repeated batch. -/
theorem applyFulfillmentPlan_refused {s : InventoryAdapter} {args : ApplyArgs}
    {plan : FulfillmentPlanDTO} (refused : ¬ s.Accepts args plan) :
    AllOrNothing s plan (s.applyFulfillmentPlan args plan) := by
  have same : Untouched s s := ⟨rfl, rfl⟩
  unfold InventoryAdapter.applyFulfillmentPlan
  split
  · exact .raised same
  next passed =>
    split
    · exact .raised same
    next order opened =>
      dsimp only
      split
      · next known =>
          split
          · exact .answered rfl rfl known same
          · exact .raised same
      · next new =>
          split
          · exact .raised same
          · next inStock => exact absurd ⟨passed, ⟨order, opened⟩, not_not.mp new, inStock⟩ refused

/-- The promise keeps the cells from falling below zero. -/
theorem AllOrNothing.nonneg {s : InventoryAdapter} {plan : FulfillmentPlanDTO}
    {outcome : ApplyOutcome} (nonneg : s.NonNeg) (promise : AllOrNothing s plan outcome)
    (productId warehouseId : ℤ) :
    0 ≤ (outcome.2.2.levelsAt productId warehouseId).qtyAvailable := by
  have untouched : ∀ {s'}, Untouched s s' →
      0 ≤ (s'.levelsAt productId warehouseId).qtyAvailable := by
    intro s' same
    unfold InventoryAdapter.levelsAt
    rw [same.1]
    exact (nonneg productId warehouseId).1
  cases promise with
  | raised same => exact untouched same
  | answered _ _ _ same => exact untouched same
  | applied _ whole => exact whole.nonneg productId warehouseId

theorem demoStock_nonneg : demoStock.NonNeg := by
  intro productId warehouseId
  unfold InventoryAdapter.levelsAt demoStock
  dsimp only
  split
  · decide
  split
  · decide
  split
  · decide
  split
  · decide
  · decide

/-- The same warehouse twice: each allocation alone is in stock, the two together are not. -/
def demoTwice : FulfillmentPlanDTO :=
  { orderId := 1
    allocations :=
      [{ productId := 1, warehouseId := 1, warehouseName := "WH1 Main", quantity := 9 },
       { productId := 1, warehouseId := 1, warehouseName := "WH1 Main", quantity := 6 }]
    requestedQty := some 15 }

end DealFlow.Addon
