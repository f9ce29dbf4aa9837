import DealFlow.Lib.Significant
import DealFlow.Lib.SubsetSearch
import Mathlib.Algebra.BigOperators.Group.Finset.Basic
import Mathlib.Data.List.AList
import Mathlib.Data.List.MinMax
import Mathlib.Data.Prod.Lex

/-!
# The fulfillment planner

`calculateFulfillmentPlan` of `app/guardian/fulfillment.py`: choose a set of warehouses for the
positive demand lines of an order, then allocate line by line from the chosen warehouses in
ascending cost order, the shortfall of a line becoming a backorder.

Quantities are Python integers.  A cost weight is a `Decimal`, here a rational; the greedy choice
compares its conversion to a double.  `availability` maps a product and a warehouse to a quantity
where the two dictionaries have an entry.
-/

namespace DealFlow

open Lib

/-- The order the sort keys compute with. -/
instance intPreorder : Preorder ℤ := Int.instLinearOrder.toPreorder

structure StockableLine where
  lineId : ℤ
  productId : ℤ
  requestedQty : ℤ
  deriving DecidableEq, Repr

structure WarehouseInfo where
  warehouseId : ℤ
  name : String
  shippingCostWeight : ℚ
  priority : ℤ := 1
  active : Bool := true
  deriving DecidableEq, Repr

structure PlanAllocation where
  lineId : ℤ
  productId : ℤ
  warehouseId : Option ℤ
  requestedQty : ℤ
  allocatedQty : ℤ
  backorderQty : ℤ
  shippingCost : ℚ := 0
  deriving DecidableEq, Repr

/-- The notes stored with a plan: a reason when nothing was planned, else what was considered. -/
inductive AlgorithmNotes
  | reason (text : String)
  | planned (strategy : String) (consideredWarehouseIds chosenWarehouseIds : List ℤ)
      (usedWarehouseIds : Finset ℤ) (shipmentCount : ℕ) (estimatedShippingCost : ℚ)
      (shortfallBackordersCount : ℕ)

structure FulfillmentCalculationResult where
  strategy : String
  estimatedShipments : ℕ
  estimatedShippingCost : ℚ
  allocations : List PlanAllocation
  backorders : List PlanAllocation
  algorithmNotes : AlgorithmNotes

/-- Quantity by product and warehouse, where recorded. -/
abbrev AvailabilityTable := ℤ → ℤ → Option ℤ

/-- Remaining stock by warehouse and product. -/
abbrev StockTable := ℤ → ℤ → ℤ

/-! ## Demand and stock -/

/-- The lines with positive demand. -/
def validLines (lines : List StockableLine) : List StockableLine :=
  lines.filter fun l => 0 < l.requestedQty

/-- The dictionary from product to demanded quantity, built line by line. -/
def totalDemand (lines : List StockableLine) : AList fun _ : ℤ => ℤ :=
  lines.foldl (fun demand l =>
    demand.insert l.productId ((demand.lookup l.productId).getD 0 + l.requestedQty)) ∅

/-- The quantity a demand dictionary has for a product, 0 when it has none. -/
def demandOf (demand : AList fun _ : ℤ => ℤ) (pid : ℤ) : ℤ :=
  (demand.lookup pid).getD 0

def getAvail (availability : AvailabilityTable) : StockTable := fun wid pid =>
  max 0 ((availability pid wid).getD 0)

/-! ## Choosing the warehouses -/

/-- The sort key of the planner: cost weight, then priority, then id. -/
def warehouseKey (w : WarehouseInfo) : ℚ ×ₗ ℤ ×ₗ ℤ :=
  toLex (w.shippingCostWeight, toLex (w.priority, w.warehouseId))

def sortWarehouses (warehouses : List WarehouseInfo) : List WarehouseInfo :=
  warehouses.insertionSort fun v w => warehouseKey v ≤ warehouseKey w

/-- The warehouses that cover the whole demand alone. -/
def fullCoverageCandidates (stock : StockTable) (demand : AList fun _ : ℤ => ℤ)
    (sortedWarehouses : List WarehouseInfo) : List WarehouseInfo :=
  sortedWarehouses.filter fun w =>
    demand.keys.all fun pid => demandOf demand pid ≤ stock w.warehouseId pid

/-- The stock of a set of warehouses covers every demanded product. -/
def canCover (stock : StockTable) (demand : AList fun _ : ℤ => ℤ) (s : List WarehouseInfo) :
    Bool :=
  demand.keys.all fun pid =>
    demandOf demand pid ≤ (s.map fun w => stock w.warehouseId pid).sum

/-- The order in which subsets of one size are tried: total weight, then total priority. -/
def subsetKey (s : List WarehouseInfo) : ℚ ×ₗ ℤ :=
  toLex ((s.map (·.shippingCostWeight)).sum, (s.map (·.priority)).sum)

/-- The exhaustive search: the first covering subset of at least two warehouses, else every
warehouse with any stock of a demanded product, else every warehouse. -/
def exhaustiveChoice (stock : StockTable) (demand : AList fun _ : ℤ => ℤ)
    (sortedWarehouses : List WarehouseInfo) : List WarehouseInfo :=
  match searchBySize (canCover stock demand) subsetKey
      (List.range' 2 (sortedWarehouses.length - 1)) sortedWarehouses with
  | some subset => subset
  | none =>
      let relevant := sortedWarehouses.filter fun w =>
        demand.keys.any fun pid => 0 < stock w.warehouseId pid
      if relevant.isEmpty then sortedWarehouses else relevant

/-- How much of the remaining demand a warehouse could serve. -/
def coverageGain (stock : StockTable) (pids : List ℤ) (remaining : ℤ → ℤ) (w : WarehouseInfo) :
    ℤ :=
  (pids.map fun pid => min (stock w.warehouseId pid) (remaining pid)).sum

def greedyKey (stock : StockTable) (pids : List ℤ) (remaining : ℤ → ℤ) (w : WarehouseInfo) :
    ℤ ×ₗ ℚ ×ₗ ℤ :=
  toLex (coverageGain stock pids remaining w,
    toLex (-float64 w.shippingCostWeight, -w.priority))

/-- The demand left once a warehouse has served what it can of the products `pids`. -/
def serve (stock : StockTable) (pids : List ℤ) (remaining : ℤ → ℤ) (w : WarehouseInfo) : ℤ → ℤ :=
  fun pid =>
    if pid ∈ pids then remaining pid - min (stock w.warehouseId pid) (remaining pid)
    else remaining pid

/-- The greedy loop: while demand remains, take the warehouse of the pool with the largest gain. -/
def greedySelect (stock : StockTable) (pids : List ℤ) (remaining : ℤ → ℤ)
    (pool selected : List WarehouseInfo) : List WarehouseInfo :=
  if pids.any fun pid => 0 < remaining pid then
    match _best : pool.argmax (greedyKey stock pids remaining) with
    | none => selected
    | some w =>
        if coverageGain stock pids remaining w = 0 then selected
        else
          greedySelect stock pids (serve stock pids remaining w) (pool.erase w) (selected ++ [w])
  else selected
termination_by pool.length
decreasing_by
  have mem : w ∈ pool := List.argmax_mem _best
  have pos := List.length_pos_of_mem mem
  rw [List.length_erase_of_mem mem]
  omega

def greedyChoice (stock : StockTable) (demand : AList fun _ : ℤ => ℤ)
    (sortedWarehouses : List WarehouseInfo) : List WarehouseInfo :=
  let selected := greedySelect stock demand.keys (demandOf demand) sortedWarehouses []
  if selected.isEmpty then sortedWarehouses else selected

/-- The strategy and the warehouses it chooses, before they are sorted for allocation. -/
def chooseWarehouses (stock : StockTable) (demand : AList fun _ : ℤ => ℤ)
    (sortedWarehouses : List WarehouseInfo) (forceStrategy : Option String) :
    String × List WarehouseInfo :=
  let single :=
    if forceStrategy ≠ some "GREEDY" ∧ forceStrategy ≠ some "EXHAUSTIVE" then
      (fullCoverageCandidates stock demand sortedWarehouses).argmin warehouseKey
    else none
  match single with
  | some w => ("FULL_COVERAGE", [w])
  | none =>
      if sortedWarehouses.length ≤ 6 ∧ forceStrategy ≠ some "GREEDY" then
        ("EXHAUSTIVE", exhaustiveChoice stock demand sortedWarehouses)
      else ("GREEDY", greedyChoice stock demand sortedWarehouses)

/-! ## Allocation -/

/-- The stock table after taking `qty` of a product from a warehouse. -/
def takeStock (stock : StockTable) (wid pid qty : ℤ) : StockTable := fun wid' pid' =>
  if wid' = wid ∧ pid' = pid then stock wid' pid' - qty else stock wid' pid'

/-- One demand line against the chosen warehouses: its allocations, the stock left, and the
quantity still needed. -/
def allocateLine (line : StockableLine) :
    List WarehouseInfo → StockTable → ℤ → List PlanAllocation × StockTable × ℤ
  | [], stock, needed => ([], stock, needed)
  | w :: ws, stock, needed =>
      let availHere := stock w.warehouseId line.productId
      if 0 < availHere ∧ 0 < needed then
        let allocQty := min needed availHere
        let allocation : PlanAllocation :=
          { lineId := line.lineId
            productId := line.productId
            warehouseId := some w.warehouseId
            requestedQty := allocQty
            allocatedQty := allocQty
            backorderQty := 0
            shippingCost := w.shippingCostWeight }
        let stock' := takeStock stock w.warehouseId line.productId allocQty
        if needed - allocQty = 0 then ([allocation], stock', 0)
        else
          let rest := allocateLine line ws stock' (needed - allocQty)
          (allocation :: rest.1, rest.2)
      else if needed = 0 then ([], stock, needed)
      else allocateLine line ws stock needed

def backorderFor (line : StockableLine) (qty : ℤ) : PlanAllocation :=
  { lineId := line.lineId
    productId := line.productId
    warehouseId := none
    requestedQty := qty
    allocatedQty := 0
    backorderQty := qty }

/-- All demand lines in turn: the allocations, the backorders and the stock left. -/
def allocateLines (chosen : List WarehouseInfo) :
    List StockableLine → StockTable → List PlanAllocation × List PlanAllocation × StockTable
  | [], stock => ([], [], stock)
  | l :: ls, stock =>
      let one := allocateLine l chosen stock l.requestedQty
      let rest := allocateLines chosen ls one.2.1
      (one.1 ++ rest.1,
        (if 0 < one.2.2 then [backorderFor l one.2.2] else []) ++ rest.2.1,
        rest.2.2)

/-- The ids of the warehouses that received an allocation. -/
def warehousesUsed (allocations : List PlanAllocation) : Finset ℤ :=
  (allocations.filterMap (·.warehouseId)).toFinset

/-- The cost weight recorded for a warehouse id in the dictionary of the chosen warehouses. -/
def weightOf (chosen : List WarehouseInfo) (wid : ℤ) : ℚ :=
  ((chosen.reverse.find? fun w => w.warehouseId = wid).map (·.shippingCostWeight)).getD 0

def calculateFulfillmentPlan (lines : List StockableLine) (warehouses : List WarehouseInfo)
    (availability : AvailabilityTable) (forceStrategy : Option String := none) :
    FulfillmentCalculationResult :=
  if (validLines lines).isEmpty then
    { strategy := "NO_STOCKABLE_ITEMS"
      estimatedShipments := 0
      estimatedShippingCost := 0
      allocations := []
      backorders := []
      algorithmNotes := .reason "No stockable items with positive demand in order." }
  else if (warehouses.filter (·.active)).isEmpty then
    { strategy := "NO_ACTIVE_WAREHOUSES"
      estimatedShipments := 0
      estimatedShippingCost := 0
      allocations := []
      backorders := (validLines lines).map fun l => backorderFor l l.requestedQty
      algorithmNotes := .reason "No active warehouses available." }
  else
    let demand := totalDemand (validLines lines)
    let stock := getAvail availability
    let sortedWarehouses := sortWarehouses (warehouses.filter (·.active))
    let choice := chooseWarehouses stock demand sortedWarehouses forceStrategy
    let chosen := sortWarehouses choice.2
    let allocated := allocateLines chosen (validLines lines) stock
    let used := warehousesUsed allocated.1
    let shippingCost := ∑ wid ∈ used, weightOf chosen wid
    { strategy := choice.1
      estimatedShipments := used.card
      estimatedShippingCost := shippingCost
      allocations := allocated.1
      backorders := allocated.2.1
      algorithmNotes :=
        .planned choice.1 (sortedWarehouses.map (·.warehouseId)) (chosen.map (·.warehouseId)) used
          used.card shippingCost allocated.2.1.length }

end DealFlow
