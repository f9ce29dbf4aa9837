import DealFlow.Guardian.Fulfillment
import DealFlow.Lib.Fill

/-!
# What allocation does to the stock

`allocateLine` serves one demand line from the chosen warehouses in order, and `allocateLines` all
lines in turn against the stock the earlier ones left.  Per product this is a row of stores serving
a demand (`Lib.Fill`): `LineServed` and `LinesServed` say what a call returns, and
`allocateLine_served` and `allocateLines_served` prove it by induction on the warehouses and on
the lines.

* `LinesServed.drained`: the stock of a product after all lines is the chosen row drained by the
  total demand for the product, whatever the lines it came in.
* `LinesServed.taken`: what a warehouse gave of a product is what its stock went down by.
-/

namespace DealFlow

open Lib

/-! ## Totals of a plan -/

/-- The quantity allocated to an order line. -/
def allocatedTo (allocations : List PlanAllocation) (lineId : ℤ) : ℤ :=
  ((allocations.filter fun a => a.lineId = lineId).map (·.allocatedQty)).sum

/-- The quantity of a product allocated from a warehouse. -/
def allocatedFrom (allocations : List PlanAllocation) (wid pid : ℤ) : ℤ :=
  ((allocations.filter fun a => a.warehouseId = some wid ∧ a.productId = pid).map
    (·.allocatedQty)).sum

/-- The quantity backordered for an order line. -/
def backorderTo (backorders : List PlanAllocation) (lineId : ℤ) : ℤ :=
  ((backorders.filter fun b => b.lineId = lineId).map (·.backorderQty)).sum

/-- The quantity backordered of a product. -/
def backorderOf (backorders : List PlanAllocation) (pid : ℤ) : ℤ :=
  ((backorders.filter fun b => b.productId = pid).map (·.backorderQty)).sum

/-- The quantity the lines request of a product. -/
def requestedOf (lines : List StockableLine) (pid : ℤ) : ℤ :=
  ((lines.filter fun l => l.productId = pid).map (·.requestedQty)).sum

/-- The quantity the lines request under a line id. -/
def requestedBy (lines : List StockableLine) (lineId : ℤ) : ℤ :=
  ((lines.filter fun l => l.lineId = lineId).map (·.requestedQty)).sum

/-- The stock of a product along a row of warehouses. -/
def stockRow (stock : StockTable) (ws : List WarehouseInfo) (pid : ℤ) : List ℤ :=
  ws.map fun w => stock w.warehouseId pid

@[simp] theorem stockRow_cons (stock : StockTable) (w : WarehouseInfo) (ws : List WarehouseInfo)
    (pid : ℤ) :
    stockRow stock (w :: ws) pid = stock w.warehouseId pid :: stockRow stock ws pid := rfl

@[simp] theorem allocatedTo_nil (lineId : ℤ) : allocatedTo [] lineId = 0 := rfl

@[simp] theorem allocatedFrom_nil (wid pid : ℤ) : allocatedFrom [] wid pid = 0 := rfl

@[simp] theorem backorderTo_nil (lineId : ℤ) : backorderTo [] lineId = 0 := rfl

@[simp] theorem backorderOf_nil (pid : ℤ) : backorderOf [] pid = 0 := rfl

@[simp] theorem allocatedTo_append (as bs : List PlanAllocation) (lineId : ℤ) :
    allocatedTo (as ++ bs) lineId = allocatedTo as lineId + allocatedTo bs lineId := by
  simp [allocatedTo, List.filter_append]

@[simp] theorem allocatedFrom_append (as bs : List PlanAllocation) (wid pid : ℤ) :
    allocatedFrom (as ++ bs) wid pid = allocatedFrom as wid pid + allocatedFrom bs wid pid := by
  simp [allocatedFrom, List.filter_append]

@[simp] theorem backorderTo_append (as bs : List PlanAllocation) (lineId : ℤ) :
    backorderTo (as ++ bs) lineId = backorderTo as lineId + backorderTo bs lineId := by
  simp [backorderTo, List.filter_append]

@[simp] theorem backorderOf_append (as bs : List PlanAllocation) (pid : ℤ) :
    backorderOf (as ++ bs) pid = backorderOf as pid + backorderOf bs pid := by
  simp [backorderOf, List.filter_append]

theorem allocatedTo_cons (a : PlanAllocation) (as : List PlanAllocation) (lineId : ℤ) :
    allocatedTo (a :: as) lineId =
      (if a.lineId = lineId then a.allocatedQty else 0) + allocatedTo as lineId := by
  by_cases h : a.lineId = lineId <;> simp [allocatedTo, h]

theorem allocatedFrom_cons (a : PlanAllocation) (as : List PlanAllocation) (wid pid : ℤ) :
    allocatedFrom (a :: as) wid pid =
      (if a.warehouseId = some wid ∧ a.productId = pid then a.allocatedQty else 0) +
        allocatedFrom as wid pid := by
  by_cases h : a.warehouseId = some wid ∧ a.productId = pid <;> simp [allocatedFrom, h]

theorem requestedOf_cons (l : StockableLine) (ls : List StockableLine) (pid : ℤ) :
    requestedOf (l :: ls) pid =
      (if l.productId = pid then l.requestedQty else 0) + requestedOf ls pid := by
  by_cases h : l.productId = pid <;> simp [requestedOf, h]

theorem requestedBy_cons (l : StockableLine) (ls : List StockableLine) (lineId : ℤ) :
    requestedBy (l :: ls) lineId =
      (if l.lineId = lineId then l.requestedQty else 0) + requestedBy ls lineId := by
  by_cases h : l.lineId = lineId <;> simp [requestedBy, h]

theorem requestedOf_nonneg {ls : List StockableLine} (nonneg : ∀ l ∈ ls, 0 ≤ l.requestedQty)
    (pid : ℤ) : 0 ≤ requestedOf ls pid := by
  refine List.sum_nonneg fun x mem => ?_
  obtain ⟨l, memL, rfl⟩ := List.mem_map.mp mem
  exact nonneg l (List.mem_filter.mp memL).1

/-! ## One line -/

/-- What serving `needed` of a line from the warehouses `ws` returns. -/
structure LineServed (line : StockableLine) (ws : List WarehouseInfo) (stock : StockTable)
    (needed : ℤ) (result : List PlanAllocation × StockTable × ℤ) : Prop where
  drained : stockRow result.2.1 ws line.productId =
    drain (stockRow stock ws line.productId) needed
  short : result.2.2 = unmet (stockRow stock ws line.productId) needed
  otherProduct : ∀ wid pid, pid ≠ line.productId → result.2.1 wid pid = stock wid pid
  otherWarehouse : ∀ wid pid, (∀ w ∈ ws, w.warehouseId ≠ wid) →
    result.2.1 wid pid = stock wid pid
  taken : ∀ wid pid, allocatedFrom result.1 wid pid = stock wid pid - result.2.1 wid pid
  total : allocatedTo result.1 line.lineId + result.2.2 = needed
  named : ∀ a ∈ result.1, a.lineId = line.lineId ∧ a.productId = line.productId ∧
    0 < a.allocatedQty ∧ ∃ w ∈ ws, a.warehouseId = some w.warehouseId

@[simp] theorem allocateLine_nil (line : StockableLine) (stock : StockTable) (needed : ℤ) :
    allocateLine line [] stock needed = ([], stock, needed) := rfl

/-- A line that needs nothing takes nothing. -/
theorem allocateLine_zero (line : StockableLine) (ws : List WarehouseInfo) (stock : StockTable) :
    allocateLine line ws stock 0 = ([], stock, 0) := by
  cases ws with
  | nil => rfl
  | cons w ws => simp [allocateLine]

/-- The allocation a line takes from a warehouse. -/
def allocationFrom (line : StockableLine) (w : WarehouseInfo) (qty : ℤ) : PlanAllocation :=
  { lineId := line.lineId
    productId := line.productId
    warehouseId := some w.warehouseId
    requestedQty := qty
    allocatedQty := qty
    backorderQty := 0
    shippingCost := w.shippingCostWeight }

/-- A warehouse with stock gives the smaller of the stock and the need, and the rest of the row
serves what is left. -/
theorem allocateLine_take {line : StockableLine} {w : WarehouseInfo} {ws : List WarehouseInfo}
    {stock : StockTable} {needed : ℤ}
    (gives : 0 < stock w.warehouseId line.productId ∧ 0 < needed) :
    allocateLine line (w :: ws) stock needed =
      let qty := min needed (stock w.warehouseId line.productId)
      let rest := allocateLine line ws (takeStock stock w.warehouseId line.productId qty)
        (needed - qty)
      (allocationFrom line w qty :: rest.1, rest.2) := by
  rw [allocateLine]
  simp only [gives, and_self, if_true]
  split
  · next served =>
      rw [served, allocateLine_zero]
      rfl
  · rfl

/-- A warehouse without stock, or past the end of the need, is passed over. -/
theorem allocateLine_skip {line : StockableLine} {w : WarehouseInfo} {ws : List WarehouseInfo}
    {stock : StockTable} {needed : ℤ}
    (passes : ¬(0 < stock w.warehouseId line.productId ∧ 0 < needed)) :
    allocateLine line (w :: ws) stock needed = allocateLine line ws stock needed := by
  rw [allocateLine]
  simp only [passes, if_false]
  split
  · next done => rw [done, allocateLine_zero]
  · rfl

theorem stockRow_takeStock (stock : StockTable) {ws : List WarehouseInfo} {wid : ℤ}
    (other : ∀ w ∈ ws, w.warehouseId ≠ wid) (pid pid' qty : ℤ) :
    stockRow (takeStock stock wid pid qty) ws pid' = stockRow stock ws pid' := by
  refine List.map_congr_left fun w mem => ?_
  simp [takeStock, other w mem]

theorem stockRow_nonneg {stock : StockTable} (stocked : ∀ wid pid, 0 ≤ stock wid pid)
    (ws : List WarehouseInfo) (pid : ℤ) : ∀ x ∈ stockRow stock ws pid, 0 ≤ x := by
  intro x mem
  obtain ⟨w, -, rfl⟩ := List.mem_map.mp mem
  exact stocked _ _

/-- What a warehouse keeps of a product is not negative when the row was drained and the other
warehouses kept theirs. -/
theorem left_nonneg_of_drained {stock left : StockTable} {ws : List WarehouseInfo} {wid pid d : ℤ}
    (stocked : ∀ wid pid, 0 ≤ stock wid pid)
    (drained : stockRow left ws pid = drain (stockRow stock ws pid) d)
    (others : (∀ w ∈ ws, w.warehouseId ≠ wid) → left wid pid = stock wid pid) :
    0 ≤ left wid pid := by
  by_cases inside : ∃ w ∈ ws, w.warehouseId = wid
  · rcases inside with ⟨w, mem, rfl⟩
    have kept : left w.warehouseId pid ∈ stockRow left ws pid :=
      List.mem_map.mpr ⟨w, mem, rfl⟩
    rw [drained] at kept
    exact drain_nonneg _ _ _ kept
  · rw [others fun w mem same => inside ⟨w, mem, same⟩]
    exact stocked wid pid

/-- A warehouse of the row gives `qty`, and the rest of the row serves what is left. -/
theorem LineServed.take {line : StockableLine} {w : WarehouseInfo} {ws : List WarehouseInfo}
    {stock : StockTable} {needed qty : ℤ} {result : List PlanAllocation × StockTable × ℤ}
    (other : ∀ v ∈ ws, v.warehouseId ≠ w.warehouseId)
    (gives : min (stock w.warehouseId line.productId) needed = qty) (pos : 0 < qty)
    (rest : LineServed line ws (takeStock stock w.warehouseId line.productId qty) (needed - qty)
      result) :
    LineServed line (w :: ws) stock needed (allocationFrom line w qty :: result.1, result.2) := by
  have rowRest := stockRow_takeStock stock other line.productId
  have headLeft := rest.otherWarehouse w.warehouseId line.productId other
  refine ⟨?_, ?_, ?_, ?_, ?_, ?_, ?_⟩
  · rw [stockRow_cons, stockRow_cons, drain_cons, rest.drained, rowRest, gives, headLeft]
    simp [takeStock]
  · rw [stockRow_cons, unmet_cons, gives, rest.short, rowRest]
  · intro wid pid differs
    rw [rest.otherProduct wid pid differs]
    simp [takeStock, differs]
  · intro wid pid outside
    obtain ⟨notHead, notTail⟩ := List.forall_mem_cons.mp outside
    rw [rest.otherWarehouse wid pid notTail]
    simp [takeStock, Ne.symm notHead]
  · intro wid pid
    rw [allocatedFrom_cons, rest.taken wid pid]
    by_cases here : wid = w.warehouseId ∧ pid = line.productId
    · rcases here with ⟨rfl, rfl⟩
      simp [allocationFrom, takeStock]
      ring
    · have elsewhere : ¬(w.warehouseId = wid ∧ line.productId = pid) := fun h =>
        here ⟨h.1.symm, h.2.symm⟩
      simp [allocationFrom, takeStock, here, elsewhere]
  · have total := rest.total
    rw [allocatedTo_cons]
    simp only [allocationFrom, if_true]
    omega
  · rw [List.forall_mem_cons]
    refine ⟨⟨rfl, rfl, pos, w, List.mem_cons_self, rfl⟩, fun a mem => ?_⟩
    obtain ⟨lineEq, productEq, pos', v, memV, named⟩ := rest.named a mem
    exact ⟨lineEq, productEq, pos', v, List.mem_cons_of_mem _ memV, named⟩

/-- A warehouse of the row gives nothing, and the rest of the row serves the line. -/
theorem LineServed.skip {line : StockableLine} {w : WarehouseInfo} {ws : List WarehouseInfo}
    {stock : StockTable} {needed : ℤ} {result : List PlanAllocation × StockTable × ℤ}
    (other : ∀ v ∈ ws, v.warehouseId ≠ w.warehouseId)
    (gives : min (stock w.warehouseId line.productId) needed = 0)
    (rest : LineServed line ws stock needed result) :
    LineServed line (w :: ws) stock needed result := by
  have headLeft := rest.otherWarehouse w.warehouseId line.productId other
  refine ⟨?_, ?_, rest.otherProduct, ?_, rest.taken, rest.total, ?_⟩
  · rw [stockRow_cons, stockRow_cons, drain_cons, gives, sub_zero, sub_zero, headLeft,
      rest.drained]
  · rw [stockRow_cons, unmet_cons, gives, sub_zero, rest.short]
  · intro wid pid outside
    exact rest.otherWarehouse wid pid (List.forall_mem_cons.mp outside).2
  · intro a mem
    obtain ⟨lineEq, productEq, pos, v, memV, named⟩ := rest.named a mem
    exact ⟨lineEq, productEq, pos, v, List.mem_cons_of_mem _ memV, named⟩

theorem allocateLine_served (line : StockableLine) {ws : List WarehouseInfo} {stock : StockTable}
    {needed : ℤ} (distinct : (ws.map (·.warehouseId)).Nodup) (need : 0 ≤ needed)
    (stocked : ∀ w ∈ ws, 0 ≤ stock w.warehouseId line.productId) :
    LineServed line ws stock needed (allocateLine line ws stock needed) := by
  induction ws generalizing stock needed with
  | nil =>
      exact
        { drained := rfl
          short := rfl
          otherProduct := fun _ _ _ => rfl
          otherWarehouse := fun _ _ _ => rfl
          taken := by simp
          total := by simp
          named := by simp }
  | cons w ws ih =>
      obtain ⟨notMem, distinctTail⟩ := List.nodup_cons.mp distinct
      have other : ∀ v ∈ ws, v.warehouseId ≠ w.warehouseId := fun v mem same =>
        notMem (List.mem_map.mpr ⟨v, mem, same⟩)
      have headStock := stocked w List.mem_cons_self
      have tailStock : ∀ v ∈ ws, 0 ≤ stock v.warehouseId line.productId := fun v mem =>
        stocked v (List.mem_cons_of_mem _ mem)
      by_cases gives : 0 < stock w.warehouseId line.productId ∧ 0 < needed
      · rw [allocateLine_take gives]
        have needLeft : 0 ≤ needed - min needed (stock w.warehouseId line.productId) :=
          sub_nonneg.mpr (min_le_left _ _)
        refine LineServed.take other (min_comm _ _) (lt_min gives.2 gives.1)
          (ih distinctTail needLeft fun v mem => ?_)
        simpa [takeStock, other v mem] using tailStock v mem
      · -- `w` has nothing, or nothing is needed
        rw [allocateLine_skip gives]
        have nothing : min (stock w.warehouseId line.productId) needed = 0 := by omega
        exact LineServed.skip other nothing (ih distinctTail need tailStock)

section AfterOneLine

variable {line : StockableLine} {ws : List WarehouseInfo} {stock : StockTable} {needed : ℤ}
  {result : List PlanAllocation × StockTable × ℤ}

theorem LineServed.short_nonneg (one : LineServed line ws stock needed result)
    (stocked : ∀ wid pid, 0 ≤ stock wid pid) (need : 0 ≤ needed) : 0 ≤ result.2.2 := by
  rw [one.short]
  exact unmet_nonneg (stockRow_nonneg stocked ws line.productId) need

/-- The stock left over is never negative: it is a drained row, or untouched. -/
theorem LineServed.left_nonneg (one : LineServed line ws stock needed result)
    (stocked : ∀ wid pid, 0 ≤ stock wid pid) (wid pid : ℤ) : 0 ≤ result.2.1 wid pid := by
  by_cases product : pid = line.productId
  · subst product
    exact left_nonneg_of_drained stocked one.drained (one.otherWarehouse wid _)
  · rw [one.otherProduct wid pid product]
    exact stocked wid pid

/-- The row of a product is drained if it is the line's product, and as it was otherwise. -/
theorem LineServed.row (one : LineServed line ws stock needed result) (pid : ℤ) :
    stockRow result.2.1 ws pid =
      if line.productId = pid then drain (stockRow stock ws pid) needed
      else stockRow stock ws pid := by
  split
  · next same =>
      subst same
      exact one.drained
  · next differs =>
      exact List.map_congr_left fun w _ => one.otherProduct w.warehouseId pid (Ne.symm differs)

/-- Every allocation is to the line's own id. -/
theorem LineServed.allocatedTo (one : LineServed line ws stock needed result) (lineId : ℤ) :
    allocatedTo result.1 lineId + (if line.lineId = lineId then result.2.2 else 0) =
      if line.lineId = lineId then needed else 0 := by
  by_cases same : line.lineId = lineId
  · subst same
    rw [if_pos rfl, if_pos rfl]
    exact one.total
  · have empty : (result.1.filter fun a => a.lineId = lineId) = [] := by
      refine List.filter_eq_nil_iff.mpr fun a mem => ?_
      simpa [(one.named a mem).1] using same
    rw [if_neg same, if_neg same, DealFlow.allocatedTo, empty]
    rfl

end AfterOneLine

/-! ## All lines -/

/-- What serving all `lines` in turn from the warehouses `ws` returns. -/
structure LinesServed (lines : List StockableLine) (ws : List WarehouseInfo) (stock : StockTable)
    (result : List PlanAllocation × List PlanAllocation × StockTable) : Prop where
  drained : ∀ pid, stockRow result.2.2 ws pid =
    drain (stockRow stock ws pid) (requestedOf lines pid)
  backordered : ∀ pid, backorderOf result.2.1 pid =
    unmet (stockRow stock ws pid) (requestedOf lines pid)
  otherWarehouse : ∀ wid pid, (∀ w ∈ ws, w.warehouseId ≠ wid) →
    result.2.2 wid pid = stock wid pid
  taken : ∀ wid pid, allocatedFrom result.1 wid pid = stock wid pid - result.2.2 wid pid
  total : ∀ lineId, allocatedTo result.1 lineId + backorderTo result.2.1 lineId =
    requestedBy lines lineId
  allocationNamed : ∀ a ∈ result.1, 0 < a.allocatedQty ∧
    (∃ l ∈ lines, a.lineId = l.lineId ∧ a.productId = l.productId) ∧
    ∃ w ∈ ws, a.warehouseId = some w.warehouseId
  backorderNamed : ∀ b ∈ result.2.1, 0 < b.backorderQty ∧
    ∃ l ∈ lines, b.lineId = l.lineId ∧ b.productId = l.productId

/-- The backorder entry of a line, if one is needed. -/
def shortfall (line : StockableLine) (qty : ℤ) : List PlanAllocation :=
  if 0 < qty then [backorderFor line qty] else []

theorem backorderTo_shortfall {line : StockableLine} {qty : ℤ} (nonneg : 0 ≤ qty) (lineId : ℤ) :
    backorderTo (shortfall line qty) lineId = if line.lineId = lineId then qty else 0 := by
  unfold shortfall
  rcases nonneg.lt_or_eq with pos | rfl
  · by_cases h : line.lineId = lineId <;> simp [pos, backorderTo, backorderFor, h]
  · simp

theorem backorderOf_shortfall {line : StockableLine} {qty : ℤ} (nonneg : 0 ≤ qty) (pid : ℤ) :
    backorderOf (shortfall line qty) pid = if line.productId = pid then qty else 0 := by
  unfold shortfall
  rcases nonneg.lt_or_eq with pos | rfl
  · by_cases h : line.productId = pid <;> simp [pos, backorderOf, backorderFor, h]
  · simp

theorem allocateLines_cons (chosen : List WarehouseInfo) (l : StockableLine)
    (ls : List StockableLine) (stock : StockTable) :
    allocateLines chosen (l :: ls) stock =
      let one := allocateLine l chosen stock l.requestedQty
      let rest := allocateLines chosen ls one.2.1
      (one.1 ++ rest.1, shortfall l one.2.2 ++ rest.2.1, rest.2.2) := rfl

theorem shortfall_named {line : StockableLine} {qty : ℤ} :
    ∀ b ∈ shortfall line qty, 0 < b.backorderQty ∧
      b.lineId = line.lineId ∧ b.productId = line.productId := by
  unfold shortfall
  intro b mem
  split at mem
  · next pos =>
      obtain rfl := List.mem_singleton.mp mem
      exact ⟨pos, rfl, rfl⟩
  · cases mem

/-- One more line in front: served first, before the others. -/
theorem LinesServed.cons {l : StockableLine} {ls : List StockableLine} {ws : List WarehouseInfo}
    {stock : StockTable} {first : List PlanAllocation × StockTable × ℤ}
    {result : List PlanAllocation × List PlanAllocation × StockTable}
    (one : LineServed l ws stock l.requestedQty first) (rest : LinesServed ls ws first.2.1 result)
    (short : 0 ≤ first.2.2) (later : ∀ pid, 0 ≤ requestedOf ls pid) :
    LinesServed (l :: ls) ws stock
      (first.1 ++ result.1, shortfall l first.2.2 ++ result.2.1, result.2.2) := by
  refine ⟨?_, ?_, ?_, ?_, ?_, ?_, ?_⟩
  · intro pid
    rw [rest.drained pid, one.row pid, requestedOf_cons]
    split
    · exact drain_drain _ (later pid)
    · rw [zero_add]
  · intro pid
    rw [backorderOf_append, backorderOf_shortfall short, rest.backordered pid, one.row pid,
      requestedOf_cons]
    split
    · next same =>
        subst same
        rw [one.short, unmet_add_unmet_drain _ (later _)]
    · rw [zero_add, zero_add]
  · intro wid pid outside
    rw [rest.otherWarehouse wid pid outside, one.otherWarehouse wid pid outside]
  · intro wid pid
    rw [allocatedFrom_append, one.taken wid pid, rest.taken wid pid]
    ring
  · intro lineId
    have firstTotal := one.allocatedTo lineId
    have restTotal := rest.total lineId
    rw [allocatedTo_append, backorderTo_append, backorderTo_shortfall short, requestedBy_cons]
    omega
  · intro a mem
    rcases List.mem_append.mp mem with here | after
    · obtain ⟨lineEq, productEq, pos, named⟩ := one.named a here
      exact ⟨pos, ⟨l, List.mem_cons_self, lineEq, productEq⟩, named⟩
    · obtain ⟨pos, ⟨k, memK, eqs⟩, named⟩ := rest.allocationNamed a after
      exact ⟨pos, ⟨k, List.mem_cons_of_mem _ memK, eqs⟩, named⟩
  · intro b mem
    rcases List.mem_append.mp mem with here | after
    · obtain ⟨pos, eqs⟩ := shortfall_named b here
      exact ⟨pos, l, List.mem_cons_self, eqs⟩
    · obtain ⟨pos, k, memK, eqs⟩ := rest.backorderNamed b after
      exact ⟨pos, k, List.mem_cons_of_mem _ memK, eqs⟩

theorem allocateLines_served {lines : List StockableLine} {ws : List WarehouseInfo}
    {stock : StockTable} (distinct : (ws.map (·.warehouseId)).Nodup)
    (requests : ∀ l ∈ lines, 0 ≤ l.requestedQty) (stocked : ∀ wid pid, 0 ≤ stock wid pid) :
    LinesServed lines ws stock (allocateLines ws lines stock) := by
  induction lines generalizing stock with
  | nil =>
      exact
        { drained := fun pid => (drain_zero (stockRow_nonneg stocked ws pid)).symm
          backordered := fun pid => by
            rw [show requestedOf [] pid = 0 from rfl,
              unmet_eq (stockRow_nonneg stocked ws pid) le_rfl]
            have nonneg := List.sum_nonneg (stockRow_nonneg stocked ws pid)
            simp only [allocateLines, backorderOf_nil]
            omega
          otherWarehouse := fun _ _ _ => rfl
          taken := by simp [allocateLines]
          total := by simp [allocateLines, requestedBy]
          allocationNamed := by simp [allocateLines]
          backorderNamed := by simp [allocateLines] }
  | cons l ls ih =>
      have need : 0 ≤ l.requestedQty := requests l List.mem_cons_self
      have needs : ∀ k ∈ ls, 0 ≤ k.requestedQty := fun k mem =>
        requests k (List.mem_cons_of_mem _ mem)
      have one := allocateLine_served l distinct need fun w _ => stocked w.warehouseId l.productId
      rw [allocateLines_cons]
      exact LinesServed.cons one (ih needs (one.left_nonneg stocked))
        (one.short_nonneg stocked need) (requestedOf_nonneg needs)

/-- No warehouse gives more of a product than it has. -/
theorem LinesServed.taken_le {lines : List StockableLine} {ws : List WarehouseInfo}
    {stock left : StockTable} {allocations backorders : List PlanAllocation}
    (served : LinesServed lines ws stock (allocations, backorders, left))
    (stocked : ∀ wid pid, 0 ≤ stock wid pid) (wid pid : ℤ) :
    allocatedFrom allocations wid pid ≤ stock wid pid := by
  have nonneg : 0 ≤ left wid pid := left_nonneg_of_drained stocked (served.drained pid)
    (served.otherWarehouse wid pid)
  calc allocatedFrom allocations wid pid = stock wid pid - left wid pid := served.taken wid pid
    _ ≤ stock wid pid := by omega

/-- Without warehouses every line is backordered whole. -/
theorem LinesServed.backordered_whole {lines : List StockableLine} {stock : StockTable}
    (positive : ∀ l ∈ lines, 0 < l.requestedQty) (stocked : ∀ wid pid, 0 ≤ stock wid pid) :
    LinesServed lines [] stock
      ([], lines.map fun l => backorderFor l l.requestedQty, stock) := by
  have whole : allocateLines [] lines stock =
      ([], lines.map fun l => backorderFor l l.requestedQty, stock) := by
    induction lines with
    | nil => rfl
    | cons l ls ih =>
        obtain ⟨pos, later⟩ := List.forall_mem_cons.mp positive
        rw [allocateLines_cons]
        dsimp only [allocateLine_nil]
        rw [ih later, shortfall, if_pos pos]
        rfl
  rw [← whole]
  exact allocateLines_served List.nodup_nil (fun l mem => (positive l mem).le) stocked

end DealFlow
