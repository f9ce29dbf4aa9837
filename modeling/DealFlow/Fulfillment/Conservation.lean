import DealFlow.Fulfillment.Choice

/-!
# Conservation and maximal fill of a plan

`calculateFulfillmentPlan` returns early without demand or without warehouses; otherwise it
allocates from a choice of the active warehouses.  `planned` reads the three cases off once, and
`PlannedAllocation` collects what the last one allocates.

* `calculateFulfillmentPlan_conserves`: a plan conserves the demand of every line, never oversells
  a warehouse, and reports exactly the warehouses that received an allocation.
* `calculateFulfillmentPlan_maximalFill`: whatever the strategy, a product is backordered only as
  far as its demand exceeds the stock of all active warehouses together.
-/

namespace DealFlow

open Lib

def activeWarehouses (warehouses : List WarehouseInfo) : List WarehouseInfo :=
  warehouses.filter (·.active)

/-- The warehouses a plan allocates from, in allocation order. -/
def chosenWarehouses (lines : List StockableLine) (warehouses : List WarehouseInfo)
    (availability : AvailabilityTable) (forceStrategy : Option String) : List WarehouseInfo :=
  sortWarehouses (chooseWarehouses (getAvail availability) (totalDemand (validLines lines))
    (sortWarehouses (activeWarehouses warehouses)) forceStrategy).2

/-- The warehouse received an allocation. -/
def ReceivedAllocation (allocations : List PlanAllocation) (w : WarehouseInfo) : Prop :=
  ∃ a ∈ allocations, a.warehouseId = some w.warehouseId

instance (allocations : List PlanAllocation) (w : WarehouseInfo) :
    Decidable (ReceivedAllocation allocations w) :=
  inferInstanceAs (Decidable (∃ a ∈ allocations, a.warehouseId = some w.warehouseId))

/-- The given warehouses that received an allocation. -/
def usedWarehouses (allocations : List PlanAllocation) (warehouses : List WarehouseInfo) :
    List WarehouseInfo :=
  warehouses.filter fun w => ReceivedAllocation allocations w

/-! ## Lines and warehouses with distinct ids -/

theorem mem_validLines {lines : List StockableLine} {l : StockableLine} :
    l ∈ validLines lines ↔ l ∈ lines ∧ 0 < l.requestedQty := by
  simp [validLines]

theorem validLines_positive (lines : List StockableLine) :
    ∀ l ∈ validLines lines, 0 < l.requestedQty := fun _ mem =>
  (mem_validLines.mp mem).2

theorem validLines_nonneg (lines : List StockableLine) :
    ∀ l ∈ validLines lines, 0 ≤ l.requestedQty := fun l mem =>
  (validLines_positive lines l mem).le

theorem mem_activeWarehouses {warehouses : List WarehouseInfo} {w : WarehouseInfo} :
    w ∈ activeWarehouses warehouses ↔ w ∈ warehouses ∧ w.active = true := by
  simp [activeWarehouses]

theorem activeWarehouses_ids_nodup {warehouses : List WarehouseInfo}
    (distinct : (warehouses.map (·.warehouseId)).Nodup) :
    ((activeWarehouses warehouses).map (·.warehouseId)).Nodup :=
  (List.filter_sublist.map _).nodup distinct

/-- A line requests at most what all lines request of its product. -/
theorem requestedQty_le_requestedOf {lines : List StockableLine}
    (nonneg : ∀ l ∈ lines, 0 ≤ l.requestedQty) {l : StockableLine} (mem : l ∈ lines) :
    l.requestedQty ≤ requestedOf lines l.productId := by
  refine List.single_le_sum (fun x memX => ?_) _ (List.mem_map.mpr ⟨l, ?_, rfl⟩)
  · obtain ⟨k, memK, rfl⟩ := List.mem_map.mp memX
    exact nonneg k (List.mem_filter.mp memK).1
  · exact List.mem_filter.mpr ⟨mem, decide_eq_true rfl⟩

/-- Under distinct ids the lines request under a line's id what the line requests. -/
theorem requestedBy_eq {lines : List StockableLine} (distinct : (lines.map (·.lineId)).Nodup)
    {l : StockableLine} (mem : l ∈ lines) : requestedBy lines l.lineId = l.requestedQty := by
  induction lines with
  | nil => cases mem
  | cons k ks ih =>
      obtain ⟨notMem, distinctTail⟩ := List.nodup_cons.mp distinct
      rw [requestedBy_cons]
      rcases List.mem_cons.mp mem with rfl | later
      · have empty : (ks.filter fun k => k.lineId = l.lineId) = [] := by
          refine List.filter_eq_nil_iff.mpr fun j memJ same => notMem ?_
          exact List.mem_map.mpr ⟨j, memJ, of_decide_eq_true same⟩
        simp [requestedBy, empty]
      · have differs : k.lineId ≠ l.lineId := fun same =>
          notMem (List.mem_map.mpr ⟨l, later, same.symm⟩)
        rw [if_neg differs, zero_add, ih distinctTail later]

theorem eq_of_warehouseId {ws : List WarehouseInfo}
    (distinct : (ws.map (·.warehouseId)).Nodup) {v w : WarehouseInfo} (memV : v ∈ ws)
    (memW : w ∈ ws) (same : v.warehouseId = w.warehouseId) : v = w :=
  List.inj_on_of_nodup_map distinct memV memW same

theorem weightOf_eq {ws : List WarehouseInfo} (distinct : (ws.map (·.warehouseId)).Nodup)
    {w : WarehouseInfo} (mem : w ∈ ws) : weightOf ws w.warehouseId = w.shippingCostWeight := by
  unfold weightOf
  cases found : ws.reverse.find? fun v => v.warehouseId = w.warehouseId with
  | none =>
      have absent := List.find?_eq_none.mp found w (List.mem_reverse.mpr mem)
      simp at absent
  | some v =>
      have same : v.warehouseId = w.warehouseId := by simpa using List.find?_some found
      have memV := List.mem_reverse.mp (List.mem_of_find?_eq_some found)
      rw [eq_of_warehouseId distinct memV mem same]
      rfl

/-! ## The three cases of the planner -/

/-- What a plan allocates when there are demand and active warehouses. -/
structure PlannedAllocation (lines : List StockableLine) (warehouses : List WarehouseInfo)
    (availability : AvailabilityTable) (forceStrategy : Option String)
    (plan : FulfillmentCalculationResult) : Prop where
  strategy : plan.strategy = (chooseWarehouses (getAvail availability)
    (totalDemand (validLines lines)) (sortWarehouses (activeWarehouses warehouses))
    forceStrategy).1
  served : ∃ left, LinesServed (validLines lines)
    (chosenWarehouses lines warehouses availability forceStrategy) (getAvail availability)
    (plan.allocations, plan.backorders, left)
  shipments : plan.estimatedShipments = (warehousesUsed plan.allocations).card
  cost : plan.estimatedShippingCost = ∑ wid ∈ warehousesUsed plan.allocations,
    weightOf (chosenWarehouses lines warehouses availability forceStrategy) wid

theorem getAvail_nonneg (availability : AvailabilityTable) (wid pid : ℤ) :
    0 ≤ getAvail availability wid pid :=
  le_max_left _ _

theorem demandOf_totalDemand_nonneg (lines : List StockableLine) (pid : ℤ) :
    0 ≤ demandOf (totalDemand (validLines lines)) pid := by
  rw [demandOf_totalDemand]
  exact requestedOf_nonneg (validLines_nonneg lines) pid

section Planned

variable (lines : List StockableLine) {warehouses : List WarehouseInfo}
  (availability : AvailabilityTable) (forceStrategy : Option String)

/-- The chosen warehouses are active ones and keep the stock the demand needs. -/
theorem chosenWarehouses_keeps (warehouses : List WarehouseInfo) :
    KeepsStock (getAvail availability) (totalDemand (validLines lines)).keys
      (demandOf (totalDemand (validLines lines))) (activeWarehouses warehouses)
      (chosenWarehouses lines warehouses availability forceStrategy) := by
  have choice := chooseWarehouses_keeps (sortWarehouses (activeWarehouses warehouses))
    (getAvail_nonneg availability) (demandOf_totalDemand_nonneg lines) forceStrategy
  have sorted := sortWarehouses_perm (chooseWarehouses (getAvail availability)
    (totalDemand (validLines lines)) (sortWarehouses (activeWarehouses warehouses))
    forceStrategy).2
  have active := sortWarehouses_perm (activeWarehouses warehouses)
  refine ⟨(sorted.subperm.trans choice.subperm).trans active.subperm, fun pid mem => ?_⟩
  have chosenStock : stockIn (getAvail availability)
      (chosenWarehouses lines warehouses availability forceStrategy) pid = _ :=
    stockIn_perm _ sorted pid
  rw [chosenStock, ← stockIn_perm _ active pid]
  exact choice.keeps pid mem

theorem chosenWarehouses_ids_nodup (distinct : (warehouses.map (·.warehouseId)).Nodup) :
    ((chosenWarehouses lines warehouses availability forceStrategy).map (·.warehouseId)).Nodup :=
  (chosenWarehouses_keeps lines availability forceStrategy warehouses).ids_nodup
    (activeWarehouses_ids_nodup distinct)

variable {lines availability forceStrategy} in
theorem mem_of_mem_chosenWarehouses {w : WarehouseInfo}
    (mem : w ∈ chosenWarehouses lines warehouses availability forceStrategy) :
    w ∈ warehouses ∧ w.active = true :=
  mem_activeWarehouses.mp
    ((chosenWarehouses_keeps lines availability forceStrategy warehouses).mem mem)

/-- The cases of the planner, in the order the source tests them. -/
theorem planned (distinct : (warehouses.map (·.warehouseId)).Nodup) :
    (validLines lines = [] ∧
      calculateFulfillmentPlan lines warehouses availability forceStrategy =
        { strategy := "NO_STOCKABLE_ITEMS"
          estimatedShipments := 0
          estimatedShippingCost := 0
          allocations := []
          backorders := []
          algorithmNotes := .reason "No stockable items with positive demand in order." }) ∨
    (validLines lines ≠ [] ∧ activeWarehouses warehouses = [] ∧
      calculateFulfillmentPlan lines warehouses availability forceStrategy =
        { strategy := "NO_ACTIVE_WAREHOUSES"
          estimatedShipments := 0
          estimatedShippingCost := 0
          allocations := []
          backorders := (validLines lines).map fun l => backorderFor l l.requestedQty
          algorithmNotes := .reason "No active warehouses available." }) ∨
    (validLines lines ≠ [] ∧ activeWarehouses warehouses ≠ [] ∧
      PlannedAllocation lines warehouses availability forceStrategy
        (calculateFulfillmentPlan lines warehouses availability forceStrategy)) := by
  unfold calculateFulfillmentPlan
  split
  · next noDemand => exact .inl ⟨List.isEmpty_iff.mp noDemand, rfl⟩
  · next demand =>
      have someDemand : validLines lines ≠ [] := fun empty => demand (List.isEmpty_iff.mpr empty)
      split
      · next noActive => exact .inr (.inl ⟨someDemand, List.isEmpty_iff.mp noActive, rfl⟩)
      · next active =>
          have someActive : activeWarehouses warehouses ≠ [] := fun empty =>
            active (List.isEmpty_iff.mpr empty)
          have served := allocateLines_served
            (chosenWarehouses_ids_nodup lines availability forceStrategy distinct)
            (validLines_nonneg lines) (getAvail_nonneg availability)
          exact .inr (.inr ⟨someDemand, someActive,
            { strategy := rfl
              served := ⟨_, served⟩
              shipments := rfl
              cost := rfl }⟩)

end Planned

/-! ## Conservation -/

/-- A plan that loses no demand, makes up no stock, and reports what it used. -/
structure PlanConserves (lines : List StockableLine) (warehouses : List WarehouseInfo)
    (availability : AvailabilityTable) (plan : FulfillmentCalculationResult) : Prop where
  conserved : ∀ l ∈ lines, 0 < l.requestedQty →
    allocatedTo plan.allocations l.lineId + backorderTo plan.backorders l.lineId = l.requestedQty
  idle : ∀ l ∈ lines, l.requestedQty ≤ 0 →
    (∀ a ∈ plan.allocations, a.lineId ≠ l.lineId) ∧ ∀ b ∈ plan.backorders, b.lineId ≠ l.lineId
  ofLines : ∀ a ∈ plan.allocations ++ plan.backorders,
    ∃ l ∈ lines, a.lineId = l.lineId ∧ a.productId = l.productId
  stockBound : ∀ wid pid,
    allocatedFrom plan.allocations wid pid ≤ max 0 ((availability pid wid).getD 0)
  fromActive : ∀ a ∈ plan.allocations, 0 < a.allocatedQty ∧
    ∃ w ∈ warehouses, w.active = true ∧ a.warehouseId = some w.warehouseId
  shipments : plan.estimatedShipments = (usedWarehouses plan.allocations warehouses).length
  cost : plan.estimatedShippingCost =
    ((usedWarehouses plan.allocations warehouses).map (·.shippingCostWeight)).sum

theorem usedWarehouses_nil (warehouses : List WarehouseInfo) :
    usedWarehouses [] warehouses = [] := by
  simp [usedWarehouses, ReceivedAllocation]

/-- The ids recorded as used are those of the given warehouses that received an allocation. -/
theorem warehousesUsed_eq {allocations : List PlanAllocation} {warehouses : List WarehouseInfo}
    (named : ∀ a ∈ allocations, ∃ w ∈ warehouses, a.warehouseId = some w.warehouseId) :
    warehousesUsed allocations =
      ((usedWarehouses allocations warehouses).map (·.warehouseId)).toFinset := by
  ext wid
  simp only [warehousesUsed, List.mem_toFinset, List.mem_filterMap, List.mem_map, usedWarehouses,
    List.mem_filter, decide_eq_true_eq]
  constructor
  · rintro ⟨a, mem, eq⟩
    obtain ⟨w, memW, namedW⟩ := named a mem
    have same : w.warehouseId = wid := Option.some.inj (namedW.symm.trans eq)
    exact ⟨w, ⟨memW, a, mem, namedW⟩, same⟩
  · rintro ⟨w, ⟨-, a, mem, eq⟩, rfl⟩
    exact ⟨a, mem, eq⟩

theorem usedWarehouses_ids_nodup (allocations : List PlanAllocation)
    {warehouses : List WarehouseInfo} (distinct : (warehouses.map (·.warehouseId)).Nodup) :
    ((usedWarehouses allocations warehouses).map (·.warehouseId)).Nodup :=
  (List.filter_sublist.map _).nodup distinct

theorem PlannedAllocation.named {lines : List StockableLine} {warehouses : List WarehouseInfo}
    {availability : AvailabilityTable} {forceStrategy : Option String}
    {plan : FulfillmentCalculationResult}
    (p : PlannedAllocation lines warehouses availability forceStrategy plan) :
    ∀ a ∈ plan.allocations, ∃ w ∈ chosenWarehouses lines warehouses availability forceStrategy,
      a.warehouseId = some w.warehouseId := by
  rcases p.served with ⟨left, served⟩
  exact fun a mem => (served.allocationNamed a mem).2.2

theorem PlannedAllocation.stockBound {lines : List StockableLine}
    {warehouses : List WarehouseInfo} {availability : AvailabilityTable}
    {forceStrategy : Option String} {plan : FulfillmentCalculationResult}
    (p : PlannedAllocation lines warehouses availability forceStrategy plan) (wid pid : ℤ) :
    allocatedFrom plan.allocations wid pid ≤ getAvail availability wid pid := by
  rcases p.served with ⟨left, served⟩
  exact served.taken_le (getAvail_nonneg availability) wid pid

theorem PlannedAllocation.fromActive {lines : List StockableLine}
    {warehouses : List WarehouseInfo} {availability : AvailabilityTable}
    {forceStrategy : Option String} {plan : FulfillmentCalculationResult}
    (p : PlannedAllocation lines warehouses availability forceStrategy plan) :
    ∀ a ∈ plan.allocations, 0 < a.allocatedQty ∧
      ∃ w ∈ warehouses, w.active = true ∧ a.warehouseId = some w.warehouseId := by
  intro a mem
  rcases p.served with ⟨left, served⟩
  obtain ⟨pos, -, w, memW, named⟩ := served.allocationNamed a mem
  obtain ⟨given, active⟩ := mem_of_mem_chosenWarehouses memW
  exact ⟨pos, w, given, active, named⟩

/-- The reported count and cost are those of the warehouses that received an allocation. -/
theorem PlannedAllocation.reported {lines : List StockableLine} {warehouses : List WarehouseInfo}
    {availability : AvailabilityTable} {forceStrategy : Option String}
    {plan : FulfillmentCalculationResult} (distinct : (warehouses.map (·.warehouseId)).Nodup)
    (p : PlannedAllocation lines warehouses availability forceStrategy plan) :
    plan.estimatedShipments = (usedWarehouses plan.allocations warehouses).length ∧
      plan.estimatedShippingCost =
        ((usedWarehouses plan.allocations warehouses).map (·.shippingCostWeight)).sum := by
  have named : ∀ a ∈ plan.allocations, ∃ w ∈ warehouses,
      a.warehouseId = some w.warehouseId := fun a mem => by
    obtain ⟨w, memW, eq⟩ := p.named a mem
    exact ⟨w, (mem_of_mem_chosenWarehouses memW).1, eq⟩
  have ids := warehousesUsed_eq named
  have nodup := usedWarehouses_ids_nodup plan.allocations distinct
  have weights : ∀ w ∈ usedWarehouses plan.allocations warehouses,
      weightOf (chosenWarehouses lines warehouses availability forceStrategy) w.warehouseId =
        w.shippingCostWeight := by
    intro w mem
    obtain ⟨memW, received⟩ := List.mem_filter.mp mem
    obtain ⟨a, memA, eq⟩ := of_decide_eq_true received
    obtain ⟨v, memV, eqV⟩ := p.named a memA
    -- the chosen warehouse the allocation names is `w` itself, since ids are distinct
    have same : v = w := eq_of_warehouseId distinct (mem_of_mem_chosenWarehouses memV).1 memW
      (Option.some.inj (eqV.symm.trans eq))
    exact weightOf_eq (chosenWarehouses_ids_nodup _ _ _ distinct) (same ▸ memV)
  constructor
  · rw [p.shipments, ids, List.toFinset_card_of_nodup nodup, List.length_map]
  · rw [p.cost, ids, List.sum_toFinset _ nodup, List.map_map]
    exact congrArg List.sum (List.map_congr_left weights)

/-- A line without positive demand shares its id with no line that has one. -/
theorem validLines_apart {lines : List StockableLine} (distinct : (lines.map (·.lineId)).Nodup)
    {l k : StockableLine} (mem : l ∈ lines) (nonpos : l.requestedQty ≤ 0)
    (memK : k ∈ validLines lines) : k.lineId ≠ l.lineId := by
  intro same
  obtain ⟨memK', pos⟩ := mem_validLines.mp memK
  obtain rfl := List.inj_on_of_nodup_map distinct memK' mem same
  omega

/-- A plan that serves the valid lines from active warehouses conserves. -/
theorem LinesServed.conserves {lines : List StockableLine} {warehouses ws : List WarehouseInfo}
    {availability : AvailabilityTable} {plan : FulfillmentCalculationResult} {left : StockTable}
    (served : LinesServed (validLines lines) ws (getAvail availability)
      (plan.allocations, plan.backorders, left))
    (distinct : (lines.map (·.lineId)).Nodup)
    (active : ∀ w ∈ ws, w ∈ warehouses ∧ w.active = true)
    (shipments : plan.estimatedShipments = (usedWarehouses plan.allocations warehouses).length)
    (cost : plan.estimatedShippingCost =
      ((usedWarehouses plan.allocations warehouses).map (·.shippingCostWeight)).sum) :
    PlanConserves lines warehouses availability plan := by
  have distinctValid : ((validLines lines).map (·.lineId)).Nodup :=
    (List.filter_sublist.map _).nodup distinct
  refine ⟨?_, ?_, ?_, served.taken_le (getAvail_nonneg availability), ?_, shipments, cost⟩
  · intro l mem pos
    rw [served.total l.lineId, requestedBy_eq distinctValid (mem_validLines.mpr ⟨mem, pos⟩)]
  · intro l mem nonpos
    constructor
    · intro a memA
      obtain ⟨-, ⟨k, memK, same, -⟩, -⟩ := served.allocationNamed a memA
      exact same ▸ validLines_apart distinct mem nonpos memK
    · intro b memB
      obtain ⟨-, k, memK, same, -⟩ := served.backorderNamed b memB
      exact same ▸ validLines_apart distinct mem nonpos memK
  · intro a mem
    rcases List.mem_append.mp mem with allocation | backorder
    · obtain ⟨-, ⟨k, memK, eqs⟩, -⟩ := served.allocationNamed a allocation
      exact ⟨k, (mem_validLines.mp memK).1, eqs⟩
    · obtain ⟨-, k, memK, eqs⟩ := served.backorderNamed a backorder
      exact ⟨k, (mem_validLines.mp memK).1, eqs⟩
  · intro a mem
    obtain ⟨pos, -, w, memW, named⟩ := served.allocationNamed a mem
    exact ⟨pos, w, (active w memW).1, (active w memW).2, named⟩

theorem calculateFulfillmentPlan_conserves {lines : List StockableLine}
    {warehouses : List WarehouseInfo} (distinctLines : (lines.map (·.lineId)).Nodup)
    (distinctWarehouses : (warehouses.map (·.warehouseId)).Nodup)
    (availability : AvailabilityTable) (forceStrategy : Option String) :
    PlanConserves lines warehouses availability
      (calculateFulfillmentPlan lines warehouses availability forceStrategy) := by
  -- without active warehouses every valid line is backordered whole, and there may be none
  have whole := LinesServed.backordered_whole (validLines_positive lines)
    (getAvail_nonneg availability)
  rcases planned lines availability forceStrategy distinctWarehouses with
    ⟨noDemand, eq⟩ | ⟨-, -, eq⟩ | ⟨-, -, p⟩
  · rw [eq]
    have none : LinesServed (validLines lines) [] (getAvail availability)
        ([], [], getAvail availability) := by
      rw [noDemand] at whole ⊢
      exact whole
    exact none.conserves distinctLines nofun (by simp [usedWarehouses_nil])
      (by simp [usedWarehouses_nil])
  · rw [eq]
    exact LinesServed.conserves whole distinctLines nofun (by simp [usedWarehouses_nil])
      (by simp [usedWarehouses_nil])
  · obtain ⟨shipments, cost⟩ := p.reported distinctWarehouses
    rcases p.served with ⟨left, served⟩
    exact served.conserves distinctLines (fun w mem => mem_of_mem_chosenWarehouses mem)
      shipments cost

/-- Two lines for one product, one for another, and one that asks for nothing. -/
def sampleLines : List StockableLine :=
  [⟨1, 10, 5⟩, ⟨2, 10, 3⟩, ⟨3, 20, 4⟩, ⟨4, 20, -2⟩]

def sampleWarehouses : List WarehouseInfo :=
  [{ warehouseId := 4, name := "East", shippingCostWeight := 2 },
    { warehouseId := 3, name := "Closed", shippingCostWeight := 1 / 2, active := false },
    { warehouseId := 2, name := "West", shippingCostWeight := 3 / 2 },
    { warehouseId := 1, name := "Main", shippingCostWeight := 1 }]

def sampleAvailability : AvailabilityTable := fun pid wid =>
  match pid, wid with
  | 10, 1 => some 6
  | 10, 2 => some 2
  | 10, 3 => some 50
  | 10, 4 => some 3
  | 20, 1 => some (-1)
  | 20, 2 => some 3
  | 20, 4 => some 5
  | _, _ => none

theorem samplePlan_conserves :
    PlanConserves sampleLines sampleWarehouses sampleAvailability
      (calculateFulfillmentPlan sampleLines sampleWarehouses sampleAvailability (some "GREEDY")) :=
  calculateFulfillmentPlan_conserves (by decide) (by decide) _ _

/-! ## Maximal fill -/

/-- Whatever the lines backorder of a product, the choice of warehouses cost nothing: it is the
excess of the demand over the stock of all active warehouses. -/
theorem PlannedAllocation.backordered {lines : List StockableLine}
    {warehouses : List WarehouseInfo} {availability : AvailabilityTable}
    {forceStrategy : Option String} {plan : FulfillmentCalculationResult}
    (p : PlannedAllocation lines warehouses availability forceStrategy plan) (pid : ℤ) :
    backorderOf plan.backorders pid = max 0 (requestedOf (validLines lines) pid -
      stockIn (getAvail availability) (activeWarehouses warehouses) pid) := by
  rcases p.served with ⟨left, served⟩
  have demand : 0 ≤ requestedOf (validLines lines) pid :=
    requestedOf_nonneg (validLines_nonneg lines) pid
  have row := stockRow_nonneg (getAvail_nonneg availability)
    (chosenWarehouses lines warehouses availability forceStrategy) pid
  have short : backorderOf plan.backorders pid = _ := served.backordered pid
  rw [unmet_eq row demand] at short
  by_cases demanded : pid ∈ (totalDemand (validLines lines)).keys
  · have kept := (chosenWarehouses_keeps lines availability forceStrategy warehouses).unmet_eq
      (getAvail_nonneg availability) demanded
    rw [demandOf_totalDemand] at kept
    exact short.trans kept
  · -- a product nobody demands is not backordered
    have none := requestedOf_eq_zero demanded
    have chosenStock := List.sum_nonneg row
    have stock := stockIn_nonneg (getAvail_nonneg availability) (activeWarehouses warehouses) pid
    rw [none] at short ⊢
    omega

/-- The backorder of a product in every case of the planner. -/
theorem plan_backordered (lines : List StockableLine) {warehouses : List WarehouseInfo}
    (distinct : (warehouses.map (·.warehouseId)).Nodup) {availability : AvailabilityTable}
    {forceStrategy : Option String} (pid : ℤ) :
    backorderOf (calculateFulfillmentPlan lines warehouses availability forceStrategy).backorders
        pid =
      max 0 (requestedOf (validLines lines) pid -
        stockIn (getAvail availability) (activeWarehouses warehouses) pid) := by
  rcases planned lines availability forceStrategy distinct with
    ⟨noDemand, eq⟩ | ⟨-, noActive, eq⟩ | ⟨-, -, p⟩
  · have stock := stockIn_nonneg (getAvail_nonneg availability) (activeWarehouses warehouses) pid
    rw [eq, noDemand, backorderOf_nil, show requestedOf [] pid = 0 from rfl]
    omega
  · have demand : 0 ≤ requestedOf (validLines lines) pid :=
      requestedOf_nonneg (validLines_nonneg lines) pid
    have whole := LinesServed.backordered_whole (validLines_positive lines)
      (getAvail_nonneg availability)
    have short : backorderOf ((validLines lines).map fun l => backorderFor l l.requestedQty) pid =
        requestedOf (validLines lines) pid := whole.backordered pid
    rw [eq, noActive, short, stockIn_nil, sub_zero, max_eq_right demand]
  · exact p.backordered pid

theorem calculateFulfillmentPlan_maximalFill (lines : List StockableLine)
    {warehouses : List WarehouseInfo}
    (distinctWarehouses : (warehouses.map (·.warehouseId)).Nodup)
    (availability : AvailabilityTable) (forceStrategy : Option String) (pid : ℤ) :
    backorderOf (calculateFulfillmentPlan lines warehouses availability forceStrategy).backorders
        pid =
      max 0 (requestedOf (validLines lines) pid -
        ((activeWarehouses warehouses).map fun w =>
          max 0 ((availability pid w.warehouseId).getD 0)).sum) :=
  plan_backordered lines distinctWarehouses pid

theorem samplePlan_maximalFill :
    backorderOf (calculateFulfillmentPlan sampleLines sampleWarehouses sampleAvailability
      (some "EXHAUSTIVE")).backorders 10 = 0 := by
  rw [calculateFulfillmentPlan_maximalFill sampleLines (by decide)]
  decide

end DealFlow
