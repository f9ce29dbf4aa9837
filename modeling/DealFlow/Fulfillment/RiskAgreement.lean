import DealFlow.Fulfillment.Optimality
import DealFlow.Guardian.Evaluator
import DealFlow.Services.FulfillmentService

/-!
# Inventory risk and fulfilment plan

The assessment of an order carries points for its stock: the backorder points where some line asks
for more than there is, the split points where some line asks for more than warehouse 1 has.  The
plan of the same order has a backorder, or more than one shipment, and the two should say the same
(`InventoryAgreement`).

The risk engine looks at each line for itself, at all lines of a stockable type, and at warehouse 1;
the planner adds up the lines of a product, leaves out what recurs, and looks for any warehouse that
has everything.  `inventoryAgreement_iff` says on which orders and stocks this comes to the same.
-/

namespace DealFlow

open Lib

/-- The assessment has an inventory factor of so many points. -/
def CarriesInventoryPoints (risk : RiskCalculationResult) (points : ℚ) : Prop :=
  ∃ f ∈ risk.factors, f.factorType = .inventoryRisk ∧ f.contribution = points

instance (risk : RiskCalculationResult) (points : ℚ) :
    Decidable (CarriesInventoryPoints risk points) :=
  inferInstanceAs (Decidable (∃ f ∈ risk.factors,
    f.factorType = .inventoryRisk ∧ f.contribution = points))

/-- The plan the fulfilment service computes for an order, no strategy being asked for. -/
def servicePlan (order : RawOrder) (products : AList fun _ : ℤ => RawProduct)
    (stock : Availability) (warehouses : List WarehouseInfo) : FulfillmentCalculationResult :=
  calculateFulfillmentPlan (stockableLines order products) warehouses
    (fun pid wid => (stock pid).lookup wid) none

/-- Assessment and plan say the same about the stock of an order. -/
structure InventoryAgreement (risk : RiskCalculationResult)
    (plan : FulfillmentCalculationResult) : Prop where
  backorder : CarriesInventoryPoints risk ({} : RiskWeights).invBackorderPoints ↔
    plan.backorders ≠ []
  split : CarriesInventoryPoints risk ({} : RiskWeights).invSplitPoints ↔
    plan.backorders = [] ∧ 1 < plan.estimatedShipments

/-! ## What order and stock say -/

section Views

variable (order : RawOrder) (products : AList fun _ : ℤ => RawProduct) (stock : Availability)
  (warehouses : List WarehouseInfo)

/-- A line asks for more than there is of its product, all warehouses together. -/
def ExceedsTotal (l : RawOrderLine) : Prop :=
  isStockable l.productType = true ∧
    ((stock l.productId).entries.map (·.2)).sum < truncDec (quantizeDec l.qty)

/-- A line asks for more than warehouse 1 has of its product. -/
def ExceedsFirst (l : RawOrderLine) : Prop :=
  isStockable l.productType = true ∧
    ((stock l.productId).lookup 1).getD 0 < truncDec (quantizeDec l.qty)

instance (l : RawOrderLine) : Decidable (ExceedsTotal stock l) :=
  inferInstanceAs (Decidable (_ ∧ _))

instance (l : RawOrderLine) : Decidable (ExceedsFirst stock l) :=
  inferInstanceAs (Decidable (_ ∧ _))

/-- What the planned lines ask for of a product. -/
def plannedDemand (pid : ℤ) : ℤ :=
  requestedOf (validLines (stockableLines order products)) pid

/-- What a plan can take of a product from a warehouse. -/
def plannableStock (w : WarehouseInfo) (pid : ℤ) : ℤ :=
  max 0 (((stock pid).lookup w.warehouseId).getD 0)

/-- The active warehouses together have too little of some product. -/
def DemandExceedsStock : Prop :=
  ∃ pid, ((activeWarehouses warehouses).map fun w => plannableStock stock w pid).sum <
    plannedDemand order products pid

/-- Something is to be shipped, and no active warehouse has all of it. -/
def NoWarehouseSuffices : Prop :=
  validLines (stockableLines order products) ≠ [] ∧
    ∀ w ∈ activeWarehouses warehouses, ∃ pid,
      plannableStock stock w pid < plannedDemand order products pid

/-- The lines fall short one by one exactly where the demand does as a whole, and where neither
does, some line exceeds warehouse 1 exactly where no warehouse has everything. -/
structure ViewsAgree : Prop where
  short : (∃ l ∈ order.lines, ExceedsTotal stock l) ↔
    DemandExceedsStock order products stock warehouses
  split : ((¬ ∃ l ∈ order.lines, ExceedsTotal stock l) ∧ ∃ l ∈ order.lines, ExceedsFirst stock l) ↔
    ¬ DemandExceedsStock order products stock warehouses ∧
      NoWarehouseSuffices order products stock warehouses

end Views

/-! ## The points of the assessment -/

/-- The points a line is worth by itself. -/
def linePoints (weights : RiskWeights) (l : DealLineContext) : ℚ :=
  if isStockable l.productType then
    if l.availableQty < truncDec l.qty then weights.invBackorderPoints
    else if l.inventoryShortage then weights.invSplitPoints
    else 0
  else 0

theorem inventoryPoints_eq (weights : RiskWeights) {points : ℚ} (nonneg : 0 ≤ points)
    (l : DealLineContext) :
    inventoryPoints weights points l = max points (linePoints weights l) := by
  unfold inventoryPoints linePoints
  split
  · split
    · rfl
    · split
      · rfl
      · exact (max_eq_left nonneg).symm
  · exact (max_eq_left nonneg).symm

/-- The points of all lines are above a bound where those of some line are. -/
theorem lt_foldl_inventoryPoints {weights : RiskWeights} {bound : ℚ}
    (lines : List DealLineContext) {points : ℚ} (nonneg : 0 ≤ points) :
    bound < lines.foldl (inventoryPoints weights) points ↔
      bound < points ∨ ∃ l ∈ lines, bound < linePoints weights l := by
  induction lines generalizing points with
  | nil => simp
  | cons l lines ih =>
      rw [List.foldl_cons, inventoryPoints_eq weights nonneg, ih (le_max_of_le_left nonneg),
        lt_max_iff, List.exists_mem_cons_iff, or_assoc]

theorem le_foldl_inventoryPoints {weights : RiskWeights} {bound : ℚ}
    (lines : List DealLineContext) {points : ℚ} (nonneg : 0 ≤ points) :
    bound ≤ lines.foldl (inventoryPoints weights) points ↔
      bound ≤ points ∨ ∃ l ∈ lines, bound ≤ linePoints weights l := by
  induction lines generalizing points with
  | nil => simp
  | cons l lines ih =>
      rw [List.foldl_cons, inventoryPoints_eq weights nonneg, ih (le_max_of_le_left nonneg),
        le_max_iff, List.exists_mem_cons_iff, or_assoc]

/-- The factors of the discount are discount factors. -/
theorem discountFactors_type (weights : RiskWeights) (os : List LineOverage) :
    ∀ f ∈ discountFactors weights os, f.factorType = .discountExcess := by
  have apportioned : ∀ (lines : List LineOverage) (s : ApportionState),
      (∀ f ∈ s.factors, f.factorType = .discountExcess) →
        ∀ f ∈ (lines.foldl (apportionLine weights (discountExcessContrib weights os)
          (violatingLines os)) s).factors, f.factorType = .discountExcess := by
    intro lines
    induction lines with
    | nil => exact fun s typed => typed
    | cons o lines ih =>
        intro s typed
        refine ih _ fun f mem => ?_
        rcases List.mem_append.mp mem with old | new
        · exact typed f old
        · rw [List.mem_singleton.mp new]
  unfold discountFactors
  dsimp only
  split
  · have typed := apportioned (violatingLines os) {} nofun
    split
    · split
      · intro f mem
        obtain ⟨i, found⟩ := List.mem_iff_getElem?.mp mem
        rw [List.getElem?_modify] at found
        obtain ⟨g, gMem, rfl⟩ := Option.map_eq_some_iff.mp found
        have gTyped := typed g (List.mem_of_getElem? gMem)
        split <;> exact gTyped
      · exact typed
    · exact typed
  · exact nofun

/-- Only the inventory factor is one. -/
theorem carriesInventoryPoints_iff (ctx : DealContext) (lineCeilings : ℤ → Option ℚ)
    (policy : RiskPolicy) (weights : RiskWeights) (counter : Bool) (points : ℚ) :
    CarriesInventoryPoints (calculateDealRisk ctx lineCeilings policy weights counter) points ↔
      0 < points ∧
        min (weights.invCap : ℚ) (ctx.lines.foldl (inventoryPoints weights) 0) = points := by
  have margin : ∀ marginPct, ∀ f ∈ marginFactors weights policy marginPct,
      f.factorType ≠ .inventoryRisk := by
    intro marginPct f mem
    unfold marginFactors at mem
    split at mem
    · rw [List.mem_singleton.mp mem]
      exact nofun
    · cases mem
  have negotiation : ∀ f ∈ negotiationFactors counter, f.factorType ≠ .inventoryRisk := by
    intro f mem
    unfold negotiationFactors at mem
    split at mem
    · rw [List.mem_singleton.mp mem]
      exact nofun
    · cases mem
  unfold CarriesInventoryPoints calculateDealRisk
  dsimp only
  constructor
  · rintro ⟨f, mem, type, contribution⟩
    rcases List.mem_append.mp mem with mem | mem
    · rcases List.mem_append.mp mem with mem | mem
      · rcases List.mem_append.mp mem with mem | mem
        · rw [discountFactors_type weights _ f mem] at type
          cases type
        · exact absurd type (margin _ f mem)
      · unfold inventoryFactors at mem
        dsimp only at mem
        split at mem
        · next pos =>
            rw [List.mem_singleton.mp mem] at contribution
            exact ⟨contribution ▸ pos, contribution⟩
        · cases mem
    · exact absurd type (negotiation f mem)
  · rintro ⟨pos, eq⟩
    have carried : ∃ f ∈ inventoryFactors weights ctx.lines,
        f.factorType = .inventoryRisk ∧ f.contribution = points := by
      unfold inventoryFactors
      dsimp only
      rw [eq, if_pos pos]
      exact ⟨_, List.mem_singleton_self _, rfl, rfl⟩
    obtain ⟨f, mem, shape⟩ := carried
    exact ⟨f, List.mem_append_left _ (List.mem_append_right _ mem), shape⟩

/-! ## The points of an order -/

section Order

variable {tables : PolicyTables} {order : RawOrder} {products : AList fun _ : ℤ => RawProduct}
  {stock : Availability} {warehouses : List WarehouseInfo}

/-- What a line of the order is worth. -/
theorem linePoints_order (l : RawOrderLine) :
    linePoints {} (buildLineContext l (stock l.productId)) =
      if ExceedsTotal stock l then 20 else if ExceedsFirst stock l then 8 else 0 := by
  unfold linePoints ExceedsTotal ExceedsFirst buildLineContext
  dsimp only
  by_cases stockable : isStockable l.productType = true
  · simp only [stockable, if_true, true_and, Bool.true_and, decide_eq_true_eq]
    rfl
  · simp [stockable]

/-- Some line of the order is worth what it takes. -/
theorem exists_linePoints {enough : ℚ → Prop} :
    (∃ l ∈ (dealContextOf tables order stock).lines, enough (linePoints {} l)) ↔
      ∃ l ∈ order.lines,
        enough (if ExceedsTotal stock l then 20 else if ExceedsFirst stock l then 8 else 0) := by
  constructor
  · rintro ⟨_, mem, is⟩
    obtain ⟨l, memL, rfl⟩ := List.mem_map.mp mem
    rw [linePoints_order] at is
    exact ⟨l, memL, is⟩
  · rintro ⟨l, memL, is⟩
    rw [← linePoints_order] at is
    exact ⟨_, List.mem_map_of_mem memL, is⟩

/-- The assessment carries the backorder points where a line exceeds the total of its product. -/
theorem assessRisk_backorder_iff (db : DealStore) :
    CarriesInventoryPoints (assessRisk db tables (dealContextOf tables order stock))
        ({} : RiskWeights).invBackorderPoints ↔
      ∃ l ∈ order.lines, ExceedsTotal stock l := by
  have cap : (({} : RiskWeights).invCap : ℚ) = 20 := rfl
  unfold assessRisk
  dsimp only
  rw [carriesInventoryPoints_iff, cap, min_eq_left_iff, le_foldl_inventoryPoints _ le_rfl,
    exists_linePoints]
  constructor
  · rintro ⟨-, none | ⟨l, mem, worth⟩⟩
    · norm_num at none
    · refine ⟨l, mem, ?_⟩
      by_contra within
      rw [if_neg within] at worth
      split at worth <;> norm_num at worth
  · rintro ⟨l, mem, exceeds⟩
    refine ⟨by norm_num, .inr ⟨l, mem, ?_⟩⟩
    rw [if_pos exceeds]

/-- It carries the split points where none does, but some line exceeds warehouse 1. -/
theorem assessRisk_split_iff (db : DealStore) :
    CarriesInventoryPoints (assessRisk db tables (dealContextOf tables order stock))
        ({} : RiskWeights).invSplitPoints ↔
      (¬ ∃ l ∈ order.lines, ExceedsTotal stock l) ∧ ∃ l ∈ order.lines, ExceedsFirst stock l := by
  have cap : (({} : RiskWeights).invCap : ℚ) = 20 := rfl
  have points : (({} : RiskWeights).invSplitPoints : ℚ) = 8 := rfl
  unfold assessRisk
  dsimp only
  rw [carriesInventoryPoints_iff, cap, points]
  set total := (dealContextOf tables order stock).lines.foldl (inventoryPoints {}) 0
  have above : 8 < total ↔ ∃ l ∈ order.lines, ExceedsTotal stock l := by
    rw [lt_foldl_inventoryPoints _ le_rfl, exists_linePoints]
    constructor
    · rintro (none | ⟨l, mem, worth⟩)
      · norm_num at none
      · refine ⟨l, mem, ?_⟩
        by_contra within
        rw [if_neg within] at worth
        split at worth <;> norm_num at worth
    · rintro ⟨l, mem, exceeds⟩
      refine .inr ⟨l, mem, ?_⟩
      rw [if_pos exceeds]
      norm_num
  have atLeast : 8 ≤ total ↔
      ∃ l ∈ order.lines, ExceedsTotal stock l ∨ ExceedsFirst stock l := by
    rw [le_foldl_inventoryPoints _ le_rfl, exists_linePoints]
    constructor
    · rintro (none | ⟨l, mem, worth⟩)
      · norm_num at none
      · refine ⟨l, mem, ?_⟩
        by_contra within
        rw [not_or] at within
        rw [if_neg within.1, if_neg within.2] at worth
        norm_num at worth
    · rintro ⟨l, mem, exceeds⟩
      refine .inr ⟨l, mem, ?_⟩
      split
      · norm_num
      · next within => rw [if_pos (exceeds.resolve_left within)]
  have exactly : min 20 total = 8 ↔ ¬ 8 < total ∧ 8 ≤ total := by
    constructor
    · intro eq
      rcases min_choice 20 total with first | second
      · rw [first] at eq
        norm_num at eq
      · rw [← second, eq]
        exact ⟨lt_irrefl _, le_rfl⟩
    · rintro ⟨notAbove, reached⟩
      rw [le_antisymm (not_lt.mp notAbove) reached]
      norm_num
  rw [exactly, above, atLeast]
  constructor
  · rintro ⟨-, within, l, mem, exceeds⟩
    exact ⟨within, l, mem, exceeds.resolve_left fun total => within ⟨l, mem, total⟩⟩
  · rintro ⟨within, l, mem, exceeds⟩
    exact ⟨by norm_num, within, l, mem, .inr exceeds⟩

end Order

/-! ## Backorders and shipments of the plan -/

section Plan

variable {lines : List StockableLine} {warehouses : List WarehouseInfo}
  {availability : AvailabilityTable}

/-- Backorders are of a positive quantity. -/
theorem plan_backorder_pos (distinct : (warehouses.map (·.warehouseId)).Nodup)
    (forceStrategy : Option String) :
    ∀ b ∈ (calculateFulfillmentPlan lines warehouses availability forceStrategy).backorders,
      0 < b.backorderQty := by
  rcases planned lines availability forceStrategy distinct with
    ⟨-, eq⟩ | ⟨-, -, eq⟩ | ⟨-, -, p⟩
  · rw [eq]
    exact nofun
  · rw [eq]
    intro b mem
    obtain ⟨l, memL, rfl⟩ := List.mem_map.mp mem
    exact (mem_validLines.mp memL).2
  · obtain ⟨left, served⟩ := p.served
    exact fun b mem => (served.backorderNamed b mem).1

/-- A plan has a backorder where the active warehouses have too little of some product. -/
theorem plan_backorders_iff (distinct : (warehouses.map (·.warehouseId)).Nodup)
    (forceStrategy : Option String) :
    (calculateFulfillmentPlan lines warehouses availability forceStrategy).backorders ≠ [] ↔
      ∃ pid, stockIn (getAvail availability) (activeWarehouses warehouses) pid <
        requestedOf (validLines lines) pid := by
  set backorders :=
    (calculateFulfillmentPlan lines warehouses availability forceStrategy).backorders
  have positive : ∀ b ∈ backorders, 0 < b.backorderQty :=
    plan_backorder_pos distinct forceStrategy
  have perProduct : ∀ pid, backorderOf backorders pid =
      max 0 (requestedOf (validLines lines) pid -
        stockIn (getAvail availability) (activeWarehouses warehouses) pid) :=
    plan_backordered lines distinct
  constructor
  · intro some
    obtain ⟨b, mem⟩ := List.exists_mem_of_ne_nil _ some
    refine ⟨b.productId, ?_⟩
    have single : b.backorderQty ≤ backorderOf backorders b.productId := by
      refine List.single_le_sum (fun x memX => ?_) _ (List.mem_map.mpr ⟨b, ?_, rfl⟩)
      · obtain ⟨c, memC, rfl⟩ := List.mem_map.mp memX
        exact (positive c (List.mem_filter.mp memC).1).le
      · exact List.mem_filter.mpr ⟨mem, by simp⟩
    have pos := positive b mem
    rw [perProduct] at single
    omega
  · rintro ⟨pid, short⟩ none
    have zero := perProduct pid
    rw [none, backorderOf_nil] at zero
    omega

/-- A warehouse that has everything is there exactly if the planner finds one. -/
theorem exists_candidate_iff :
    (∃ w, w ∈ fullCoverageCandidates (getAvail availability) (totalDemand (validLines lines))
      (sortWarehouses (activeWarehouses warehouses))) ↔
      ∃ w ∈ activeWarehouses warehouses, ∀ pid,
        requestedOf (validLines lines) pid ≤ getAvail availability w.warehouseId pid := by
  constructor
  · rintro ⟨w, candidate⟩
    obtain ⟨mem, covers⟩ := mem_fullCoverageCandidates.mp candidate
    refine ⟨w, mem_sortWarehouses.mp mem, fun pid => ?_⟩
    by_cases demanded : pid ∈ (totalDemand (validLines lines)).keys
    · have enough := covers pid demanded
      rwa [demandOf_totalDemand] at enough
    · rw [requestedOf_eq_zero demanded]
      exact getAvail_nonneg availability _ _
  · rintro ⟨w, mem, covers⟩
    refine ⟨w, mem_fullCoverageCandidates.mpr ⟨mem_sortWarehouses.mpr mem, fun pid _ => ?_⟩⟩
    rw [demandOf_totalDemand]
    exact covers pid

/-- Where a warehouse has everything, the plan chooses one such warehouse alone. -/
theorem chosenWarehouses_single
    (single : ∃ w, w ∈ fullCoverageCandidates (getAvail availability)
      (totalDemand (validLines lines)) (sortWarehouses (activeWarehouses warehouses))) :
    ∃ w, chosenWarehouses lines warehouses availability none = [w] := by
  obtain ⟨w, candidate⟩ := single
  cases best : (fullCoverageCandidates (getAvail availability) (totalDemand (validLines lines))
      (sortWarehouses (activeWarehouses warehouses))).argmin warehouseKey with
  | none =>
      rw [List.argmin_eq_none.mp best] at candidate
      cases candidate
  | some v =>
      refine ⟨v, ?_⟩
      unfold chosenWarehouses chooseWarehouses
      dsimp only
      rw [if_pos ⟨nofun, nofun⟩, best]
      rfl

/-- A plan without a backorder takes more than one shipment where something is to be shipped and no
active warehouse has all of it. -/
theorem plan_shipments_iff (distinct : (warehouses.map (·.warehouseId)).Nodup)
    (enough : ∀ pid, requestedOf (validLines lines) pid ≤
      stockIn (getAvail availability) (activeWarehouses warehouses) pid) :
    1 < (calculateFulfillmentPlan lines warehouses availability none).estimatedShipments ↔
      validLines lines ≠ [] ∧ ¬ ∃ w ∈ activeWarehouses warehouses, ∀ pid,
        requestedOf (validLines lines) pid ≤ getAvail availability w.warehouseId pid := by
  rcases planned lines availability none distinct with
    ⟨noDemand, eq⟩ | ⟨demand, noActive, -⟩ | ⟨demand, -, p⟩
  · rw [eq]
    exact iff_of_false (by decide) fun h => h.1 noDemand
  · -- there is demand, and no stock for it
    obtain ⟨l, mem⟩ := List.exists_mem_of_ne_nil _ demand
    have bound := enough l.productId
    have pos := (mem_validLines.mp mem).2
    have least := requestedQty_le_requestedOf (validLines_nonneg lines) mem
    rw [noActive, stockIn_nil] at bound
    omega
  set plan := calculateFulfillmentPlan lines warehouses availability none
  have full := p.full distinct enough
  have nodup : (usedWarehouses plan.allocations warehouses).Nodup :=
    List.Nodup.of_map _ (usedWarehouses_ids_nodup _ distinct)
  rw [(p.reported distinct).1, ← exists_candidate_iff]
  constructor
  · refine fun several => ⟨demand, fun single => ?_⟩
    obtain ⟨v, alone⟩ := chosenWarehouses_single single
    have subset : usedWarehouses plan.allocations warehouses ⊆ [v] := by
      intro w mem
      obtain ⟨memW, received⟩ := List.mem_filter.mp mem
      obtain ⟨a, memA, eq⟩ := of_decide_eq_true received
      obtain ⟨u, memU, named⟩ := p.named a memA
      have same : u = w := eq_of_warehouseId distinct (mem_of_mem_chosenWarehouses memU).1 memW
        (Option.some.inj (named.symm.trans eq))
      rwa [alone, same] at memU
    have few := (nodup.subperm subset).length_le
    rw [List.length_singleton] at few
    omega
  · rintro ⟨-, noSingle⟩
    by_contra few
    have covers := full.covers_used distinct
    have some := covers_length_pos (exists_demanded demand) covers
    have size : (usedWarehouses plan.allocations warehouses).length = 1 := by omega
    obtain ⟨w, one⟩ := List.length_eq_one_iff.mp size
    rw [one] at covers
    have memUsed : w ∈ usedWarehouses plan.allocations (activeWarehouses warehouses) := by
      rw [← full.used_eq distinct, one]
      exact List.mem_singleton_self w
    have sorted := mem_sortWarehouses.mpr (List.mem_filter.mp memUsed).1
    exact noSingle ⟨w, (covers_singleton sorted).mp covers⟩

end Plan

/-! ## Agreement -/

/-- Assessment and plan say the same exactly on the orders and stocks on which the two views do. -/
theorem inventoryAgreement_iff (db : DealStore) (tables : PolicyTables) (order : RawOrder)
    (products : AList fun _ : ℤ => RawProduct) (stock : Availability)
    {warehouses : List WarehouseInfo} (distinct : (warehouses.map (·.warehouseId)).Nodup) :
    InventoryAgreement (assessRisk db tables (dealContextOf tables order stock))
        (servicePlan order products stock warehouses) ↔
      ViewsAgree order products stock warehouses := by
  have short : (servicePlan order products stock warehouses).backorders ≠ [] ↔
      DemandExceedsStock order products stock warehouses :=
    plan_backorders_iff distinct none
  have single : (∀ w ∈ activeWarehouses warehouses, ∃ pid,
      plannableStock stock w pid < plannedDemand order products pid) ↔
        ¬ ∃ w ∈ activeWarehouses warehouses, ∀ pid,
          plannedDemand order products pid ≤ plannableStock stock w pid := by
    simp only [not_exists, not_and, not_forall, not_le]
  have split : (servicePlan order products stock warehouses).backorders = [] ∧
      1 < (servicePlan order products stock warehouses).estimatedShipments ↔
        ¬ DemandExceedsStock order products stock warehouses ∧
          NoWarehouseSuffices order products stock warehouses := by
    rw [← not_iff_not.mpr short, not_not]
    refine and_congr_right fun none => ?_
    have enough : ∀ pid, plannedDemand order products pid ≤
        ((activeWarehouses warehouses).map fun w => plannableStock stock w pid).sum := by
      intro pid
      by_contra less
      exact short.mpr ⟨pid, not_le.mp less⟩ none
    unfold NoWarehouseSuffices
    rw [single]
    exact plan_shipments_iff distinct enough
  constructor
  · rintro ⟨backorder, splits⟩
    rw [assessRisk_backorder_iff, short] at backorder
    rw [assessRisk_split_iff, split] at splits
    exact ⟨backorder, splits⟩
  · rintro ⟨backorder, splits⟩
    refine ⟨?_, ?_⟩
    · rwa [assessRisk_backorder_iff, short]
    · rwa [assessRisk_split_iff, split]

/-! ## Stock in the second warehouse -/

/-- Five desks are ordered. -/
def deskOrder : RawOrder :=
  { header :=
      { id := 7, name := "SO00007", partnerId := 1, partnerName := "Acme Corp", state := "draft"
        currency := "INR", userId := 4, teamId := none, companyId := 1 }
    lines :=
      [{ id := 1, productId := 10, productName := "Desk", categoryId := 1
         productType := "STOCKABLE", qty := 5, priceUnit := 100, discountPct := 0
         unitCost := 40, taxRatePct := 18 }] }

def deskProducts : AList fun _ : ℤ => RawProduct :=
  AList.insert 10 { id := 10, type := "STOCKABLE" } ∅

/-- All ten desks there are stand in the second warehouse. -/
def eastStock : Availability := fun pid =>
  if pid = 10 then AList.insert 1 0 (AList.insert 2 10 ∅) else ∅

def mainAndEast : List WarehouseInfo :=
  [{ warehouseId := 1, name := "Main Warehouse", shippingCostWeight := 10 },
    { warehouseId := 2, name := "East Depot", shippingCostWeight := 15, priority := 2 }]

def deskDeal : DealStore :=
  { deal :=
      { id := 1, reference := "DF-00007", odooSaleOrderId := 7, odooOrderName := "SO00007"
        odooPartnerId := 1, partnerNameCache := "Acme Corp", ownerOdooUserId := 4 }
    nextId := 2 }

/-- The assessment has the split points, and the plan ships the five desks at once. -/
theorem deskOrder_disagrees :
    CarriesInventoryPoints (assessRisk deskDeal {} (dealContextOf {} deskOrder eastStock))
        ({} : RiskWeights).invSplitPoints ∧
      (servicePlan deskOrder deskProducts eastStock mainAndEast).estimatedShipments = 1 ∧
      ¬ InventoryAgreement (assessRisk deskDeal {} (dealContextOf {} deskOrder eastStock))
        (servicePlan deskOrder deskProducts eastStock mainAndEast) := by
  have carries : CarriesInventoryPoints
      (assessRisk deskDeal {} (dealContextOf {} deskOrder eastStock))
      ({} : RiskWeights).invSplitPoints := by
    decide +kernel
  have once :
      (servicePlan deskOrder deskProducts eastStock mainAndEast).estimatedShipments = 1 := by
    decide +kernel
  refine ⟨carries, once, fun agreement => ?_⟩
  obtain ⟨-, several⟩ := agreement.split.mp carries
  omega

theorem deskOrder_agreement_iff :
    InventoryAgreement (assessRisk deskDeal {} (dealContextOf {} deskOrder eastStock))
        (servicePlan deskOrder deskProducts eastStock mainAndEast) ↔
      ViewsAgree deskOrder deskProducts eastStock mainAndEast :=
  inventoryAgreement_iff deskDeal {} deskOrder deskProducts eastStock (by decide)

end DealFlow
