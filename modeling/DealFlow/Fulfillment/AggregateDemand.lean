import DealFlow.Fulfillment.Conservation

/-!
# A plan depends on the aggregate demand only

Two lists of demand lines with the same positive demand per product, and two lists of warehouses
with the same active ones, get plans that differ at most in how the lines share the allocations.

The demand dictionaries then hold the same quantities under permuted keys, and no strategy reads
more of them (`chooseWarehouses_congr`).  The planner sorts by a key that ends in the warehouse id,
so the order of the input is forgotten (`sortWarehouses_congr`).  The chosen warehouses being the
same, `LinesServed.drained` gives the same stock left, whatever lines the demand came in.
-/

namespace DealFlow

open Lib

/-! ## Sorting forgets the input order -/

theorem warehouseId_eq_of_key {v w : WarehouseInfo} (same : warehouseKey v = warehouseKey w) :
    v.warehouseId = w.warehouseId :=
  congrArg (fun key => (ofLex (ofLex key).2).2) same

theorem sortWarehouses_congr {vs ws : List WarehouseInfo} (perm : vs.Perm ws)
    (distinct : (ws.map (·.warehouseId)).Nodup) : sortWarehouses vs = sortWarehouses ws := by
  have permSorted : (sortWarehouses vs).Perm (sortWarehouses ws) :=
    ((sortWarehouses_perm vs).trans perm).trans (sortWarehouses_perm ws).symm
  refine permSorted.eq_of_pairwise ?_ (sortWarehouses_sorted vs) (sortWarehouses_sorted ws)
  intro v w memV memW le ge
  have memV' : v ∈ ws := mem_sortWarehouses.mp (permSorted.mem_iff.mp memV)
  exact eq_of_warehouseId distinct memV' (mem_sortWarehouses.mp memW)
    (warehouseId_eq_of_key (le_antisymm le ge))

/-! ## The choice reads the demand per product -/

section Choice

variable {stock : StockTable} {demand demand' : AList fun _ : ℤ => ℤ} {ws : List WarehouseInfo}

theorem canCover_congr (keys : demand.keys.Perm demand'.keys)
    (same : ∀ pid, demandOf demand pid = demandOf demand' pid) (s : List WarehouseInfo) :
    canCover stock demand s = canCover stock demand' s := by
  rw [Bool.eq_iff_iff, canCover_iff, canCover_iff]
  constructor
  · intro covers pid mem
    exact same pid ▸ covers pid (keys.mem_iff.mpr mem)
  · intro covers pid mem
    exact (same pid).symm ▸ covers pid (keys.mem_iff.mp mem)

theorem fullCoverageCandidates_congr (keys : demand.keys.Perm demand'.keys)
    (same : ∀ pid, demandOf demand pid = demandOf demand' pid) :
    fullCoverageCandidates stock demand ws = fullCoverageCandidates stock demand' ws := by
  refine List.filter_congr fun w _ => ?_
  have alone : canCover stock demand [w] = canCover stock demand' [w] :=
    canCover_congr keys same [w]
  simpa [canCover] using alone

theorem exhaustiveChoice_congr (keys : demand.keys.Perm demand'.keys)
    (same : ∀ pid, demandOf demand pid = demandOf demand' pid) :
    exhaustiveChoice stock demand ws = exhaustiveChoice stock demand' ws := by
  have ok : canCover stock demand = canCover stock demand' :=
    funext fun s => canCover_congr keys same s
  have relevant : ∀ w : WarehouseInfo,
      (demand.keys.any fun pid => 0 < stock w.warehouseId pid) =
        demand'.keys.any fun pid => 0 < stock w.warehouseId pid := by
    intro w
    rw [Bool.eq_iff_iff, List.any_eq_true, List.any_eq_true]
    exact exists_congr fun pid => and_congr_left' keys.mem_iff
  simp only [exhaustiveChoice, ok, relevant]

theorem coverageGain_congr {pids pids' : List ℤ} (perm : pids.Perm pids') (remaining : ℤ → ℤ) :
    coverageGain stock pids remaining = coverageGain stock pids' remaining :=
  funext fun w => (perm.map fun pid => min (stock w.warehouseId pid) (remaining pid)).sum_eq

theorem serve_congr {pids pids' : List ℤ} (perm : pids.Perm pids') (remaining : ℤ → ℤ)
    (w : WarehouseInfo) : serve stock pids remaining w = serve stock pids' remaining w := by
  funext pid
  simp only [serve, perm.mem_iff]

/-- One turn of the greedy loop. -/
theorem greedySelect_eq (pids : List ℤ) (remaining : ℤ → ℤ) (pool selected : List WarehouseInfo) :
    greedySelect stock pids remaining pool selected =
      if pids.any fun pid => 0 < remaining pid then
        match pool.argmax (greedyKey stock pids remaining) with
        | none => selected
        | some w =>
            if coverageGain stock pids remaining w = 0 then selected
            else
              greedySelect stock pids (serve stock pids remaining w) (pool.erase w)
                (selected ++ [w])
      else selected := by
  rw [greedySelect]
  cases best : pool.argmax (greedyKey stock pids remaining) with
  | none => rfl
  | some w => rfl

theorem greedySelect_congr {pids pids' : List ℤ} (perm : pids.Perm pids') (remaining : ℤ → ℤ)
    (pool selected : List WarehouseInfo) :
    greedySelect stock pids remaining pool selected =
      greedySelect stock pids' remaining pool selected := by
  have unserved : (pids.any fun pid => 0 < remaining pid) =
      pids'.any fun pid => 0 < remaining pid := by
    rw [Bool.eq_iff_iff, List.any_eq_true, List.any_eq_true]
    exact exists_congr fun pid => and_congr_left' perm.mem_iff
  have gains : coverageGain stock pids remaining = coverageGain stock pids' remaining :=
    coverageGain_congr perm remaining
  have keys : greedyKey stock pids remaining = greedyKey stock pids' remaining := by
    funext w
    simp only [greedyKey, gains]
  rw [greedySelect_eq, greedySelect_eq, unserved, keys, gains]
  cases best : pool.argmax (greedyKey stock pids' remaining) with
  | none => rfl
  | some w =>
      have mem : w ∈ pool := List.argmax_mem best
      dsimp only
      rw [serve_congr perm, greedySelect_congr perm]
termination_by pool.length
decreasing_by
  have pos := List.length_pos_of_mem mem
  rw [List.length_erase_of_mem mem]
  omega

theorem chooseWarehouses_congr (keys : demand.keys.Perm demand'.keys)
    (same : ∀ pid, demandOf demand pid = demandOf demand' pid) (force : Option String) :
    chooseWarehouses stock demand ws force = chooseWarehouses stock demand' ws force := by
  have quantities : demandOf demand = demandOf demand' := funext same
  have greedy : greedyChoice stock demand ws = greedyChoice stock demand' ws := by
    simp only [greedyChoice, quantities, greedySelect_congr keys]
  simp only [chooseWarehouses, fullCoverageCandidates_congr keys same,
    exhaustiveChoice_congr keys same, greedy]

end Choice

/-! ## Aggregate demand -/

section Demand

variable {lines lines' : List StockableLine}

theorem mem_keys_iff_requested {pid : ℤ} :
    pid ∈ (totalDemand (validLines lines)).keys ↔ 0 < requestedOf (validLines lines) pid := by
  constructor
  · intro mem
    obtain ⟨l, memL, rfl⟩ := mem_keys_totalDemand.mp mem
    have least := requestedQty_le_requestedOf (validLines_nonneg lines) memL
    exact (mem_validLines.mp memL).2.trans_le least
  · intro pos
    by_contra absent
    rw [requestedOf_eq_zero absent] at pos
    omega

theorem totalDemand_keys_perm
    (same : ∀ pid, requestedOf (validLines lines) pid = requestedOf (validLines lines') pid) :
    (totalDemand (validLines lines)).keys.Perm (totalDemand (validLines lines')).keys := by
  refine (List.perm_ext_iff_of_nodup (AList.keys_nodup _) (AList.keys_nodup _)).mpr fun pid => ?_
  rw [mem_keys_iff_requested, mem_keys_iff_requested, same pid]

theorem validLines_eq_nil_iff :
    validLines lines = [] ↔ ∀ pid, requestedOf (validLines lines) pid = 0 := by
  constructor
  · intro none pid
    rw [none]
    rfl
  · intro zero
    by_contra some
    obtain ⟨l, mem⟩ := List.exists_mem_of_ne_nil _ some
    have least := requestedQty_le_requestedOf (validLines_nonneg lines) mem
    have pos := (mem_validLines.mp mem).2
    have none := zero l.productId
    omega

end Demand

/-! ## The plan -/

/-- Two plans that agree on everything but the sharing of allocations among lines. -/
structure SameAggregatePlan (plan plan' : FulfillmentCalculationResult) : Prop where
  strategy : plan.strategy = plan'.strategy
  used : warehousesUsed plan.allocations = warehousesUsed plan'.allocations
  shipments : plan.estimatedShipments = plan'.estimatedShipments
  cost : plan.estimatedShippingCost = plan'.estimatedShippingCost
  allocated : ∀ wid pid,
    allocatedFrom plan.allocations wid pid = allocatedFrom plan'.allocations wid pid
  backordered : ∀ pid, backorderOf plan.backorders pid = backorderOf plan'.backorders pid

/-- A warehouse id is used exactly if something was allocated from it. -/
theorem mem_warehousesUsed_iff {allocations : List PlanAllocation}
    (positive : ∀ a ∈ allocations, 0 < a.allocatedQty) {wid : ℤ} :
    wid ∈ warehousesUsed allocations ↔ ∃ pid, 0 < allocatedFrom allocations wid pid := by
  rw [warehousesUsed, List.mem_toFinset, List.mem_filterMap]
  constructor
  · rintro ⟨a, mem, eq⟩
    refine ⟨a.productId, (positive a mem).trans_le ?_⟩
    refine List.single_le_sum (fun x memX => ?_) _ (List.mem_map.mpr ⟨a, ?_, rfl⟩)
    · obtain ⟨b, memB, rfl⟩ := List.mem_map.mp memX
      exact (positive b (List.mem_filter.mp memB).1).le
    · exact List.mem_filter.mpr ⟨mem, by simp [eq]⟩
  · rintro ⟨pid, pos⟩
    by_contra unused
    have empty :
        (allocations.filter fun a => a.warehouseId = some wid ∧ a.productId = pid) = [] := by
      refine List.filter_eq_nil_iff.mpr fun a mem named => unused ⟨a, mem, ?_⟩
      exact (of_decide_eq_true named).1
    rw [allocatedFrom, empty] at pos
    exact absurd pos (lt_irrefl 0)

/-- The stock left over depends on the lines through the demand per product only. -/
theorem LinesServed.left_eq {lines lines' : List StockableLine} {ws : List WarehouseInfo}
    {stock left left' : StockTable} {allocations backorders allocations' backorders' :
      List PlanAllocation}
    (served : LinesServed lines ws stock (allocations, backorders, left))
    (served' : LinesServed lines' ws stock (allocations', backorders', left'))
    (same : ∀ pid, requestedOf lines pid = requestedOf lines' pid) (wid pid : ℤ) :
    left wid pid = left' wid pid := by
  by_cases inside : ∃ w ∈ ws, w.warehouseId = wid
  · rcases inside with ⟨w, mem, rfl⟩
    have rows : stockRow left ws pid = stockRow left' ws pid := by
      calc stockRow left ws pid = drain (stockRow stock ws pid) (requestedOf lines pid) :=
            served.drained pid
        _ = drain (stockRow stock ws pid) (requestedOf lines' pid) := by rw [same pid]
        _ = stockRow left' ws pid := (served'.drained pid).symm
    exact List.map_inj_left.mp rows w mem
  · have outside : ∀ w ∈ ws, w.warehouseId ≠ wid := fun w mem eq => inside ⟨w, mem, eq⟩
    exact (served.otherWarehouse wid pid outside).trans
      (served'.otherWarehouse wid pid outside).symm

/-- Two plans that allocate, for the same demand and from the same active warehouses, choose the
same warehouses in the same order, so they agree. -/
theorem PlannedAllocation.aggregate {lines lines' : List StockableLine}
    {warehouses warehouses' : List WarehouseInfo} {availability : AvailabilityTable}
    {forceStrategy : Option String} {plan plan' : FulfillmentCalculationResult}
    (p : PlannedAllocation lines warehouses availability forceStrategy plan)
    (p' : PlannedAllocation lines' warehouses' availability forceStrategy plan')
    (distinctWarehouses' : (warehouses'.map (·.warehouseId)).Nodup)
    (sameActive : (activeWarehouses warehouses).Perm (activeWarehouses warehouses'))
    (sameDemand : ∀ pid,
      requestedOf (validLines lines) pid = requestedOf (validLines lines') pid)
    (sameBackorder : ∀ pid, backorderOf plan.backorders pid = backorderOf plan'.backorders pid) :
    SameAggregatePlan plan plan' := by
  have sorted := sortWarehouses_congr sameActive (activeWarehouses_ids_nodup distinctWarehouses')
  have demands : ∀ pid, demandOf (totalDemand (validLines lines)) pid =
      demandOf (totalDemand (validLines lines')) pid := by
    intro pid
    rw [demandOf_totalDemand, demandOf_totalDemand, sameDemand pid]
  have choice : chooseWarehouses (getAvail availability) (totalDemand (validLines lines))
      (sortWarehouses (activeWarehouses warehouses)) forceStrategy =
      chooseWarehouses (getAvail availability) (totalDemand (validLines lines'))
        (sortWarehouses (activeWarehouses warehouses')) forceStrategy := by
    rw [sorted]
    exact chooseWarehouses_congr (totalDemand_keys_perm sameDemand) demands forceStrategy
  have chosen : chosenWarehouses lines warehouses availability forceStrategy =
      chosenWarehouses lines' warehouses' availability forceStrategy := by
    rw [chosenWarehouses, chosenWarehouses, choice]
  rcases p.served with ⟨left, served⟩
  rcases p'.served with ⟨left', served'⟩
  rw [← chosen] at served'
  have allocated : ∀ wid pid,
      allocatedFrom plan.allocations wid pid = allocatedFrom plan'.allocations wid pid := by
    intro wid pid
    calc _ = getAvail availability wid pid - left wid pid := served.taken wid pid
      _ = getAvail availability wid pid - left' wid pid := by
        rw [served.left_eq served' sameDemand]
      _ = _ := (served'.taken wid pid).symm
  have used : warehousesUsed plan.allocations = warehousesUsed plan'.allocations := by
    ext wid
    rw [mem_warehousesUsed_iff fun a mem => (p.fromActive a mem).1,
      mem_warehousesUsed_iff fun a mem => (p'.fromActive a mem).1]
    exact exists_congr fun pid => by rw [allocated wid pid]
  refine ⟨?_, used, ?_, ?_, allocated, sameBackorder⟩
  · rw [p.strategy, p'.strategy, choice]
  · rw [p.shipments, p'.shipments, used]
  · rw [p.cost, p'.cost, used, chosen]

theorem calculateFulfillmentPlan_aggregate {lines lines' : List StockableLine}
    {warehouses warehouses' : List WarehouseInfo}
    (distinctWarehouses : (warehouses.map (·.warehouseId)).Nodup)
    (distinctWarehouses' : (warehouses'.map (·.warehouseId)).Nodup)
    (sameActive : (activeWarehouses warehouses).Perm (activeWarehouses warehouses'))
    (sameDemand : ∀ pid,
      requestedOf (validLines lines) pid = requestedOf (validLines lines') pid)
    (availability : AvailabilityTable) (forceStrategy : Option String) :
    SameAggregatePlan (calculateFulfillmentPlan lines warehouses availability forceStrategy)
      (calculateFulfillmentPlan lines' warehouses' availability forceStrategy) := by
  have sameEmpty : validLines lines = [] ↔ validLines lines' = [] := by
    rw [validLines_eq_nil_iff, validLines_eq_nil_iff]
    exact forall_congr' fun pid => by rw [sameDemand pid]
  have noneActive : activeWarehouses warehouses = [] ↔ activeWarehouses warehouses' = [] := by
    rw [← List.length_eq_zero_iff, ← List.length_eq_zero_iff, sameActive.length_eq]
  have sameBackorder : ∀ pid,
      backorderOf (calculateFulfillmentPlan lines warehouses availability
        forceStrategy).backorders pid =
      backorderOf (calculateFulfillmentPlan lines' warehouses' availability
        forceStrategy).backorders pid := by
    intro pid
    rw [plan_backordered lines distinctWarehouses, plan_backordered lines' distinctWarehouses',
      sameDemand pid, stockIn_perm _ sameActive]
  rcases planned lines availability forceStrategy distinctWarehouses with
    ⟨noDemand, eq⟩ | ⟨demand, noActive, eq⟩ | ⟨demand, active, p⟩
  · rcases planned lines' availability forceStrategy distinctWarehouses' with
      ⟨-, eq'⟩ | ⟨demand', -⟩ | ⟨demand', -⟩
    · rw [eq, eq'] at sameBackorder ⊢
      exact ⟨rfl, rfl, rfl, rfl, fun _ _ => rfl, sameBackorder⟩
    · exact absurd (sameEmpty.mp noDemand) demand'
    · exact absurd (sameEmpty.mp noDemand) demand'
  · rcases planned lines' availability forceStrategy distinctWarehouses' with
      ⟨noDemand', -⟩ | ⟨-, -, eq'⟩ | ⟨-, active', -⟩
    · exact absurd (sameEmpty.mpr noDemand') demand
    · rw [eq, eq'] at sameBackorder ⊢
      exact ⟨rfl, rfl, rfl, rfl, fun _ _ => rfl, sameBackorder⟩
    · exact absurd (noneActive.mp noActive) active'
  · rcases planned lines' availability forceStrategy distinctWarehouses' with
      ⟨noDemand', -⟩ | ⟨-, noActive', -⟩ | ⟨-, -, p'⟩
    · exact absurd (sameEmpty.mpr noDemand') demand
    · exact absurd (noneActive.mpr noActive') active
    · exact p.aggregate p' distinctWarehouses' sameActive sameDemand sameBackorder

/-- The sample demand with its lines merged and reordered. -/
def mergedLines : List StockableLine :=
  [⟨7, 20, 4⟩, ⟨8, 10, 8⟩, ⟨9, 30, 0⟩]

theorem mergedPlan_aggregate :
    SameAggregatePlan
      (calculateFulfillmentPlan sampleLines sampleWarehouses sampleAvailability (some "GREEDY"))
      (calculateFulfillmentPlan mergedLines (activeWarehouses sampleWarehouses).reverse
        sampleAvailability (some "GREEDY")) := by
  refine calculateFulfillmentPlan_aggregate (by decide) (by decide) (List.reverse_perm _).symm
    (fun pid => ?_) _ _
  have sample : validLines sampleLines = [⟨1, 10, 5⟩, ⟨2, 10, 3⟩, ⟨3, 20, 4⟩] := by decide
  have merged : validLines mergedLines = [⟨7, 20, 4⟩, ⟨8, 10, 8⟩] := by decide
  rw [sample, merged]
  simp only [requestedOf_cons]
  split <;> split <;> simp [requestedOf]

end DealFlow
