import DealFlow.Fulfillment.Conservation

/-!
# Optimality of the planner on few warehouses

With at most six active warehouses, no forced strategy and enough stock in total, the planner
first looks for one covering warehouse and then searches the subsets by size.
`chooseWarehouses_minimal` says that the subset it settles on is a smallest covering one and, among
those, a cheapest one (`MinimalCover`).

For plans this takes two more steps.  The warehouses any full-coverage plan draws from form
a covering set (`FullCoverage.covers_used`), so no plan gets by with fewer than the chosen ones.
And the planner's own plan draws from all of its chosen warehouses: those it draws from already
cover the demand, and a smaller covering set than the chosen one does not exist.
-/

namespace DealFlow

open Lib

/-- The quantity of a product a plan allocates. -/
def allocatedOf (allocations : List PlanAllocation) (pid : ℤ) : ℤ :=
  ((allocations.filter fun a => a.productId = pid).map (·.allocatedQty)).sum

/-- Allocations that ship the whole demand from the stock of active warehouses. -/
structure FullCoverage (lines : List StockableLine) (warehouses : List WarehouseInfo)
    (availability : AvailabilityTable) (allocations : List PlanAllocation) : Prop where
  fromActive : ∀ a ∈ allocations, 0 < a.allocatedQty ∧
    ∃ w ∈ warehouses, w.active = true ∧ a.warehouseId = some w.warehouseId
  withinStock : ∀ wid pid,
    allocatedFrom allocations wid pid ≤ max 0 ((availability pid wid).getD 0)
  covers : ∀ pid, allocatedOf allocations pid = requestedOf (validLines lines) pid

def totalWeight (ws : List WarehouseInfo) : ℚ :=
  (ws.map (·.shippingCostWeight)).sum

/-- A full-coverage plan from the fewest warehouses and, among the plans from as many, of the
lowest total cost weight. -/
structure OptimalCoverage (lines : List StockableLine) (warehouses : List WarehouseInfo)
    (availability : AvailabilityTable) (allocations : List PlanAllocation) : Prop where
  feasible : FullCoverage lines warehouses availability allocations
  fewest : ∀ other, FullCoverage lines warehouses availability other →
    (usedWarehouses allocations warehouses).length ≤ (usedWarehouses other warehouses).length
  cheapest : ∀ other, FullCoverage lines warehouses availability other →
    (usedWarehouses other warehouses).length = (usedWarehouses allocations warehouses).length →
    totalWeight (usedWarehouses allocations warehouses) ≤
      totalWeight (usedWarehouses other warehouses)

/-! ## Smallest covering sets -/

/-- The warehouses hold the demand of every demanded product. -/
def Covers (stock : StockTable) (demand : AList fun _ : ℤ => ℤ) (s : List WarehouseInfo) : Prop :=
  ∀ pid ∈ demand.keys, demandOf demand pid ≤ stockIn stock s pid

structure MinimalCover (stock : StockTable) (demand : AList fun _ : ℤ => ℤ)
    (ws chosen : List WarehouseInfo) : Prop where
  subperm : chosen.Subperm ws
  covers : Covers stock demand chosen
  fewest : ∀ s : List WarehouseInfo, s.Sublist ws → Covers stock demand s →
    chosen.length ≤ s.length
  cheapest : ∀ s : List WarehouseInfo, s.Sublist ws → Covers stock demand s →
    s.length = chosen.length → totalWeight chosen ≤ totalWeight s

section Minimal

variable {stock : StockTable} {demand : AList fun _ : ℤ => ℤ} {ws : List WarehouseInfo}

/-- A set of one covers if and only if its warehouse is a candidate of the single choice. -/
theorem covers_singleton {w : WarehouseInfo} (mem : w ∈ ws) :
    Covers stock demand [w] ↔ w ∈ fullCoverageCandidates stock demand ws := by
  simp [Covers, mem_fullCoverageCandidates, mem]

theorem covers_length_pos {s : List WarehouseInfo} (demanded : ∃ pid ∈ demand.keys,
    0 < demandOf demand pid) (covers : Covers stock demand s) : 0 < s.length := by
  rcases demanded with ⟨pid, mem, pos⟩
  cases s with
  | nil =>
      have bound := covers pid mem
      rw [stockIn_nil] at bound
      omega
  | cons w s => exact Nat.succ_pos _

theorem singleChoice_minimal {w : WarehouseInfo}
    (demanded : ∃ pid ∈ demand.keys, 0 < demandOf demand pid)
    (single : (fullCoverageCandidates stock demand ws).argmin warehouseKey = some w) :
    MinimalCover stock demand ws [w] := by
  have candidate := List.argmin_mem single
  have mem := (mem_fullCoverageCandidates.mp candidate).1
  refine ⟨(List.singleton_sublist.mpr mem).subperm, (covers_singleton mem).mpr candidate, ?_, ?_⟩
  · intro s _ covers
    exact covers_length_pos demanded covers
  · intro s sub covers size
    obtain ⟨v, rfl⟩ := List.length_eq_one_iff.mp size
    have memV := sub.subset List.mem_cons_self
    have best := List.le_of_mem_argmin ((covers_singleton memV).mp covers) single
    have weight : w.shippingCostWeight ≤ v.shippingCostWeight :=
      Prod.Lex.monotone_fst _ _ best
    simpa [totalWeight] using weight

/-- Without a single covering warehouse the search by size finds a smallest covering set. -/
theorem exhaustiveChoice_minimal (demanded : ∃ pid ∈ demand.keys, 0 < demandOf demand pid)
    (noSingle : fullCoverageCandidates stock demand ws = []) (enough : Covers stock demand ws) :
    MinimalCover stock demand ws (exhaustiveChoice stock demand ws) := by
  -- the search tries every size a covering set can have
  have sizes : ∀ s : List WarehouseInfo, s.Sublist ws → Covers stock demand s →
      s.length ∈ List.range' 2 (ws.length - 1) := by
    intro s sub covers
    have pos := covers_length_pos demanded covers
    have several : s.length ≠ 1 := by
      intro one
      obtain ⟨v, rfl⟩ := List.length_eq_one_iff.mp one
      have candidate := (covers_singleton (sub.subset List.mem_cons_self)).mp covers
      rw [noSingle] at candidate
      cases candidate
    have most := sub.length_le
    rw [List.mem_range'_1]
    omega
  unfold exhaustiveChoice
  split
  · next subset found =>
      obtain ⟨sub, -, ok, fewest, cheapest⟩ := searchBySize_some List.pairwise_lt_range' found
      refine ⟨sub.subperm, canCover_iff.mp ok, ?_, ?_⟩
      · intro s subS covers
        exact fewest s subS (sizes s subS covers) (canCover_iff.mpr covers)
      · intro s subS covers size
        exact Prod.Lex.monotone_fst _ _ (cheapest s subS size (canCover_iff.mpr covers))
  · next missed =>
      have rejected := searchBySize_none.mp missed ws (List.Sublist.refl _)
        (sizes ws (List.Sublist.refl _) enough)
      rw [canCover_iff.mpr enough] at rejected
      cases rejected

theorem chooseWarehouses_minimal (demanded : ∃ pid ∈ demand.keys, 0 < demandOf demand pid)
    (few : ws.length ≤ 6) (enough : Covers stock demand ws) :
    MinimalCover stock demand ws (chooseWarehouses stock demand ws none).2 := by
  unfold chooseWarehouses
  simp only [ne_eq, reduceCtorEq, not_false_eq_true, and_self, if_true, and_true]
  split
  · next w single => exact singleChoice_minimal demanded single
  · next none =>
      rw [if_pos few]
      exact exhaustiveChoice_minimal demanded (List.argmin_eq_none.mp none) enough

end Minimal

/-! ## The warehouses of a full-coverage plan -/

theorem allocatedOf_cons (a : PlanAllocation) (as : List PlanAllocation) (pid : ℤ) :
    allocatedOf (a :: as) pid =
      (if a.productId = pid then a.allocatedQty else 0) + allocatedOf as pid := by
  by_cases h : a.productId = pid <;> simp [allocatedOf, h]

/-- A row of warehouses with distinct ids counts an allocation from one of them once. -/
theorem sum_allocation {ws : List WarehouseInfo} (distinct : (ws.map (·.warehouseId)).Nodup)
    {a : PlanAllocation} (named : ∃ w ∈ ws, a.warehouseId = some w.warehouseId) (pid : ℤ) :
    (ws.map fun w => if a.warehouseId = some w.warehouseId ∧ a.productId = pid
      then a.allocatedQty else 0).sum = if a.productId = pid then a.allocatedQty else 0 := by
  induction ws with
  | nil =>
      rcases named with ⟨w, mem, -⟩
      cases mem
  | cons w ws ih =>
      obtain ⟨notMem, distinctTail⟩ := List.nodup_cons.mp distinct
      rw [List.map_cons, List.sum_cons]
      by_cases here : a.warehouseId = some w.warehouseId
      · have tail : (ws.map fun v => if a.warehouseId = some v.warehouseId ∧ a.productId = pid
            then a.allocatedQty else 0).sum = 0 := by
          refine List.sum_eq_zero fun x mem => ?_
          obtain ⟨v, memV, rfl⟩ := List.mem_map.mp mem
          refine if_neg fun both => notMem ?_
          have same : v.warehouseId = w.warehouseId :=
            Option.some.inj (both.1.symm.trans here)
          exact List.mem_map.mpr ⟨v, memV, same⟩
        rw [tail, add_zero]
        simp only [here, true_and]
      · rcases named with ⟨v, mem, eq⟩
        have later : v ∈ ws := by
          rcases List.mem_cons.mp mem with rfl | later
          · exact absurd eq here
          · exact later
        simp only [here, false_and, if_false, zero_add]
        exact ih distinctTail ⟨v, later, eq⟩

/-- What is allocated of a product is what the named warehouses gave of it. -/
theorem allocatedOf_eq_sum {ws : List WarehouseInfo} (distinct : (ws.map (·.warehouseId)).Nodup)
    {allocations : List PlanAllocation}
    (named : ∀ a ∈ allocations, ∃ w ∈ ws, a.warehouseId = some w.warehouseId) (pid : ℤ) :
    allocatedOf allocations pid =
      (ws.map fun w => allocatedFrom allocations w.warehouseId pid).sum := by
  induction allocations with
  | nil => simp [allocatedOf]
  | cons a as ih =>
      obtain ⟨head, tail⟩ := List.forall_mem_cons.mp named
      simp only [allocatedOf_cons, allocatedFrom_cons, List.sum_map_add, ih tail,
        sum_allocation distinct head pid]

section Plans

variable {lines : List StockableLine} {warehouses : List WarehouseInfo}
  {availability : AvailabilityTable}

/-- Only active warehouses are used, so it does not matter whether one looks for them among all
warehouses or among the active ones. -/
theorem FullCoverage.used_eq {allocations : List PlanAllocation}
    (distinct : (warehouses.map (·.warehouseId)).Nodup)
    (full : FullCoverage lines warehouses availability allocations) :
    usedWarehouses allocations warehouses =
      usedWarehouses allocations (activeWarehouses warehouses) := by
  rw [usedWarehouses, usedWarehouses, activeWarehouses, List.filter_filter]
  refine List.filter_congr fun w mem => ?_
  by_cases received : ReceivedAllocation allocations w
  · rcases received with ⟨a, memA, eq⟩
    obtain ⟨-, v, memV, active, named⟩ := full.fromActive a memA
    have same : v = w := eq_of_warehouseId distinct memV mem
      (Option.some.inj (named.symm.trans eq))
    simp [← same, active]
  · simp [received]

/-- The warehouses a full-coverage plan draws from cover the demand. -/
theorem FullCoverage.covers_used {allocations : List PlanAllocation}
    (distinct : (warehouses.map (·.warehouseId)).Nodup)
    (full : FullCoverage lines warehouses availability allocations) :
    Covers (getAvail availability) (totalDemand (validLines lines))
      (usedWarehouses allocations warehouses) := by
  intro pid _
  have named : ∀ a ∈ allocations, ∃ w ∈ usedWarehouses allocations warehouses,
      a.warehouseId = some w.warehouseId := by
    intro a mem
    obtain ⟨-, w, memW, -, eq⟩ := full.fromActive a mem
    exact ⟨w, List.mem_filter.mpr ⟨memW, decide_eq_true ⟨a, mem, eq⟩⟩, eq⟩
  have split := allocatedOf_eq_sum (usedWarehouses_ids_nodup _ distinct) named pid
  rw [demandOf_totalDemand, ← full.covers pid, split]
  exact List.sum_le_sum fun w _ => full.withinStock w.warehouseId pid

/-- A full-coverage plan's warehouses, in the planner's order. -/
theorem FullCoverage.used_sorted {allocations : List PlanAllocation}
    (distinct : (warehouses.map (·.warehouseId)).Nodup)
    (full : FullCoverage lines warehouses availability allocations) :
    ∃ s : List WarehouseInfo, s.Sublist (sortWarehouses (activeWarehouses warehouses)) ∧
      s.Perm (usedWarehouses allocations warehouses) ∧
      Covers (getAvail availability) (totalDemand (validLines lines)) s := by
  have perm : (usedWarehouses allocations (sortWarehouses (activeWarehouses warehouses))).Perm
      (usedWarehouses allocations warehouses) := by
    rw [full.used_eq distinct]
    exact (sortWarehouses_perm _).filter _
  refine ⟨_, List.filter_sublist, perm, fun pid mem => ?_⟩
  have covers := full.covers_used distinct pid mem
  rwa [← stockIn_perm _ perm pid] at covers

theorem totalWeight_perm {vs ws : List WarehouseInfo} (perm : vs.Perm ws) :
    totalWeight vs = totalWeight ws :=
  (perm.map _).sum_eq

/-- A plan that covers the demand from the warehouses of a minimal cover is optimal: it has no
choice but to draw from all of them. -/
theorem FullCoverage.optimal {allocations : List PlanAllocation} {chosen : List WarehouseInfo}
    (distinct : (warehouses.map (·.warehouseId)).Nodup)
    (full : FullCoverage lines warehouses availability allocations)
    (minimal : MinimalCover (getAvail availability) (totalDemand (validLines lines))
      (sortWarehouses (activeWarehouses warehouses)) chosen)
    (drawn : ∀ a ∈ allocations, ∃ w ∈ chosen, a.warehouseId = some w.warehouseId) :
    OptimalCoverage lines warehouses availability allocations := by
  have given : ∀ w ∈ chosen, w ∈ warehouses := fun w mem =>
    (mem_activeWarehouses.mp (mem_sortWarehouses.mp (minimal.subperm.subset mem))).1
  have subset : usedWarehouses allocations warehouses ⊆ chosen := by
    intro w mem
    obtain ⟨memW, received⟩ := List.mem_filter.mp mem
    obtain ⟨a, memA, eq⟩ := of_decide_eq_true received
    obtain ⟨v, memV, eqV⟩ := drawn a memA
    have same : v = w := eq_of_warehouseId distinct (given v memV) memW
      (Option.some.inj (eqV.symm.trans eq))
    exact same ▸ memV
  have usedNodup : (usedWarehouses allocations warehouses).Nodup :=
    List.Nodup.of_map _ (usedWarehouses_ids_nodup _ distinct)
  have usedSub : (usedWarehouses allocations warehouses).Subperm chosen :=
    usedNodup.subperm subset
  obtain ⟨s, subS, permS, coversS⟩ := full.used_sorted distinct
  have least := minimal.fewest s subS coversS
  have most := usedSub.length_le
  have permUsed : (usedWarehouses allocations warehouses).Perm chosen :=
    usedSub.perm_of_length_le (by rw [← permS.length_eq]; exact least)
  refine ⟨full, ?_, ?_⟩
  · intro other fullOther
    obtain ⟨t, subT, permT, coversT⟩ := fullOther.used_sorted distinct
    rw [permUsed.length_eq, ← permT.length_eq]
    exact minimal.fewest t subT coversT
  · intro other fullOther size
    obtain ⟨t, subT, permT, coversT⟩ := fullOther.used_sorted distinct
    rw [totalWeight_perm permUsed, ← totalWeight_perm permT]
    refine minimal.cheapest t subT coversT ?_
    rw [permT.length_eq, size, permUsed.length_eq]

end Plans

/-! ## The planner -/

/-- With nothing backordered, the plan ships the whole demand. -/
theorem LinesServed.allocatedOf_eq {lines : List StockableLine} {ws : List WarehouseInfo}
    {stock left : StockTable} {allocations backorders : List PlanAllocation}
    (distinct : (ws.map (·.warehouseId)).Nodup)
    (served : LinesServed lines ws stock (allocations, backorders, left)) (pid : ℤ) :
    allocatedOf allocations pid = requestedOf lines pid - backorderOf backorders pid := by
  have split : allocatedOf allocations pid =
      (ws.map fun w => allocatedFrom allocations w.warehouseId pid).sum :=
    allocatedOf_eq_sum distinct (fun a mem => (served.allocationNamed a mem).2.2) pid
  have stockSplit : (stockRow stock ws pid).sum =
      (ws.map fun w => allocatedFrom allocations w.warehouseId pid).sum +
        (stockRow left ws pid).sum := by
    rw [stockRow, stockRow, ← List.sum_map_add]
    refine congrArg List.sum (List.map_congr_left fun w _ => ?_)
    have taken : allocatedFrom allocations w.warehouseId pid = _ :=
      served.taken w.warehouseId pid
    rw [taken]
    exact (sub_add_cancel _ _).symm
  have drained : (stockRow left ws pid).sum = (stockRow stock ws pid).sum -
      (fill (stockRow stock ws pid) (requestedOf lines pid)).sum := by
    rw [← sum_drain]
    exact congrArg List.sum (served.drained pid)
  have filled := sum_fill_add_unmet (stockRow stock ws pid) (requestedOf lines pid)
  have short : backorderOf backorders pid =
      unmet (stockRow stock ws pid) (requestedOf lines pid) := served.backordered pid
  rw [split]
  omega

/-- Where there are lines to ship, some product is demanded. -/
theorem exists_demanded {lines : List StockableLine} (demand : validLines lines ≠ []) :
    ∃ pid ∈ (totalDemand (validLines lines)).keys,
      0 < demandOf (totalDemand (validLines lines)) pid := by
  obtain ⟨l, mem⟩ := List.exists_mem_of_ne_nil _ demand
  refine ⟨l.productId, mem_keys_totalDemand.mpr ⟨l, mem, rfl⟩, ?_⟩
  rw [demandOf_totalDemand]
  have least := requestedQty_le_requestedOf (validLines_nonneg lines) mem
  exact (mem_validLines.mp mem).2.trans_le least

/-- With enough stock in the active warehouses the plan ships the whole demand. -/
theorem PlannedAllocation.full {lines : List StockableLine} {warehouses : List WarehouseInfo}
    {availability : AvailabilityTable} {forceStrategy : Option String}
    {plan : FulfillmentCalculationResult}
    (p : PlannedAllocation lines warehouses availability forceStrategy plan)
    (distinctWarehouses : (warehouses.map (·.warehouseId)).Nodup)
    (enough : ∀ pid, requestedOf (validLines lines) pid ≤
      stockIn (getAvail availability) (activeWarehouses warehouses) pid) :
    FullCoverage lines warehouses availability plan.allocations := by
  have noBackorder : ∀ pid, backorderOf plan.backorders pid = 0 := by
    intro pid
    have bound := enough pid
    rw [p.backordered pid]
    omega
  have distinctChosen :=
    chosenWarehouses_ids_nodup lines availability forceStrategy distinctWarehouses
  rcases p.served with ⟨left, served⟩
  refine ⟨p.fromActive, p.stockBound, fun pid => ?_⟩
  rw [served.allocatedOf_eq distinctChosen pid, noBackorder pid, sub_zero]

/-- With demand and enough stock in at most six active warehouses, what is allocated is optimal. -/
theorem PlannedAllocation.optimal {lines : List StockableLine} {warehouses : List WarehouseInfo}
    {availability : AvailabilityTable} {plan : FulfillmentCalculationResult}
    (p : PlannedAllocation lines warehouses availability none plan)
    (distinctWarehouses : (warehouses.map (·.warehouseId)).Nodup)
    (few : (activeWarehouses warehouses).length ≤ 6)
    (enough : ∀ pid, requestedOf (validLines lines) pid ≤
      ((activeWarehouses warehouses).map fun w =>
        max 0 ((availability pid w.warehouseId).getD 0)).sum)
    (demand : validLines lines ≠ []) :
    OptimalCoverage lines warehouses availability plan.allocations := by
  have sorted := sortWarehouses_perm (activeWarehouses warehouses)
  have covers : Covers (getAvail availability) (totalDemand (validLines lines))
      (sortWarehouses (activeWarehouses warehouses)) := by
    intro pid _
    rw [demandOf_totalDemand, stockIn_perm _ sorted]
    exact enough pid
  have minimal := chooseWarehouses_minimal (exists_demanded demand)
    (sorted.length_eq.trans_le few) covers
  have full := p.full distinctWarehouses enough
  refine full.optimal distinctWarehouses minimal fun a memA => ?_
  obtain ⟨w, memW, named⟩ := p.named a memA
  exact ⟨w, mem_sortWarehouses.mp memW, named⟩

theorem calculateFulfillmentPlan_optimal (lines : List StockableLine)
    {warehouses : List WarehouseInfo} {availability : AvailabilityTable}
    (distinctWarehouses : (warehouses.map (·.warehouseId)).Nodup)
    (few : (activeWarehouses warehouses).length ≤ 6)
    (enough : ∀ pid, requestedOf (validLines lines) pid ≤
      ((activeWarehouses warehouses).map fun w =>
        max 0 ((availability pid w.warehouseId).getD 0)).sum) :
    OptimalCoverage lines warehouses availability
      (calculateFulfillmentPlan lines warehouses availability none).allocations := by
  rcases planned lines availability none distinctWarehouses with
    ⟨noDemand, eq⟩ | ⟨demand, noActive, -⟩ | ⟨demand, -, p⟩
  · -- nothing to ship: the plan is empty, and no plan is smaller
    rw [eq]
    have full : FullCoverage lines warehouses availability [] :=
      { fromActive := by simp
        withinStock := fun wid pid => le_max_left _ _
        covers := fun pid => by rw [noDemand]; rfl }
    refine ⟨full, fun other _ => by simp [usedWarehouses_nil], fun other _ size => ?_⟩
    have none : usedWarehouses other warehouses = [] := by
      rw [usedWarehouses_nil] at size
      exact List.length_eq_zero_iff.mp size
    rw [none, usedWarehouses_nil]
  · -- demand without warehouses is not covered
    obtain ⟨l, mem⟩ := List.exists_mem_of_ne_nil _ demand
    have bound := enough l.productId
    have pos := (mem_validLines.mp mem).2
    have least := requestedQty_le_requestedOf (validLines_nonneg lines) mem
    rw [noActive, List.map_nil, List.sum_nil] at bound
    omega
  · exact p.optimal distinctWarehouses few enough demand

theorem samplePlan_optimal :
    OptimalCoverage sampleLines sampleWarehouses sampleAvailability
      (calculateFulfillmentPlan sampleLines sampleWarehouses sampleAvailability none).allocations :=
  by
  refine calculateFulfillmentPlan_optimal sampleLines (by decide) (by decide) fun pid => ?_
  by_cases first : pid = 10
  · subst first
    decide
  · by_cases second : pid = 20
    · subst second
      decide
    · have absent : pid ∉ (totalDemand (validLines sampleLines)).keys := by
        intro mem
        obtain ⟨l, memL, rfl⟩ := mem_keys_totalDemand.mp mem
        have listed : validLines sampleLines = [⟨1, 10, 5⟩, ⟨2, 10, 3⟩, ⟨3, 20, 4⟩] := by decide
        rw [listed] at memL
        simp only [List.mem_cons, List.not_mem_nil, or_false] at memL
        rcases memL with rfl | rfl | rfl
        · exact first rfl
        · exact first rfl
        · exact second rfl
      rw [requestedOf_eq_zero absent]
      exact stockIn_nonneg (getAvail_nonneg sampleAvailability) _ pid

end DealFlow
