import DealFlow.Fulfillment.AggregateDemand

/-!
# Forcing the exhaustive strategy

A planner that is forced to search exhaustively does not look for one covering warehouse first, and
its search starts with pairs.  Where one warehouse covers the demand, the search finds a pair all
the same, and the plan is the unforced one only if the allocation then leaves one of the two out:
the first of the pair covers the demand, or it has nothing of it.

`forcedExhaustive_agrees_iff` says for which warehouses and stocks that is so.
-/

namespace DealFlow

open Lib

section Cover

variable (lines : List StockableLine) (availability : AvailabilityTable)

/-- The warehouses hold the demand together. -/
def CoverTogether (ws : List WarehouseInfo) : Prop :=
  ∀ pid, requestedOf (validLines lines) pid ≤ stockIn (getAvail availability) ws pid

/-- The warehouse holds nothing that is demanded. -/
def HoldsNothing (w : WarehouseInfo) : Prop :=
  ∀ pid, 0 < requestedOf (validLines lines) pid → getAvail availability w.warehouseId pid = 0

variable {lines availability}

theorem canCover_iff_together {ws : List WarehouseInfo} :
    canCover (getAvail availability) (totalDemand (validLines lines)) ws = true ↔
      CoverTogether lines availability ws := by
  rw [canCover_iff]
  constructor
  · intro covers pid
    by_cases demanded : pid ∈ (totalDemand (validLines lines)).keys
    · have bound := covers pid demanded
      rwa [demandOf_totalDemand] at bound
    · rw [requestedOf_eq_zero demanded]
      exact stockIn_nonneg (getAvail_nonneg availability) ws pid
  · intro together pid _
    rw [demandOf_totalDemand]
    exact together pid

theorem mem_fullCoverage_iff_together {ws : List WarehouseInfo} {w : WarehouseInfo} :
    w ∈ fullCoverageCandidates (getAvail availability) (totalDemand (validLines lines)) ws ↔
      w ∈ ws ∧ CoverTogether lines availability [w] := by
  rw [mem_fullCoverageCandidates, ← canCover_iff_together, canCover_iff]
  simp

theorem CoverTogether.perm {vs ws : List WarehouseInfo} (perm : vs.Perm ws)
    (together : CoverTogether lines availability vs) : CoverTogether lines availability ws := by
  intro pid
  rw [← stockIn_perm _ perm]
  exact together pid

/-- A warehouse that covers the demand covers it with any other. -/
theorem CoverTogether.append {vs : List WarehouseInfo}
    (together : CoverTogether lines availability vs) (ws : List WarehouseInfo) :
    CoverTogether lines availability (vs ++ ws) := by
  intro pid
  have more := stockIn_nonneg (getAvail_nonneg availability) ws pid
  have enough := together pid
  rw [stockIn_append]
  omega

/-- Next to a warehouse without anything demanded the other one covers the demand. -/
theorem HoldsNothing.covers {u v : WarehouseInfo} (nothing : HoldsNothing lines availability u)
    (together : CoverTogether lines availability [u, v]) :
    CoverTogether lines availability [v] := by
  intro pid
  have enough := together pid
  have stock := stockIn_nonneg (getAvail_nonneg availability) [v] pid
  rw [stockIn_cons] at enough
  rcases lt_or_ge 0 (requestedOf (validLines lines) pid) with demanded | none
  · rw [nothing pid demanded, zero_add] at enough
    exact enough
  · exact none.trans stock

theorem exists_requested (demand : validLines lines ≠ []) :
    ∃ pid, 0 < requestedOf (validLines lines) pid := by
  obtain ⟨l, mem⟩ := List.exists_mem_of_ne_nil _ demand
  have least := requestedQty_le_requestedOf (validLines_nonneg lines) mem
  exact ⟨l.productId, (mem_validLines.mp mem).2.trans_le least⟩

theorem HoldsNothing.not_covers {u : WarehouseInfo} (nothing : HoldsNothing lines availability u)
    (demand : validLines lines ≠ []) : ¬ CoverTogether lines availability [u] := by
  obtain ⟨pid, demanded⟩ := exists_requested demand
  intro covers
  have enough := covers pid
  rw [stockIn_cons, stockIn_nil, nothing pid demanded] at enough
  omega

end Cover

/-! ## Plans from one or two warehouses -/

section Small

variable {lines : List StockableLine} {warehouses : List WarehouseInfo}
  {availability : AvailabilityTable} {forceStrategy : Option String}
  {plan : FulfillmentCalculationResult} {u v c : WarehouseInfo}

/-- A plan from covering warehouses has no backorders. -/
theorem PlannedAllocation.backorders_eq_nil
    (p : PlannedAllocation lines warehouses availability forceStrategy plan)
    (together : CoverTogether lines availability
      (chosenWarehouses lines warehouses availability forceStrategy)) : plan.backorders = [] := by
  obtain ⟨left, served⟩ := p.served
  by_contra some
  obtain ⟨b, mem⟩ := List.exists_mem_of_ne_nil _ some
  obtain ⟨pos, -⟩ := served.backorderNamed b mem
  have short : backorderOf plan.backorders b.productId = _ := served.backordered b.productId
  rw [unmet_eq (stockRow_nonneg (getAvail_nonneg availability) _ _)
    (requestedOf_nonneg (validLines_nonneg lines) _)] at short
  have enough := together b.productId
  unfold stockIn at enough
  have least : b.backorderQty ≤ backorderOf plan.backorders b.productId := by
    refine List.single_le_sum (fun x memX => ?_) _ (List.mem_map.mpr ⟨b, ?_, rfl⟩)
    · obtain ⟨d, memD, rfl⟩ := List.mem_map.mp memX
      exact (served.backorderNamed d (List.mem_filter.mp memD).1).1.le
    · exact List.mem_filter.mpr ⟨mem, by simp⟩
  omega

/-- What each warehouse gives is what the demand takes of their stocks in turn. -/
theorem PlannedAllocation.allocatedFrom_pair
    (p : PlannedAllocation lines warehouses availability forceStrategy plan)
    (chosen : chosenWarehouses lines warehouses availability forceStrategy = [u, v]) (pid : ℤ) :
    allocatedFrom plan.allocations u.warehouseId pid =
        min (getAvail availability u.warehouseId pid) (requestedOf (validLines lines) pid) ∧
      allocatedFrom plan.allocations v.warehouseId pid =
        min (getAvail availability v.warehouseId pid) (requestedOf (validLines lines) pid -
          min (getAvail availability u.warehouseId pid) (requestedOf (validLines lines) pid)) := by
  obtain ⟨left, served⟩ := p.served
  rw [chosen] at served
  have takenU : allocatedFrom plan.allocations u.warehouseId pid = _ := served.taken _ pid
  have takenV : allocatedFrom plan.allocations v.warehouseId pid = _ := served.taken _ pid
  have drained : stockRow left [u, v] pid = _ := served.drained pid
  simp only [stockRow, List.map_cons, List.map_nil, drain_cons, drain_nil, List.cons.injEq,
    and_true] at drained
  dsimp only at takenU takenV
  omega

theorem PlannedAllocation.used_subset
    (p : PlannedAllocation lines warehouses availability forceStrategy plan) {wid : ℤ}
    (used : wid ∈ warehousesUsed plan.allocations) :
    ∃ w ∈ chosenWarehouses lines warehouses availability forceStrategy, w.warehouseId = wid := by
  unfold warehousesUsed at used
  rw [List.mem_toFinset, List.mem_filterMap] at used
  obtain ⟨a, mem, named⟩ := used
  obtain ⟨w, memW, named'⟩ := p.named a mem
  exact ⟨w, memW, Option.some.inj (named'.symm.trans named)⟩

theorem PlannedAllocation.mem_used_iff
    (p : PlannedAllocation lines warehouses availability forceStrategy plan) {wid : ℤ} :
    wid ∈ warehousesUsed plan.allocations ↔ ∃ pid, 0 < allocatedFrom plan.allocations wid pid :=
  mem_warehousesUsed_iff fun a mem => (p.fromActive a mem).1

/-- The first of two warehouses is used when it has something that is demanded, and the second when
the first does not cover the demand. -/
theorem PlannedAllocation.used_pair
    (p : PlannedAllocation lines warehouses availability forceStrategy plan)
    (chosen : chosenWarehouses lines warehouses availability forceStrategy = [u, v])
    (together : CoverTogether lines availability [u, v]) :
    (u.warehouseId ∈ warehousesUsed plan.allocations ↔ ¬ HoldsNothing lines availability u) ∧
      (v.warehouseId ∈ warehousesUsed plan.allocations ↔
        ¬ CoverTogether lines availability [u]) := by
  rw [p.mem_used_iff, p.mem_used_iff]
  unfold HoldsNothing CoverTogether
  push Not
  constructor
  · refine exists_congr fun pid => ?_
    have stock := getAvail_nonneg availability u.warehouseId pid
    rw [(p.allocatedFrom_pair chosen pid).1]
    omega
  · refine exists_congr fun pid => ?_
    have stock := getAvail_nonneg availability v.warehouseId pid
    have enough := together pid
    rw [(p.allocatedFrom_pair chosen pid).2]
    simp only [stockIn_cons, stockIn_nil] at enough ⊢
    omega

/-- A plan that uses one warehouse only. -/
theorem PlannedAllocation.used_one
    (distinct : (warehouses.map (·.warehouseId)).Nodup)
    (p : PlannedAllocation lines warehouses availability forceStrategy plan)
    (mem : c ∈ chosenWarehouses lines warehouses availability forceStrategy)
    (used : ∀ w ∈ chosenWarehouses lines warehouses availability forceStrategy,
      w.warehouseId ∈ warehousesUsed plan.allocations ↔ w.warehouseId = c.warehouseId) :
    plan.estimatedShipments = 1 ∧ plan.estimatedShippingCost = c.shippingCostWeight := by
  have one : warehousesUsed plan.allocations = {c.warehouseId} := by
    ext wid
    rw [Finset.mem_singleton]
    constructor
    · intro memUsed
      obtain ⟨w, memW, rfl⟩ := p.used_subset memUsed
      exact (used w memW).mp memUsed
    · rintro rfl
      exact (used c mem).mpr rfl
  rw [p.shipments, p.cost, one]
  exact ⟨Finset.card_singleton _, by
    rw [Finset.sum_singleton, weightOf_eq (chosenWarehouses_ids_nodup _ _ _ distinct) mem]⟩

/-- A plan from one warehouse that covers the demand. -/
theorem PlannedAllocation.single
    (distinct : (warehouses.map (·.warehouseId)).Nodup)
    (p : PlannedAllocation lines warehouses availability forceStrategy plan)
    (chosen : chosenWarehouses lines warehouses availability forceStrategy = [c])
    (covers : CoverTogether lines availability [c]) (demand : validLines lines ≠ []) :
    plan.estimatedShipments = 1 ∧ plan.estimatedShippingCost = c.shippingCostWeight ∧
      plan.backorders = [] := by
  have used : c.warehouseId ∈ warehousesUsed plan.allocations := by
    obtain ⟨pid, demanded⟩ := exists_requested demand
    obtain ⟨left, served⟩ := p.served
    rw [chosen] at served
    have taken : allocatedFrom plan.allocations c.warehouseId pid = _ := served.taken _ pid
    have drained : stockRow left [c] pid = _ := served.drained pid
    have enough := covers pid
    simp only [stockRow, List.map_cons, List.map_nil, drain_cons, drain_nil, List.cons.injEq,
      and_true, stockIn_cons, stockIn_nil] at drained enough
    dsimp only at taken
    exact p.mem_used_iff.mpr ⟨pid, by omega⟩
  have mem : c ∈ chosenWarehouses lines warehouses availability forceStrategy := by
    rw [chosen]
    exact List.mem_singleton_self c
  obtain ⟨shipments, cost⟩ := p.used_one distinct mem fun w memW => by
    rw [chosen, List.mem_singleton] at memW
    rw [memW]
    exact iff_of_true used rfl
  exact ⟨shipments, cost, p.backorders_eq_nil (by rwa [chosen])⟩

/-- A plan from two warehouses that cover the demand together ships from one of them when the first
covers the demand or has nothing of it, and from both otherwise. -/
theorem PlannedAllocation.pair
    (distinct : (warehouses.map (·.warehouseId)).Nodup)
    (p : PlannedAllocation lines warehouses availability forceStrategy plan)
    (chosen : chosenWarehouses lines warehouses availability forceStrategy = [u, v])
    (together : CoverTogether lines availability [u, v]) (demand : validLines lines ≠ []) :
    (HoldsNothing lines availability u → plan.estimatedShipments = 1 ∧
        plan.estimatedShippingCost = v.shippingCostWeight) ∧
      (CoverTogether lines availability [u] → plan.estimatedShipments = 1 ∧
        plan.estimatedShippingCost = u.shippingCostWeight) ∧
      (¬ HoldsNothing lines availability u → ¬ CoverTogether lines availability [u] →
        plan.estimatedShipments = 2) := by
  obtain ⟨usedU, usedV⟩ := p.used_pair chosen together
  have ids := chosenWarehouses_ids_nodup lines availability forceStrategy distinct
  rw [chosen] at ids
  have differ : u.warehouseId ≠ v.warehouseId := by simpa using ids
  have memU : u ∈ chosenWarehouses lines warehouses availability forceStrategy := by simp [chosen]
  have memV : v ∈ chosenWarehouses lines warehouses availability forceStrategy := by simp [chosen]
  refine ⟨fun nothing => ?_, fun covers => ?_, fun something short => ?_⟩
  · refine p.used_one distinct memV fun w memW => ?_
    rw [chosen, List.mem_pair] at memW
    rcases memW with rfl | rfl
    · exact iff_of_false (fun used => usedU.mp used nothing) differ
    · exact iff_of_true (usedV.mpr (nothing.not_covers demand)) rfl
  · refine p.used_one distinct memU fun w memW => ?_
    rw [chosen, List.mem_pair] at memW
    rcases memW with rfl | rfl
    · exact iff_of_true (usedU.mpr fun nothing => nothing.not_covers demand covers) rfl
    · exact iff_of_false (fun used => usedV.mp used covers) differ.symm
  · have both : warehousesUsed plan.allocations = {u.warehouseId, v.warehouseId} := by
      ext wid
      rw [Finset.mem_insert, Finset.mem_singleton]
      constructor
      · intro used
        obtain ⟨w, memW, rfl⟩ := p.used_subset used
        rw [chosen, List.mem_pair] at memW
        rcases memW with rfl | rfl
        · exact .inl rfl
        · exact .inr rfl
      · rintro (rfl | rfl)
        · exact usedU.mpr something
        · exact usedV.mpr short
    rw [p.shipments, both]
    exact Finset.card_pair differ

end Small

/-! ## The pair that is found -/

section Pairs

/-- Later warehouses do not make a pair cheaper. -/
theorem subsetKey_pair_le {a b a' b' : WarehouseInfo} (first : warehouseKey a ≤ warehouseKey a')
    (second : warehouseKey b ≤ warehouseKey b') : subsetKey [a, b] ≤ subsetKey [a', b'] := by
  have flat : ∀ {v w : WarehouseInfo}, warehouseKey v ≤ warehouseKey w →
      v.shippingCostWeight < w.shippingCostWeight ∨
        v.shippingCostWeight = w.shippingCostWeight ∧ v.priority ≤ w.priority := by
    intro v w le
    rcases Prod.Lex.le_iff.mp le with weight | ⟨weight, rest⟩
    · exact .inl weight
    · exact .inr ⟨weight, Prod.Lex.monotone_fst _ _ rest⟩
  refine Prod.Lex.le_iff.mpr ?_
  simp only [subsetKey, List.map_cons, List.map_nil, List.sum_cons, List.sum_nil, add_zero,
    ofLex_toLex]
  rcases flat first with less | ⟨same, le⟩
  · rcases flat second with less' | ⟨same', -⟩
    · exact .inl (by linarith)
    · exact .inl (by linarith)
  · rcases flat second with less' | ⟨same', le'⟩
    · exact .inl (by linarith)
    · exact .inr ⟨by rw [same, same'], by omega⟩

theorem subsetKey_swap (u v : WarehouseInfo) : subsetKey [u, v] = subsetKey [v, u] := by
  simp only [subsetKey, List.map_cons, List.map_nil, List.sum_cons, List.sum_nil, add_zero]
  rw [add_comm u.shippingCostWeight, add_comm u.priority]

variable {stock : StockTable} {demand : AList fun _ : ℤ => ℤ} {ws : List WarehouseInfo}

/-- Where some pair covers the demand, the search returns a first cheapest one. -/
theorem exhaustiveChoice_pair (nodup : ws.Nodup)
    (some : ∃ t, t.Sublist ws ∧ t.length = 2 ∧ canCover stock demand t = true) :
    IsFirstLowest subsetKey (canCover stock demand) (combinations 2 ws)
      (exhaustiveChoice stock demand ws) := by
  obtain ⟨n, size⟩ : ∃ n, ws.length - 1 = n + 1 := by
    obtain ⟨t, sub, two, -⟩ := some
    have most := sub.length_le
    exact ⟨ws.length - 2, by omega⟩
  obtain ⟨s, found, first⟩ : ∃ s,
      searchBySize (canCover stock demand) subsetKey (2 :: List.range' 3 n) ws = Option.some s ∧
        IsFirstLowest subsetKey (canCover stock demand) (combinations 2 ws) s :=
    searchBySize_first nodup some
  unfold exhaustiveChoice
  rw [size, List.range'_succ, found]
  exact first

/-- The pair of the first warehouse and `c` comes before all pairs but those of the first and an
earlier one. -/
theorem pair_before {x c : WarehouseInfo} {l t : List WarehouseInfo}
    (sorted : l.Pairwise fun v w => warehouseKey v < warehouseKey w) (memC : c ∈ l)
    (memT : t ∈ combinations 2 (x :: l)) (ne : t ≠ [x, c])
    (late : ∀ b, t = [x, b] → warehouseKey c ≤ warehouseKey b) :
    [[x, c], t].Sublist (combinations 2 (x :: l)) := by
  rcases mem_combinations_two.mp memT with ⟨b, memB, rfl⟩ | rest
  · have differ : c ≠ b := fun same => ne (by rw [same])
    refine pair_combinations_two ?_
    rcases pair_or_swap memB memC differ with inOrder | swapped
    · exact inOrder
    · have earlier := (List.pairwise_cons.mp (sorted.sublist swapped)).1 c (by simp)
      exact absurd (late b rfl) (not_le.mpr earlier)
  · have one : [c] ∈ combinations 1 l := by
      rw [combinations_one]
      exact List.mem_map_of_mem memC
    exact pair_combinations_head one rest

/-- The search through one warehouse returns it. -/
theorem exhaustiveChoice_singleton (c : WarehouseInfo) :
    exhaustiveChoice stock demand [c] = [c] := by
  unfold exhaustiveChoice searchBySize
  rw [List.length_singleton, Nat.sub_self, List.range'_zero, List.findSome?_nil]
  dsimp only
  split
  · rfl
  · next kept =>
      rw [List.isEmpty_iff] at kept
      by_cases some : (demand.keys.any fun pid => 0 < stock c.warehouseId pid) = true
      · exact List.filter_cons_of_pos some
      · refine absurd ?_ kept
        exact List.filter_cons_of_neg some

end Pairs

/-! ## When forcing changes the label only -/

/-- The plans ship as often, at the same cost, and backorder the same. -/
structure SameButLabel (plan plan' : FulfillmentCalculationResult) : Prop where
  shipments : plan.estimatedShipments = plan'.estimatedShipments
  cost : plan.estimatedShippingCost = plan'.estimatedShippingCost
  backorders : plan.backorders = plan'.backorders

section Forced

variable (lines : List StockableLine) (warehouses : List WarehouseInfo)
  (availability : AvailabilityTable)

/-- The first active warehouse by weight, priority and id. -/
structure IsFirstWarehouse (x : WarehouseInfo) : Prop where
  mem : x ∈ activeWarehouses warehouses
  least : ∀ w ∈ activeWarehouses warehouses, warehouseKey x ≤ warehouseKey w

/-- The first active warehouse that covers the demand alone. -/
structure CheapestAlone (c : WarehouseInfo) : Prop where
  mem : c ∈ activeWarehouses warehouses
  covers : CoverTogether lines availability [c]
  least : ∀ w ∈ activeWarehouses warehouses, CoverTogether lines availability [w] →
    warehouseKey c ≤ warehouseKey w

/-- The first warehouse that covers the demand alone is the first of all; or the first of all has
nothing of the demand, and no pair that covers it is cheaper than these two. -/
def ForcingHarmless : Prop :=
  ∀ c, CheapestAlone lines warehouses availability c →
    IsFirstWarehouse warehouses c ∨
      ∃ x, IsFirstWarehouse warehouses x ∧ HoldsNothing lines availability x ∧
        ∀ u ∈ activeWarehouses warehouses, ∀ v ∈ activeWarehouses warehouses, u ≠ v →
          CoverTogether lines availability [u, v] → subsetKey [x, c] ≤ subsetKey [u, v]

variable {lines warehouses availability}

theorem eq_of_warehouseKey (distinct : (warehouses.map (·.warehouseId)).Nodup)
    {v w : WarehouseInfo} (memV : v ∈ activeWarehouses warehouses)
    (memW : w ∈ activeWarehouses warehouses) (same : warehouseKey v = warehouseKey w) : v = w :=
  eq_of_warehouseId (activeWarehouses_ids_nodup distinct) memV memW (warehouseId_eq_of_key same)

theorem CheapestAlone.unique (distinct : (warehouses.map (·.warehouseId)).Nodup)
    {c d : WarehouseInfo} (aloneC : CheapestAlone lines warehouses availability c)
    (aloneD : CheapestAlone lines warehouses availability d) : d = c :=
  eq_of_warehouseKey distinct aloneD.mem aloneC.mem (le_antisymm
    (aloneD.least c aloneC.mem aloneC.covers) (aloneC.least d aloneD.mem aloneD.covers))

theorem chooseWarehouses_forced (few : (activeWarehouses warehouses).length ≤ 6)
    (stock : StockTable) (demand : AList fun _ : ℤ => ℤ) :
    chooseWarehouses stock demand (sortWarehouses (activeWarehouses warehouses))
        (some "EXHAUSTIVE") =
      ("EXHAUSTIVE",
        exhaustiveChoice stock demand (sortWarehouses (activeWarehouses warehouses))) := by
  have size := (sortWarehouses_perm (activeWarehouses warehouses)).length_eq.trans_le few
  simp [chooseWarehouses, size]

theorem cheapestAlone_of_argmin {c : WarehouseInfo}
    (single : (fullCoverageCandidates (getAvail availability) (totalDemand (validLines lines))
      (sortWarehouses (activeWarehouses warehouses))).argmin warehouseKey = some c) :
    CheapestAlone lines warehouses availability c := by
  obtain ⟨mem, covers⟩ := mem_fullCoverage_iff_together.mp (List.argmin_mem single)
  refine ⟨mem_sortWarehouses.mp mem, covers, fun w memW alone => ?_⟩
  exact List.le_of_mem_argmin (mem_fullCoverage_iff_together.mpr
    ⟨mem_sortWarehouses.mpr memW, alone⟩) single

/-- The unforced planner takes the first warehouse that covers the demand alone. -/
theorem chooseWarehouses_alone (distinct : (warehouses.map (·.warehouseId)).Nodup)
    {c : WarehouseInfo} (alone : CheapestAlone lines warehouses availability c) :
    chooseWarehouses (getAvail availability) (totalDemand (validLines lines))
        (sortWarehouses (activeWarehouses warehouses)) none = ("FULL_COVERAGE", [c]) := by
  have candidate : c ∈ fullCoverageCandidates (getAvail availability)
      (totalDemand (validLines lines)) (sortWarehouses (activeWarehouses warehouses)) :=
    mem_fullCoverage_iff_together.mpr ⟨mem_sortWarehouses.mpr alone.mem, alone.covers⟩
  cases single : (fullCoverageCandidates (getAvail availability) (totalDemand (validLines lines))
      (sortWarehouses (activeWarehouses warehouses))).argmin warehouseKey with
  | none =>
      rw [List.argmin_eq_none.mp single] at candidate
      cases candidate
  | some d =>
      have same : d = c := alone.unique distinct (cheapestAlone_of_argmin single)
      simp [chooseWarehouses, single, same]

/-- Without a warehouse that covers the demand alone the planner searches exhaustively unforced. -/
theorem chooseWarehouses_unforced (few : (activeWarehouses warehouses).length ≤ 6)
    (nobody : ∀ c, ¬ CheapestAlone lines warehouses availability c) :
    chooseWarehouses (getAvail availability) (totalDemand (validLines lines))
        (sortWarehouses (activeWarehouses warehouses)) none =
      chooseWarehouses (getAvail availability) (totalDemand (validLines lines))
        (sortWarehouses (activeWarehouses warehouses)) (some "EXHAUSTIVE") := by
  have size := (sortWarehouses_perm (activeWarehouses warehouses)).length_eq.trans_le few
  cases single : (fullCoverageCandidates (getAvail availability) (totalDemand (validLines lines))
      (sortWarehouses (activeWarehouses warehouses))).argmin warehouseKey with
  | none =>
      rw [chooseWarehouses_forced few]
      simp [chooseWarehouses, single, size]
  | some c => exact absurd (cheapestAlone_of_argmin single) (nobody c)

theorem sortWarehouses_strict (distinct : (warehouses.map (·.warehouseId)).Nodup) :
    (sortWarehouses (activeWarehouses warehouses)).Pairwise
      fun v w => warehouseKey v < warehouseKey w := by
  have ids := activeWarehouses_ids_nodup distinct
  have nodup : (sortWarehouses (activeWarehouses warehouses)).Nodup :=
    (sortWarehouses_perm _).nodup_iff.mpr ids.of_map
  refine ((sortWarehouses_sorted _).and nodup).imp_of_mem fun memV memW both => ?_
  refine lt_of_le_of_ne both.1 fun same => both.2 ?_
  exact eq_of_warehouseKey distinct (mem_sortWarehouses.mp memV) (mem_sortWarehouses.mp memW) same

end Forced

/-! ## Which pair is found next to a covering warehouse -/

section Found

variable {lines : List StockableLine} {availability : AvailabilityTable} {x c u v : WarehouseInfo}
  {l s : List WarehouseInfo}

/-- The first of the cheapest pairs that cover the demand. -/
abbrev FirstPair (lines : List StockableLine) (availability : AvailabilityTable)
    (ws s : List WarehouseInfo) : Prop :=
  IsFirstLowest subsetKey (canCover (getAvail availability) (totalDemand (validLines lines)))
    (combinations 2 ws) s

theorem nodup_of_strict {ws : List WarehouseInfo}
    (sorted : ws.Pairwise fun v w => warehouseKey v < warehouseKey w) : ws.Nodup :=
  sorted.imp fun less same => less.ne (congrArg warehouseKey same)

theorem mem_combinations_pair (memC : c ∈ l) : [x, c] ∈ combinations 2 (x :: l) :=
  mem_combinations_two.mpr (.inl ⟨c, memC, rfl⟩)

/-- A pair that is found is one of two warehouses in order. -/
theorem FirstPair.exists_eq {ws : List WarehouseInfo} (found : FirstPair lines availability ws s) :
    ∃ u v, s = [u, v] ∧ [u, v].Sublist ws := by
  obtain ⟨sub, two⟩ := mem_combinations.mp found.mem
  obtain ⟨u, v, rfl⟩ := List.length_eq_two.mp two
  exact ⟨u, v, rfl, sub⟩

/-- When the first warehouse covers the demand alone, the pair found has it. -/
theorem FirstPair.head_of_covers
    (sorted : (x :: l).Pairwise fun v w => warehouseKey v < warehouseKey w)
    (found : FirstPair lines availability (x :: l) s)
    (covers : CoverTogether lines availability [x]) : ∃ v ∈ l, s = [x, v] := by
  rcases mem_combinations_two.mp found.mem with here | rest
  · exact here
  obtain ⟨sub, two⟩ := mem_combinations.mp rest
  obtain ⟨u, v, rfl⟩ := List.length_eq_two.mp two
  obtain ⟨head, tail⟩ := List.pairwise_cons.mp sorted
  have memU : u ∈ l := sub.subset (by simp)
  have memV : v ∈ l := sub.subset (by simp)
  have cheaper : subsetKey [x, v] ≤ subsetKey [u, v] := subsetKey_pair_le (head u memU).le le_rfl
  have accepted : canCover (getAvail availability) (totalDemand (validLines lines)) [x, v] = true :=
    canCover_iff_together.mpr (covers.append [v])
  have mem : [x, v] ∈ combinations 2 (x :: l) := mem_combinations_pair memV
  have ne : [x, v] ≠ [u, v] := by
    intro same
    exact (head u memU).ne (congrArg warehouseKey (List.cons.inj same).1)
  have same := le_antisymm cheaper (found.lowest _ mem accepted)
  have one : [v] ∈ combinations 1 l := by
    rw [combinations_one]
    exact List.mem_map_of_mem memV
  exact absurd (found.first _ mem accepted ne same) (not_pair_sublist_swap
    (combinations_nodup (nodup_of_strict sorted) 2) (pair_combinations_head one rest))

/-- A pair whose second warehouse is no earlier than the covering `c` is the pair of the first
warehouse and `c`. -/
theorem FirstPair.eq_of_le (sorted : (x :: l).Pairwise fun v w => warehouseKey v < warehouseKey w)
    (found : FirstPair lines availability (x :: l) [u, v])
    (covers : CoverTogether lines availability [c]) (memC : c ∈ l)
    (late : warehouseKey c ≤ warehouseKey v) : [u, v] = [x, c] := by
  by_contra ne
  obtain ⟨head, tail⟩ := List.pairwise_cons.mp sorted
  have memU : u ∈ x :: l := (mem_combinations.mp found.mem).1.subset (by simp)
  have earlier : warehouseKey x ≤ warehouseKey u := by
    rcases List.mem_cons.mp memU with rfl | memU
    · exact le_rfl
    · exact (head u memU).le
  have accepted : canCover (getAvail availability) (totalDemand (validLines lines)) [x, c] = true :=
    canCover_iff_together.mpr ((covers.append [x]).perm (List.Perm.swap x c []))
  have mem : [x, c] ∈ combinations 2 (x :: l) := mem_combinations_pair memC
  have same := le_antisymm (subsetKey_pair_le earlier late) (found.lowest _ mem accepted)
  refine not_pair_sublist_swap (combinations_nodup (nodup_of_strict sorted) 2)
    (found.first _ mem accepted (Ne.symm ne) same) (pair_before tail memC found.mem ne ?_)
  intro b here
  obtain ⟨-, rest⟩ := List.cons.inj here
  rw [← (List.cons.inj rest).1]
  exact late

/-- Where no covering pair is cheaper, the first warehouse has nothing and `c` is the first that
covers the demand, their pair is found. -/
theorem FirstPair.eq_of_nothing
    (sorted : (x :: l).Pairwise fun v w => warehouseKey v < warehouseKey w)
    (found : FirstPair lines availability (x :: l) s)
    (nothing : HoldsNothing lines availability x)
    (covers : CoverTogether lines availability [c]) (memC : c ∈ l)
    (least : ∀ w ∈ l, CoverTogether lines availability [w] → warehouseKey c ≤ warehouseKey w)
    (cheapest : ∀ u v, [u, v].Sublist (x :: l) → CoverTogether lines availability [u, v] →
      subsetKey [x, c] ≤ subsetKey [u, v]) : s = [x, c] := by
  have nodup := combinations_nodup (nodup_of_strict sorted) 2
  refine found.unique nodup ⟨mem_combinations_pair memC, ?_, ?_, ?_⟩
  · exact canCover_iff_together.mpr ((covers.append [x]).perm (List.Perm.swap x c []))
  · intro t mem accepted
    obtain ⟨sub, two⟩ := mem_combinations.mp mem
    obtain ⟨u, v, rfl⟩ := List.length_eq_two.mp two
    exact cheapest u v sub (canCover_iff_together.mp accepted)
  · intro t mem accepted ne _
    refine pair_before (List.pairwise_cons.mp sorted).2 memC mem ne ?_
    rintro b rfl
    have memB : b ∈ l := by
      have sub := (mem_combinations.mp mem).1
      exact (List.singleton_sublist.mp (List.cons_sublist_cons.mp sub))
    exact least b memB (nothing.covers (canCover_iff_together.mp accepted))

/-- Of the warehouses in order, `c` is the first, or the first has nothing of the demand and no
pair that covers it is cheaper than these two. -/
def FirstHarmless (lines : List StockableLine) (availability : AvailabilityTable)
    (x : WarehouseInfo) (l : List WarehouseInfo) (c : WarehouseInfo) : Prop :=
  c = x ∨ HoldsNothing lines availability x ∧
    ∀ u v, [u, v].Sublist (x :: l) → CoverTogether lines availability [u, v] →
      subsetKey [x, c] ≤ subsetKey [u, v]

/-- If the first of the pair found has nothing or covers the demand, no pair beats the first
warehouse with `c`. -/
theorem FirstPair.harmless_of_leftOut
    (sorted : (x :: l).Pairwise fun v w => warehouseKey v < warehouseKey w)
    (found : FirstPair lines availability (x :: l) [u, v])
    (covers : CoverTogether lines availability [c]) (memC : c ∈ x :: l)
    (least : ∀ w ∈ x :: l, CoverTogether lines availability [w] →
      warehouseKey c ≤ warehouseKey w)
    (leftOut : HoldsNothing lines availability u ∨ CoverTogether lines availability [u]) :
    FirstHarmless lines availability x l c := by
  by_cases first : c = x
  · exact .inl first
  have memTail : c ∈ l := (List.mem_cons.mp memC).resolve_left first
  have sub := (mem_combinations.mp found.mem).1
  have before : warehouseKey u < warehouseKey v :=
    (List.pairwise_cons.mp (sorted.sublist sub)).1 v (by simp)
  have memU : u ∈ x :: l := sub.subset (by simp)
  have memV : v ∈ x :: l := sub.subset (by simp)
  -- one of the two is left out, so the second is no earlier than `c`
  have late : warehouseKey c ≤ warehouseKey v := by
    rcases leftOut with nothing | alone
    · exact least v memV (nothing.covers (canCover_iff_together.mp found.accepted))
    · exact (least u memU alone).trans before.le
  have here := FirstPair.eq_of_le sorted found covers memTail late
  obtain ⟨rfl, rest⟩ := List.cons.inj here
  obtain ⟨rfl, -⟩ := List.cons.inj rest
  have uncovered : ¬ CoverTogether lines availability [u] := fun alone =>
    absurd before (not_lt.mpr (least u memU alone))
  refine .inr ⟨leftOut.resolve_right uncovered, fun a b subPair both => ?_⟩
  exact found.lowest [a, b] (mem_combinations.mpr ⟨subPair, rfl⟩)
    (canCover_iff_together.mpr both)

/-- If no pair beats the first warehouse with `c`, the pair found has `c`, and its other warehouse
is left out. -/
theorem FirstPair.leftOut_of_harmless
    (sorted : (x :: l).Pairwise fun v w => warehouseKey v < warehouseKey w)
    (found : FirstPair lines availability (x :: l) [u, v])
    (demand : validLines lines ≠ []) (covers : CoverTogether lines availability [c])
    (memC : c ∈ x :: l)
    (least : ∀ w ∈ x :: l, CoverTogether lines availability [w] →
      warehouseKey c ≤ warehouseKey w)
    (harmless : FirstHarmless lines availability x l c) :
    u = c ∨ v = c ∧ HoldsNothing lines availability u := by
  rcases harmless with rfl | ⟨nothing, cheapest⟩
  · obtain ⟨w, -, here⟩ := FirstPair.head_of_covers sorted found covers
    exact .inl (List.cons.inj here).1
  · have ne : c ≠ x := by
      rintro rfl
      exact nothing.not_covers demand covers
    have memTail : c ∈ l := (List.mem_cons.mp memC).resolve_left ne
    have here := FirstPair.eq_of_nothing sorted found nothing covers memTail
      (fun w mem => least w (List.mem_cons_of_mem _ mem)) cheapest
    obtain ⟨rfl, rest⟩ := List.cons.inj here
    exact .inr ⟨(List.cons.inj rest).1, nothing⟩

end Found

section Agreement

variable {lines : List StockableLine} {warehouses : List WarehouseInfo}
  {availability : AvailabilityTable} {plan plan' : FulfillmentCalculationResult}
  {x c : WarehouseInfo} {l : List WarehouseInfo}

theorem chosenWarehouses_alone (distinct : (warehouses.map (·.warehouseId)).Nodup)
    (alone : CheapestAlone lines warehouses availability c) :
    chosenWarehouses lines warehouses availability none = [c] := by
  unfold chosenWarehouses
  rw [chooseWarehouses_alone distinct alone]
  rfl

theorem chosenWarehouses_forced (few : (activeWarehouses warehouses).length ≤ 6) :
    chosenWarehouses lines warehouses availability (some "EXHAUSTIVE") =
      sortWarehouses (exhaustiveChoice (getAvail availability) (totalDemand (validLines lines))
        (sortWarehouses (activeWarehouses warehouses))) := by
  unfold chosenWarehouses
  rw [chooseWarehouses_forced few]

/-- The pair of the first warehouse and one that covers the demand, or its next one. -/
theorem exists_covering_pair (covers : CoverTogether lines availability [c]) (mem : c ∈ x :: l)
    (more : l ≠ []) : ∃ t, t.Sublist (x :: l) ∧ t.length = 2 ∧
      canCover (getAvail availability) (totalDemand (validLines lines)) t = true := by
  rcases List.mem_cons.mp mem with rfl | memC
  · obtain ⟨y, memY⟩ := List.exists_mem_of_ne_nil l more
    exact ⟨[c, y], (List.singleton_sublist.mpr memY).cons_cons c, rfl,
      canCover_iff_together.mpr (covers.append [y])⟩
  · exact ⟨[x, c], (List.singleton_sublist.mpr memC).cons_cons x, rfl,
      canCover_iff_together.mpr ((covers.append [x]).perm (List.Perm.swap x c []))⟩

/-- With several warehouses the forced plan is the unforced one when it leaves out the first or the
second of the pair it finds. -/
theorem sameButLabel_iff_of_several (distinct : (warehouses.map (·.warehouseId)).Nodup)
    (few : (activeWarehouses warehouses).length ≤ 6)
    (p : PlannedAllocation lines warehouses availability none plan)
    (p' : PlannedAllocation lines warehouses availability (some "EXHAUSTIVE") plan')
    (demand : validLines lines ≠ []) (alone : CheapestAlone lines warehouses availability c)
    (order : sortWarehouses (activeWarehouses warehouses) = x :: l) (more : l ≠ []) :
    SameButLabel plan plan' ↔ FirstHarmless lines availability x l c := by
  have sorted := sortWarehouses_strict distinct
  rw [order] at sorted
  have memC : c ∈ x :: l := order ▸ mem_sortWarehouses.mpr alone.mem
  have active : ∀ w ∈ x :: l, w ∈ activeWarehouses warehouses := fun w mem =>
    mem_sortWarehouses.mp (order.symm ▸ mem)
  have least : ∀ w ∈ x :: l, CoverTogether lines availability [w] →
      warehouseKey c ≤ warehouseKey w := fun w mem => alone.least w (active w mem)
  have found := exhaustiveChoice_pair (nodup_of_strict sorted)
    (exists_covering_pair alone.covers memC more)
  have chosen : chosenWarehouses lines warehouses availability (some "EXHAUSTIVE") = _ :=
    chosenWarehouses_forced few
  rw [order] at chosen
  obtain ⟨u, v, pair, sub⟩ := FirstPair.exists_eq found
  rw [pair] at chosen found
  have chosenPair : chosenWarehouses lines warehouses availability (some "EXHAUSTIVE") = [u, v] :=
    chosen.trans (((sorted.sublist sub).imp fun less => less.le).insertionSort_eq)
  have together : CoverTogether lines availability [u, v] := canCover_iff_together.mp found.accepted
  obtain ⟨shipments, cost, backorders⟩ :=
    p.single distinct (chosenWarehouses_alone distinct alone) alone.covers demand
  obtain ⟨fromSecond, fromFirst, fromBoth⟩ := p'.pair distinct chosenPair together demand
  have backorders' : plan'.backorders = [] := p'.backorders_eq_nil (chosenPair ▸ together)
  constructor
  · intro same
    have one : plan'.estimatedShipments = 1 := same.shipments.symm.trans shipments
    refine FirstPair.harmless_of_leftOut sorted found alone.covers memC least ?_
    by_contra neither
    obtain ⟨something, uncovered⟩ := not_or.mp neither
    have two := fromBoth something uncovered
    omega
  · intro harmless
    rcases FirstPair.leftOut_of_harmless sorted found demand alone.covers memC least harmless with
      rfl | ⟨rfl, nothing⟩
    · obtain ⟨shipments', cost'⟩ := fromFirst alone.covers
      exact ⟨shipments.trans shipments'.symm, cost.trans cost'.symm,
        backorders.trans backorders'.symm⟩
    · obtain ⟨shipments', cost'⟩ := fromSecond nothing
      exact ⟨shipments.trans shipments'.symm, cost.trans cost'.symm,
        backorders.trans backorders'.symm⟩

/-- The condition read off the warehouses in order. -/
theorem forcingHarmless_iff (distinct : (warehouses.map (·.warehouseId)).Nodup)
    (alone : CheapestAlone lines warehouses availability c)
    (order : sortWarehouses (activeWarehouses warehouses) = x :: l) :
    ForcingHarmless lines warehouses availability ↔ FirstHarmless lines availability x l c := by
  have sorted := sortWarehouses_strict distinct
  rw [order] at sorted
  have mem : ∀ w, w ∈ activeWarehouses warehouses ↔ w ∈ x :: l := by
    intro w
    rw [← order, mem_sortWarehouses]
  have firstX : IsFirstWarehouse warehouses x := by
    refine ⟨(mem x).mpr List.mem_cons_self, fun w memW => ?_⟩
    rcases List.mem_cons.mp ((mem w).mp memW) with rfl | later
    · exact le_rfl
    · exact ((List.pairwise_cons.mp sorted).1 w later).le
  have first_eq : ∀ w, IsFirstWarehouse warehouses w → w = x := fun w firstW =>
    eq_of_warehouseKey distinct firstW.mem firstX.mem
      (le_antisymm (firstW.least x firstX.mem) (firstX.least w firstW.mem))
  constructor
  · intro harmless
    rcases harmless c alone with first | ⟨w, first, nothing, cheapest⟩
    · exact .inl (first_eq c first)
    · obtain rfl := first_eq w first
      refine .inr ⟨nothing, fun u v sub covers => ?_⟩
      have differ : u ≠ v := by
        rintro rfl
        exact absurd ((List.pairwise_cons.mp (sorted.sublist sub)).1 u (by simp)) (lt_irrefl _)
      exact cheapest u ((mem u).mpr (sub.subset (by simp))) v ((mem v).mpr (sub.subset (by simp)))
        differ covers
  · intro either d aloneD
    obtain rfl : d = c := alone.unique distinct aloneD
    rcases either with rfl | ⟨nothing, cheapest⟩
    · exact .inl firstX
    · refine .inr ⟨x, firstX, nothing, fun u memU v memV differ covers => ?_⟩
      rcases pair_or_swap ((mem v).mp memV) ((mem u).mp memU) differ with inOrder | swapped
      · exact cheapest u v inOrder covers
      · rw [subsetKey_swap u v]
        exact cheapest v u swapped (covers.perm (List.Perm.swap v u []))

/-- The plan depends on the strategy through the choice only. -/
theorem plan_congr {force force' : Option String}
    (same : chooseWarehouses (getAvail availability) (totalDemand (validLines lines))
        (sortWarehouses (activeWarehouses warehouses)) force =
      chooseWarehouses (getAvail availability) (totalDemand (validLines lines))
        (sortWarehouses (activeWarehouses warehouses)) force') :
    calculateFulfillmentPlan lines warehouses availability force =
      calculateFulfillmentPlan lines warehouses availability force' := by
  unfold activeWarehouses at same
  unfold calculateFulfillmentPlan
  dsimp only
  rw [same]

/-- Without demand nothing is planned, whatever the strategy. -/
theorem plan_of_noDemand (noDemand : validLines lines = []) (force force' : Option String) :
    calculateFulfillmentPlan lines warehouses availability force =
      calculateFulfillmentPlan lines warehouses availability force' := by
  unfold calculateFulfillmentPlan
  rw [noDemand]
  rfl

theorem SameButLabel.of_eq (same : plan = plan') : SameButLabel plan plan' := by
  rw [same]
  exact ⟨rfl, rfl, rfl⟩

/-- Both plans ship from the one warehouse there is. -/
theorem sameButLabel_of_one (distinct : (warehouses.map (·.warehouseId)).Nodup)
    (few : (activeWarehouses warehouses).length ≤ 6)
    (p : PlannedAllocation lines warehouses availability none plan)
    (p' : PlannedAllocation lines warehouses availability (some "EXHAUSTIVE") plan')
    (demand : validLines lines ≠ []) (alone : CheapestAlone lines warehouses availability c)
    (order : sortWarehouses (activeWarehouses warehouses) = [c]) : SameButLabel plan plan' := by
  have chosen : chosenWarehouses lines warehouses availability (some "EXHAUSTIVE") = [c] := by
    rw [chosenWarehouses_forced few, order, exhaustiveChoice_singleton]
    rfl
  obtain ⟨shipments, cost, backorders⟩ :=
    p.single distinct (chosenWarehouses_alone distinct alone) alone.covers demand
  obtain ⟨shipments', cost', backorders'⟩ := p'.single distinct chosen alone.covers demand
  exact ⟨shipments.trans shipments'.symm, cost.trans cost'.symm, backorders.trans backorders'.symm⟩

/-- Without demand the first warehouse covers it alone. -/
theorem CheapestAlone.eq_of_noDemand (distinct : (warehouses.map (·.warehouseId)).Nodup)
    (alone : CheapestAlone lines warehouses availability c) (noDemand : validLines lines = [])
    (order : sortWarehouses (activeWarehouses warehouses) = x :: l) : c = x := by
  have sorted := sortWarehouses_strict distinct
  have memC := mem_sortWarehouses.mpr alone.mem
  have memX : x ∈ activeWarehouses warehouses :=
    mem_sortWarehouses.mp (order ▸ List.mem_cons_self)
  rw [order] at sorted memC
  have covers : CoverTogether lines availability [x] := by
    intro pid
    rw [noDemand]
    exact stockIn_nonneg (getAvail_nonneg availability) [x] pid
  rcases List.mem_cons.mp memC with same | later
  · exact same
  · exact absurd ((List.pairwise_cons.mp sorted).1 c later) (not_lt.mpr (alone.least x memX covers))

/-- With a warehouse that covers the demand alone. -/
theorem forced_agrees_iff_of_alone (distinct : (warehouses.map (·.warehouseId)).Nodup)
    (few : (activeWarehouses warehouses).length ≤ 6)
    (alone : CheapestAlone lines warehouses availability c)
    (order : sortWarehouses (activeWarehouses warehouses) = x :: l) :
    SameButLabel (calculateFulfillmentPlan lines warehouses availability none)
        (calculateFulfillmentPlan lines warehouses availability (some "EXHAUSTIVE")) ↔
      FirstHarmless lines availability x l c := by
  have someActive : activeWarehouses warehouses ≠ [] := List.ne_nil_of_mem alone.mem
  rcases planned lines availability none distinct with
    ⟨noDemand, -⟩ | ⟨-, noActive, -⟩ | ⟨demand, -, p⟩
  · exact iff_of_true (.of_eq (plan_of_noDemand noDemand _ _))
      (.inl (alone.eq_of_noDemand distinct noDemand order))
  · exact absurd noActive someActive
  rcases planned lines availability (some "EXHAUSTIVE") distinct with
    ⟨noDemand, -⟩ | ⟨-, noActive, -⟩ | ⟨-, -, p'⟩
  · exact absurd noDemand demand
  · exact absurd noActive someActive
  by_cases more : l = []
  · subst more
    have memC := mem_sortWarehouses.mpr alone.mem
    rw [order, List.mem_singleton] at memC
    subst memC
    exact iff_of_true (sameButLabel_of_one distinct few p p' demand alone order) (.inl rfl)
  · exact sameButLabel_iff_of_several distinct few p p' demand alone order more

end Agreement

/-- Forcing the exhaustive strategy changes the label only, exactly when it is harmless. -/
theorem forcedExhaustive_agrees_iff (lines : List StockableLine) {warehouses : List WarehouseInfo}
    (distinct : (warehouses.map (·.warehouseId)).Nodup)
    (few : (activeWarehouses warehouses).length ≤ 6) (availability : AvailabilityTable) :
    SameButLabel (calculateFulfillmentPlan lines warehouses availability none)
        (calculateFulfillmentPlan lines warehouses availability (some "EXHAUSTIVE")) ↔
      ForcingHarmless lines warehouses availability := by
  by_cases nobody : ∀ c, ¬ CheapestAlone lines warehouses availability c
  · exact iff_of_true (.of_eq (plan_congr (chooseWarehouses_unforced few nobody)))
      fun c alone => absurd alone (nobody c)
  push Not at nobody
  obtain ⟨c, alone⟩ := nobody
  cases order : sortWarehouses (activeWarehouses warehouses) with
  | nil =>
      have memC := mem_sortWarehouses.mpr alone.mem
      rw [order] at memC
      cases memC
  | cons x l =>
      rw [forcingHarmless_iff distinct alone order]
      exact forced_agrees_iff_of_alone distinct few alone order

/-! ## A second warehouse that covers the demand -/

/-- Ten desks are demanded. -/
def tenDesks : List StockableLine :=
  [{ lineId := 1, productId := 101, requestedQty := 10 }]

def northAndSouth : List WarehouseInfo :=
  [{ warehouseId := 1, name := "North", shippingCostWeight := 1 },
   { warehouseId := 2, name := "South", shippingCostWeight := 2 }]

/-- The second warehouse has ten desks, the first has `north`. -/
def deskStock (north : ℤ) : AvailabilityTable := fun pid wid =>
  if pid = 101 then if wid = 1 then some north else if wid = 2 then some 10 else none else none

/-- With ten desks in the first warehouse too it covers the demand alone. -/
theorem northCovers_agrees :
    SameButLabel (calculateFulfillmentPlan tenDesks northAndSouth (deskStock 10) none)
      (calculateFulfillmentPlan tenDesks northAndSouth (deskStock 10) (some "EXHAUSTIVE")) := by
  have covers : ∀ w ∈ activeWarehouses northAndSouth, canCover (getAvail (deskStock 10))
      (totalDemand (validLines tenDesks)) [w] = true := by decide +kernel
  refine (forcedExhaustive_agrees_iff tenDesks (by decide) (by decide) (deskStock 10)).mpr ?_
  exact fun c alone => .inl ⟨alone.mem, fun w mem =>
    alone.least w mem (canCover_iff_together.mp (covers w mem))⟩

/-- With three desks in the first warehouse the forced plan ships twice. -/
theorem northShort_disagrees :
    ¬ SameButLabel (calculateFulfillmentPlan tenDesks northAndSouth (deskStock 3) none)
      (calculateFulfillmentPlan tenDesks northAndSouth (deskStock 3) (some "EXHAUSTIVE")) := by
  intro same
  exact absurd same.shipments (by decide +kernel)

end DealFlow
