import DealFlow.Fulfillment.ProposalCoverage
import DealFlow.Services.ReportService

/-!
# What the fulfillment report adds up

The costs and the shipments of the fulfillment report, added up over the warehouses, should be those
the plans estimate (`FulfillmentAgrees`).

A proposal charges a warehouse once, but each line from it bears the whole charge, and the report
adds up the lines; and it passes a warehouse with the id 0 over.  So the report agrees where no plan
ships from such a warehouse and the lines that charge a warehouse again come to nothing
(`fulfillmentAgrees_iff`).
-/

namespace DealFlow

open Lib

/-- The plans of the deals that pass the filters. -/
def matchingPlans (deals : List ReportedDeal) (plans : List (ℕ × FulfillmentPlan))
    (filters : ReportFilters) : List FulfillmentPlan :=
  (plans.filter fun row =>
    (getMatchingDeals deals filters).any fun d => d.deal.id = row.1).map Prod.snd

/-- Over the warehouses the report has the costs and the shipments that the plans estimate. -/
structure FulfillmentAgrees (deals : List ReportedDeal) (plans : List (ℕ × FulfillmentPlan))
    (alerts : List DealAlert) (warehouses : List RawWarehouse) (filters : ReportFilters) :
    Prop where
  shippingCost :
    ((getFulfillmentReport deals plans alerts warehouses filters).warehouseBreakdown.map
      (·.totalShippingCost)).sum =
      ((matchingPlans deals plans filters).map (·.estimatedShippingCost)).sum
  shipments :
    ((getFulfillmentReport deals plans alerts warehouses filters).warehouseBreakdown.map
      (·.shipmentCount)).sum =
      (getFulfillmentReport deals plans alerts warehouses filters).totalShipments

/-- The proposal stored the plan, which may have been accepted, applied or superseded since. -/
structure ProposedIn {σ : Type} (gateway : WarehouseGateway σ) (strategy : Option String)
    (now : Timestamp) (w : FulfillmentWorld σ) (plan : FulfillmentPlan) : Prop where
  /-- A warehouse has one profile. -/
  unique : (w.profiles.map (·.odooWarehouseId)).Nodup
  stored : ∃ planId w' proposed,
    perform (proposeFulfillmentPlan gateway strategy now) w = (.ok planId, w') ∧
      w'.plans.getLast? = some proposed ∧ plan.lines = proposed.lines ∧
      plan.estimatedShipments = proposed.estimatedShipments ∧
      plan.estimatedShippingCost = proposed.estimatedShippingCost

/-- The plan of the deal was produced by `propose_fulfillment_plan`. -/
def ProducedByProposal (dealId : ℕ) (plan : FulfillmentPlan) : Prop :=
  ∃ (σ : Type) (gateway : WarehouseGateway σ) (strategy : Option String) (now : Timestamp)
    (w : FulfillmentWorld σ), w.db.deal.id = dealId ∧ ProposedIn gateway strategy now w plan

/-- The lines that ship from a warehouse from which a later line ships too. -/
def repeatedLines : List FulfillmentPlanLine → List FulfillmentPlanLine
  | [] => []
  | l :: ls =>
      if l.shipsFrom.isSome ∧ l.shipsFrom ∈ ls.map (·.shipsFrom) then l :: repeatedLines ls
      else repeatedLines ls

theorem repeatedLines_cons (l : FulfillmentPlanLine) (ls : List FulfillmentPlanLine) :
    repeatedLines (l :: ls) =
      if l.shipsFrom.isSome ∧ l.shipsFrom ∈ ls.map (·.shipsFrom) then l :: repeatedLines ls
      else repeatedLines ls := rfl

/-- What the lines of a plan charge for warehouses again. -/
def FulfillmentPlan.chargedAgain (p : FulfillmentPlan) : ℚ :=
  ((repeatedLines p.lines).map (·.shippingCost)).sum

/-- The plan takes nothing from a warehouse with the id 0. -/
def FulfillmentPlan.ShipsFromReal (p : FulfillmentPlan) : Prop :=
  ∀ l ∈ p.lines, 0 < l.allocatedQty → l.odooWarehouseId ≠ some 0

instance (p : FulfillmentPlan) : Decidable p.ShipsFromReal :=
  inferInstanceAs (Decidable (∀ l ∈ p.lines, 0 < l.allocatedQty → l.odooWarehouseId ≠ some 0))

/-- No two lines of the plan charge for one warehouse, unless for nothing. -/
def FulfillmentPlan.ChargesOnce (p : FulfillmentPlan) : Prop :=
  p.lines.Pairwise fun k l => k.shipsFrom ≠ none → k.shipsFrom = l.shipsFrom → k.shippingCost = 0

instance (p : FulfillmentPlan) : Decidable p.ChargesOnce :=
  inferInstanceAs (Decidable (p.lines.Pairwise _))

/-! ## The report -/

section Report

/-- What the report adds up for a line. -/
def FulfillmentPlanLine.shippedCost (l : FulfillmentPlanLine) : ℚ :=
  if l.shipsFrom.isSome then l.shippingCost else 0

/-- What the report adds up for a plan. -/
def FulfillmentPlan.shippedCost (p : FulfillmentPlan) : ℚ :=
  (p.lines.map (·.shippedCost)).sum

theorem total_addAllocation (breakdown : Dict ℤ WarehouseFigures) (l : FulfillmentPlanLine) :
    (addAllocation breakdown l).total (·.shippingCost) =
        breakdown.total (·.shippingCost) + l.shippedCost ∧
      (addAllocation breakdown l).total (·.shipments) = breakdown.total (·.shipments) + 0 := by
  unfold addAllocation FulfillmentPlanLine.shippedCost
  cases l.shipsFrom with
  | none => exact ⟨(add_zero _).symm, rfl⟩
  | some wid =>
      exact ⟨Dict.total_modify (by rfl) (fun _ => by rfl) breakdown wid,
        Dict.total_modify (by rfl) (fun _ => by rfl) breakdown wid⟩

theorem total_addShipment (breakdown : Dict ℤ WarehouseFigures) (wid : ℤ) :
    (addShipment breakdown wid).total (·.shippingCost) = breakdown.total (·.shippingCost) + 0 ∧
      (addShipment breakdown wid).total (·.shipments) = breakdown.total (·.shipments) + 1 :=
  ⟨Dict.total_modify (by rfl) (fun _ => by simp) breakdown wid,
    Dict.total_modify (by rfl) (fun _ => by rfl) breakdown wid⟩

/-- A plan adds what its lines cost, and a shipment for each warehouse it ships from. -/
theorem total_addPlan (breakdown : Dict ℤ WarehouseFigures) (p : FulfillmentPlan) :
    (addPlan breakdown p).total (·.shippingCost) =
        breakdown.total (·.shippingCost) + p.shippedCost ∧
      (addPlan breakdown p).total (·.shipments) =
        breakdown.total (·.shipments) + p.whAllocated.length := by
  unfold addPlan FulfillmentPlan.shippedCost
  constructor
  · rw [Dict.total_foldl fun d wid => (total_addShipment d wid).1,
      Dict.total_foldl fun d l => (total_addAllocation d l).1]
    simp
  · rw [Dict.total_foldl fun d wid => (total_addShipment d wid).2,
      Dict.total_foldl fun d l => (total_addAllocation d l).2]
    simp

theorem total_whBreakdown (plans : List FulfillmentPlan) :
    (whBreakdown plans).total (·.shippingCost) = (plans.map (·.shippedCost)).sum ∧
      (whBreakdown plans).total (·.shipments) = (plans.map (·.whAllocated.length)).sum := by
  constructor
  · exact (Dict.total_foldl (fun d p => (total_addPlan d p).1) plans .empty).trans (zero_add _)
  · exact (Dict.total_foldl (fun d p => (total_addPlan d p).2) plans .empty).trans (zero_add _)

variable (deals : List ReportedDeal) (plans : List (ℕ × FulfillmentPlan)) (filters : ReportFilters)

theorem fulfillmentReportPlans_eq :
    fulfillmentReportPlans deals plans filters = matchingPlans deals plans filters := by
  unfold fulfillmentReportPlans matchingPlans
  dsimp only
  split
  · refine congrArg (List.map Prod.snd) (List.filter_congr fun row _ => ?_)
    rw [Bool.eq_iff_iff, decide_eq_true_eq, List.any_eq_true, List.mem_map]
    simp only [decide_eq_true_eq]
  · next none =>
      rw [List.map_eq_nil_iff.mp (not_not.mp none)]
      simp

/-- The report adds up what the lines cost and the warehouses the plans ship from. -/
theorem fulfillmentAgrees_iff_sums (alerts : List DealAlert) (warehouses : List RawWarehouse) :
    FulfillmentAgrees deals plans alerts warehouses filters ↔
      ((matchingPlans deals plans filters).map (·.shippedCost)).sum =
          ((matchingPlans deals plans filters).map (·.estimatedShippingCost)).sum ∧
        ((matchingPlans deals plans filters).map (·.whAllocated.length)).sum =
          ((matchingPlans deals plans filters).map (·.estimatedShipments)).sum := by
  obtain ⟨costs, shipments⟩ := total_whBreakdown (matchingPlans deals plans filters)
  have reported := fulfillmentReportPlans_eq deals plans filters
  have breakdown : (getFulfillmentReport deals plans alerts warehouses filters).warehouseBreakdown =
      (whBreakdown (matchingPlans deals plans filters)).entries.map
        (warehouseItem (gwWhNames warehouses)) := by
    rw [← reported]
    rfl
  have total : (getFulfillmentReport deals plans alerts warehouses filters).totalShipments =
      ((matchingPlans deals plans filters).map (·.estimatedShipments)).sum := by
    rw [← reported]
    rfl
  rw [← costs, ← shipments, ← total]
  constructor
  · intro agrees
    obtain ⟨cost, shipped⟩ := agrees
    rw [breakdown, List.map_map] at cost shipped
    exact ⟨cost, shipped⟩
  · intro sums
    obtain ⟨cost, shipped⟩ := sums
    constructor
    · rw [breakdown, List.map_map]
      exact cost
    · rw [breakdown, List.map_map]
      exact shipped

end Report

/-! ## The planner -/

section Planner

/-- The warehouses from which a plan takes anything. -/
def FulfillmentPlan.drawnOn (p : FulfillmentPlan) : Finset ℤ :=
  (p.lines.filterMap fun l => if 0 < l.allocatedQty then l.odooWarehouseId else none).toFinset

/-- Each warehouse has a charge: a line from it bears that, and the plan estimates it once. -/
structure FulfillmentPlan.Charged (p : FulfillmentPlan) (charge : ℤ → ℚ) : Prop where
  lines : ∀ l ∈ p.lines, 0 < l.allocatedQty → ∀ wid, l.odooWarehouseId = some wid →
    l.shippingCost = charge wid
  cost : p.estimatedShippingCost = ∑ wid ∈ p.drawnOn, charge wid
  shipments : p.estimatedShipments = p.drawnOn.card

/-- An allocation is from one of the warehouses and costs its weight. -/
def WeighedBy (ws : List WarehouseInfo) (a : PlanAllocation) : Prop :=
  ∃ w ∈ ws, a.warehouseId = some w.warehouseId ∧ a.shippingCost = w.shippingCostWeight

theorem allocateLine_weighed (line : StockableLine) (ws : List WarehouseInfo) (stock : StockTable)
    (needed : ℤ) : ∀ a ∈ (allocateLine line ws stock needed).1, WeighedBy ws a := by
  have later : ∀ {w ws a}, WeighedBy ws a → WeighedBy (w :: ws) a := by
    intro w ws a weighed
    obtain ⟨v, mem, from_v⟩ := weighed
    exact ⟨v, List.mem_cons_of_mem w mem, from_v⟩
  induction ws generalizing stock needed with
  | nil => simp
  | cons w ws ih =>
      intro a mem
      by_cases gives : 0 < stock w.warehouseId line.productId ∧ 0 < needed
      · rw [allocateLine_take gives] at mem
        rcases List.mem_cons.mp mem with here | rest
        · rw [here]
          exact ⟨w, List.mem_cons_self, rfl, rfl⟩
        · exact later (ih _ _ a rest)
      · rw [allocateLine_skip gives] at mem
        exact later (ih stock needed a mem)

theorem allocateLines_weighed (chosen : List WarehouseInfo) (lines : List StockableLine)
    (stock : StockTable) : ∀ a ∈ (allocateLines chosen lines stock).1, WeighedBy chosen a := by
  induction lines generalizing stock with
  | nil => simp [allocateLines]
  | cons l ls ih =>
      rw [allocateLines_cons]
      intro a mem
      rcases List.mem_append.mp mem with here | later
      · exact allocateLine_weighed l chosen stock l.requestedQty a here
      · exact ih _ a later

/-- A computed plan charges for each warehouse the weight it has in the plan. -/
theorem calculateFulfillmentPlan_charges (lines : List StockableLine)
    {warehouses : List WarehouseInfo} (distinct : (warehouses.map (·.warehouseId)).Nodup)
    (availability : AvailabilityTable) (forceStrategy : Option String) :
    ∃ charge : ℤ → ℚ,
      let plan := calculateFulfillmentPlan lines warehouses availability forceStrategy
      (∀ a ∈ plan.allocations, ∃ wid, a.warehouseId = some wid ∧ a.shippingCost = charge wid) ∧
        plan.estimatedShippingCost = ∑ wid ∈ warehousesUsed plan.allocations, charge wid ∧
        plan.estimatedShipments = (warehousesUsed plan.allocations).card := by
  let chosen := chosenWarehouses lines warehouses availability forceStrategy
  have ids : (chosen.map (·.warehouseId)).Nodup :=
    chosenWarehouses_ids_nodup lines availability forceStrategy distinct
  refine ⟨weightOf chosen, ?_⟩
  unfold calculateFulfillmentPlan
  split
  · exact ⟨List.forall_mem_nil _, rfl, rfl⟩
  · split
    · exact ⟨List.forall_mem_nil _, rfl, rfl⟩
    · refine ⟨fun a mem => ?_, rfl, rfl⟩
      obtain ⟨w, memW, from_w, cost⟩ :=
        allocateLines_weighed chosen (validLines lines) (getAvail availability) a mem
      exact ⟨w.warehouseId, from_w, cost.trans (weightOf_eq ids memW).symm⟩

/-- A proposed plan takes from the warehouses its allocations use. -/
theorem drawnOn_proposedPlan {calcRes : FulfillmentCalculationResult}
    (positive : ∀ a ∈ calcRes.allocations, 0 < a.allocatedQty) (planId : ℕ) (now : Timestamp) :
    (proposedPlan planId calcRes now).drawnOn = warehousesUsed calcRes.allocations := by
  have allocated : (calcRes.allocations.filterMap fun a =>
      if 0 < a.allocatedQty then a.warehouseId else none) =
        calcRes.allocations.filterMap (·.warehouseId) :=
    List.filterMap_congr fun a mem => if_pos (positive a mem)
  have backordered : ((calcRes.backorders.map fun b =>
      { plannedLine b with odooWarehouseId := none }).filterMap fun l : FulfillmentPlanLine =>
        if 0 < l.allocatedQty then l.odooWarehouseId else none) = [] := by
    refine List.filterMap_eq_nil_iff.mpr fun l mem => ?_
    obtain ⟨b, -, rfl⟩ := List.mem_map.mp mem
    exact ite_self none
  unfold FulfillmentPlan.drawnOn proposedPlan warehousesUsed
  dsimp only
  rw [List.filterMap_append, backordered, List.append_nil, List.filterMap_map, ← allocated]
  rfl

theorem charged_proposedPlan (lines : List StockableLine) {infos : List WarehouseInfo}
    (distinct : (infos.map (·.warehouseId)).Nodup) (availability : AvailabilityTable)
    (strategy : Option String) (planId : ℕ) (now : Timestamp) :
    ∃ charge, (proposedPlan planId (calculateFulfillmentPlan lines infos availability strategy)
      now).Charged charge := by
  obtain ⟨charge, named, cost, shipments⟩ :=
    calculateFulfillmentPlan_charges lines distinct availability strategy
  have positive :=
    (calculateFulfillmentPlan_allocated_le lines infos availability strategy).1
  have drawn := drawnOn_proposedPlan positive planId now
  refine ⟨charge, fun l mem _ wid from_wid => ?_, drawn ▸ cost, drawn ▸ shipments⟩
  rcases List.mem_append.mp mem with allocation | backorder
  · obtain ⟨a, memA, rfl⟩ := List.mem_map.mp allocation
    obtain ⟨wid', from_wid', charged⟩ := named a memA
    have same : wid' = wid := Option.some.inj (from_wid'.symm.trans from_wid)
    rw [← same]
    exact charged
  · obtain ⟨b, memB, rfl⟩ := List.mem_map.mp backorder
    cases from_wid

end Planner

/-! ## The proposal -/

section Proposal

variable {σ : Type} {gateway : WarehouseGateway σ} {w w' : FulfillmentWorld σ}

/-- Each warehouse still has one profile once there are profiles. -/
theorem ensureProfiles_unique (unique : (w.profiles.map (·.odooWarehouseId)).Nodup)
    (ok : perform (ensureProfiles gateway) w = (.ok (), w')) :
    (w'.profiles.map (·.odooWarehouseId)).Nodup := by
  unfold ensureProfiles at ok
  rw [perform_get_bind] at ok
  split at ok
  · rw [perform_askOdoo_bind] at ok
    split at ok
    · cases ok
    · rw [perform_get_bind] at ok
      dsimp only at ok
      split at ok
      · next distinct =>
          cases ok
          exact distinct
      · cases ok
  · cases ok
    exact unique

theorem askOdoo_profiles {α : Type} {call : OdooCall σ α} {a : α}
    (ok : perform (askOdoo call) w = (.ok a, w')) : w'.profiles = w.profiles := by
  rw [perform_askOdoo] at ok
  cases congrArg Prod.snd ok
  rfl

/-- A computed plan is one over different warehouses. -/
theorem computePlan_distinct {strategy : Option String} {calcRes : FulfillmentCalculationResult}
    (unique : (w.profiles.map (·.odooWarehouseId)).Nodup)
    (ok : perform (computePlan gateway strategy) w = (.ok calcRes, w')) :
    ∃ lines infos availability, (infos.map (·.warehouseId)).Nodup ∧
      calcRes = calculateFulfillmentPlan lines infos availability strategy := by
  unfold computePlan at ok
  obtain ⟨_, _, got, ok⟩ := perform_bind_ok ok
  cases got
  obtain ⟨order, w₁, readOrder, ok⟩ := perform_bind_ok ok
  dsimp only at ok
  split at ok
  · cases ok
  · obtain ⟨products, w₂, readProducts, ok⟩ := perform_bind_ok ok
    obtain ⟨_, w₃, ensured, ok⟩ := perform_bind_ok ok
    obtain ⟨warehouses, w₄, readWarehouses, ok⟩ := perform_bind_ok ok
    obtain ⟨_, _, got, ok⟩ := perform_bind_ok ok
    cases got
    obtain ⟨availability, _, -, ok⟩ := perform_bind_ok ok
    cases ok
    rw [← askOdoo_profiles readOrder, ← askOdoo_profiles readProducts] at unique
    have profiles := ensureProfiles_unique unique ensured
    rw [← askOdoo_profiles readWarehouses] at profiles
    refine ⟨_, _, _, ?_, rfl⟩
    rw [List.map_map]
    exact (List.filter_sublist.map _).nodup profiles

/-- A plan that a proposal produced is charged warehouse by warehouse. -/
theorem ProducedByProposal.charged {dealId : ℕ} {plan : FulfillmentPlan}
    (produced : ProducedByProposal dealId plan) : ∃ charge, plan.Charged charge := by
  obtain ⟨σ, gateway, strategy, now, w, -, unique, planId, w', proposed, ok, last, lines,
    shipments, cost⟩ := produced
  unfold proposeFulfillmentPlan at ok
  obtain ⟨calcRes, between, computed, ok⟩ := perform_bind_ok ok
  obtain ⟨stockable, infos, availability, distinct, rfl⟩ := computePlan_distinct unique computed
  cases ok
  have stored : some (proposedPlan between.db.nextId _ now) = some proposed :=
    List.getLast?_concat.symm.trans last
  cases stored
  obtain ⟨charge, charged⟩ :=
    charged_proposedPlan stockable distinct availability strategy between.db.nextId now
  have drawn : plan.drawnOn = (proposedPlan between.db.nextId
      (calculateFulfillmentPlan stockable infos availability strategy) now).drawnOn := by
    unfold FulfillmentPlan.drawnOn
    rw [lines]
  refine ⟨charge, ?_, ?_, ?_⟩
  · rw [lines]
    exact charged.lines
  · rw [cost, drawn]
    exact charged.cost
  · rw [shipments, drawn]
    exact charged.shipments

end Proposal

/-! ## What the report adds up for a plan -/

section Plan

theorem FulfillmentPlanLine.shipsFrom_eq_some_iff {l : FulfillmentPlanLine} {wid : ℤ} :
    l.shipsFrom = some wid ↔ 0 < l.allocatedQty ∧ l.odooWarehouseId = some wid ∧ wid ≠ 0 := by
  unfold FulfillmentPlanLine.shipsFrom nonZero
  split
  · next allocated => simp [allocated, Option.filter_eq_some_iff]
  · next idle => simp [idle]

variable {p : FulfillmentPlan} {charge : ℤ → ℚ}

theorem FulfillmentPlan.mem_drawnOn {wid : ℤ} :
    wid ∈ p.drawnOn ↔ ∃ l ∈ p.lines, 0 < l.allocatedQty ∧ l.odooWarehouseId = some wid := by
  unfold FulfillmentPlan.drawnOn
  rw [List.mem_toFinset, List.mem_filterMap]
  refine exists_congr fun l => and_congr_right fun _ => ?_
  split
  · next allocated => rw [and_iff_right allocated]
  · next idle => exact iff_of_false nofun fun taken => idle taken.1

theorem FulfillmentPlan.shipsFromReal_iff : p.ShipsFromReal ↔ 0 ∉ p.drawnOn := by
  rw [FulfillmentPlan.mem_drawnOn]
  unfold FulfillmentPlan.ShipsFromReal
  push Not
  rfl

/-- The report passes the warehouse 0 over. -/
theorem FulfillmentPlan.shipsFrom_toFinset :
    (p.lines.filterMap (·.shipsFrom)).toFinset = p.drawnOn.erase 0 := by
  ext wid
  rw [List.mem_toFinset, List.mem_filterMap, Finset.mem_erase, FulfillmentPlan.mem_drawnOn]
  simp only [FulfillmentPlanLine.shipsFrom_eq_some_iff]
  tauto

theorem FulfillmentPlan.length_whAllocated :
    p.drawnOn.card = p.whAllocated.length + if p.ShipsFromReal then 0 else 1 := by
  unfold FulfillmentPlan.whAllocated
  rw [← List.card_toFinset, FulfillmentPlan.shipsFrom_toFinset]
  by_cases real : p.ShipsFromReal
  · rw [if_pos real, Finset.erase_eq_of_notMem (FulfillmentPlan.shipsFromReal_iff.mp real),
      add_zero]
  · have zero : 0 ∈ p.drawnOn := by
      rwa [FulfillmentPlan.shipsFromReal_iff, not_not] at real
    rw [if_neg real, Finset.card_erase_add_one zero]

/-- The lines cost what their warehouses charge, and what they charge again. -/
theorem sum_shippedCost {ls : List FulfillmentPlanLine}
    (charged : ∀ l ∈ ls, ∀ wid, l.shipsFrom = some wid → l.shippingCost = charge wid) :
    (ls.map (·.shippedCost)).sum =
      ∑ wid ∈ (ls.filterMap (·.shipsFrom)).toFinset, charge wid +
        ((repeatedLines ls).map (·.shippingCost)).sum := by
  induction ls with
  | nil => simp [repeatedLines]
  | cons l ls ih =>
      obtain ⟨head, tail⟩ := List.forall_mem_cons.mp charged
      rw [List.map_cons, List.sum_cons, ih tail, repeatedLines_cons]
      unfold FulfillmentPlanLine.shippedCost
      cases ships : l.shipsFrom with
      | none => simp [ships]
      | some wid =>
          have cost := head wid ships
          have later : some wid ∈ ls.map (·.shipsFrom) ↔
              wid ∈ (ls.filterMap (·.shipsFrom)).toFinset := by
            rw [List.mem_toFinset, List.mem_filterMap, List.mem_map]
          rw [List.filterMap_cons_some ships, List.toFinset_cons, Option.isSome_some,
            if_pos rfl]
          by_cases again : some wid ∈ ls.map (·.shipsFrom)
          · rw [Finset.insert_eq_of_mem (later.mp again), if_pos ⟨rfl, again⟩, List.map_cons,
              List.sum_cons]
            ring
          · rw [Finset.sum_insert fun mem => again (later.mpr mem),
              if_neg fun both => again both.2, cost]
            ring

/-- Unless a plan takes from the warehouse 0, its lines cost what it estimates, and what they charge
again. -/
theorem FulfillmentPlan.Charged.shippedCost_eq (charged : p.Charged charge)
    (real : p.ShipsFromReal) : p.shippedCost = p.estimatedShippingCost + p.chargedAgain := by
  unfold FulfillmentPlan.shippedCost FulfillmentPlan.chargedAgain
  rw [sum_shippedCost fun l mem wid ships => ?_, FulfillmentPlan.shipsFrom_toFinset,
    Finset.erase_eq_of_notMem (FulfillmentPlan.shipsFromReal_iff.mp real), charged.cost]
  obtain ⟨allocated, from_wid, -⟩ := FulfillmentPlanLine.shipsFrom_eq_some_iff.mp ships
  exact charged.lines l mem allocated wid from_wid

/-- A plan charges once exactly where the lines that charge again cost nothing. -/
theorem chargesOnce_iff :
    p.ChargesOnce ↔ ∀ l ∈ repeatedLines p.lines, l.shippingCost = 0 := by
  unfold FulfillmentPlan.ChargesOnce
  induction p.lines with
  | nil => simp [repeatedLines]
  | cons l ls ih =>
      rw [List.pairwise_cons, ih, repeatedLines_cons]
      split
      · next again =>
          obtain ⟨ships, later⟩ := again
          obtain ⟨k, mem, same⟩ := List.mem_map.mp later
          rw [List.forall_mem_cons]
          refine and_congr_left fun _ => ⟨fun free => ?_, fun free _ _ _ _ => free⟩
          exact free k mem (Option.isSome_iff_ne_none.mp ships) same.symm
      · next once =>
          refine and_iff_right fun k mem ships same => absurd ?_ once
          exact ⟨Option.isSome_iff_ne_none.mpr ships, List.mem_map.mpr ⟨k, mem, same.symm⟩⟩

theorem repeatedLines_subset (ls : List FulfillmentPlanLine) : repeatedLines ls ⊆ ls := by
  induction ls with
  | nil => exact List.Subset.refl _
  | cons l ls ih =>
      rw [repeatedLines_cons]
      split
      · exact List.cons_subset_cons l ih
      · exact List.subset_cons_of_subset l ih

end Plan

/-! ## The plans together -/

section Plans

variable {ps : List FulfillmentPlan}

theorem shipments_agree_iff (charged : ∀ p ∈ ps, ∃ charge, p.Charged charge) :
    (ps.map (·.whAllocated.length)).sum = (ps.map (·.estimatedShipments)).sum ↔
      ∀ p ∈ ps, p.ShipsFromReal := by
  have estimated : ps.map (·.estimatedShipments) =
      ps.map fun p => p.whAllocated.length + if p.ShipsFromReal then 0 else 1 := by
    refine List.map_congr_left fun p mem => ?_
    obtain ⟨charge, charged⟩ := charged p mem
    exact charged.shipments.trans FulfillmentPlan.length_whAllocated
  rw [estimated, List.sum_map_add, left_eq_add, List.sum_eq_zero_iff]
  simp

theorem costs_agree_iff (charged : ∀ p ∈ ps, ∃ charge, p.Charged charge)
    (real : ∀ p ∈ ps, p.ShipsFromReal) :
    (ps.map (·.shippedCost)).sum = (ps.map (·.estimatedShippingCost)).sum ↔
      (ps.map (·.chargedAgain)).sum = 0 := by
  have shipped : ps.map (·.shippedCost) =
      ps.map fun p => p.estimatedShippingCost + p.chargedAgain := by
    refine List.map_congr_left fun p mem => ?_
    obtain ⟨charge, charged⟩ := charged p mem
    exact charged.shippedCost_eq (real p mem)
  rw [shipped, List.sum_map_add, add_eq_left]

/-- Where no charge is negative, nothing is charged again exactly where each plan charges once. -/
theorem chargedAgain_eq_zero_iff (nonneg : ∀ p ∈ ps, ∀ l ∈ p.lines, 0 ≤ l.shippingCost) :
    (ps.map (·.chargedAgain)).sum = 0 ↔ ∀ p ∈ ps, p.ChargesOnce := by
  have again : ∀ p ∈ ps, ∀ cost ∈ (repeatedLines p.lines).map (·.shippingCost), 0 ≤ cost := by
    intro p mem cost memCost
    obtain ⟨l, memL, rfl⟩ := List.mem_map.mp memCost
    exact nonneg p mem l (repeatedLines_subset p.lines memL)
  have plan : ∀ p ∈ ps, (p.chargedAgain = 0 ↔ p.ChargesOnce) := by
    intro p mem
    rw [chargesOnce_iff]
    constructor
    · intro none l memL
      exact List.all_zero_of_le_zero_le_of_sum_eq_zero (again p mem) none
        (List.mem_map_of_mem memL)
    · intro free
      refine List.sum_eq_zero fun cost memCost => ?_
      obtain ⟨l, memL, rfl⟩ := List.mem_map.mp memCost
      exact free l memL
  have total : ∀ charged ∈ ps.map (·.chargedAgain), 0 ≤ charged := by
    intro charged mem
    obtain ⟨p, memP, rfl⟩ := List.mem_map.mp mem
    exact List.sum_nonneg (again p memP)
  constructor
  · intro none p mem
    exact (plan p mem).mp
      (List.all_zero_of_le_zero_le_of_sum_eq_zero total none (List.mem_map_of_mem mem))
  · intro once
    refine List.sum_eq_zero fun charged mem => ?_
    obtain ⟨p, memP, rfl⟩ := List.mem_map.mp mem
    exact (plan p memP).mpr (once p memP)

end Plans

/-- The report on proposed plans agrees with them exactly where none takes from a warehouse with the
id 0 and what they charge again comes to nothing; where no charge is negative, that means that each
plan charges a warehouse once. -/
theorem fulfillmentAgrees_iff (deals : List ReportedDeal) (plans : List (ℕ × FulfillmentPlan))
    (alerts : List DealAlert) (warehouses : List RawWarehouse) (filters : ReportFilters)
    (produced : ∀ row ∈ plans, (∃ d ∈ getMatchingDeals deals filters, d.deal.id = row.1) →
      ProducedByProposal row.1 row.2) :
    (FulfillmentAgrees deals plans alerts warehouses filters ↔
        (∀ p ∈ matchingPlans deals plans filters, p.ShipsFromReal) ∧
          ((matchingPlans deals plans filters).map (·.chargedAgain)).sum = 0) ∧
      ((∀ p ∈ matchingPlans deals plans filters, ∀ l ∈ p.lines, 0 ≤ l.shippingCost) →
        (FulfillmentAgrees deals plans alerts warehouses filters ↔
          ∀ p ∈ matchingPlans deals plans filters, p.ShipsFromReal ∧ p.ChargesOnce)) := by
  have charged : ∀ p ∈ matchingPlans deals plans filters, ∃ charge, p.Charged charge := by
    intro p mem
    obtain ⟨row, memRow, rfl⟩ := List.mem_map.mp mem
    obtain ⟨stored, matched⟩ := List.mem_filter.mp memRow
    obtain ⟨d, memD, same⟩ := List.any_eq_true.mp matched
    exact (produced row stored ⟨d, memD, of_decide_eq_true same⟩).charged
  have agrees : FulfillmentAgrees deals plans alerts warehouses filters ↔
      (∀ p ∈ matchingPlans deals plans filters, p.ShipsFromReal) ∧
        ((matchingPlans deals plans filters).map (·.chargedAgain)).sum = 0 := by
    rw [fulfillmentAgrees_iff_sums, shipments_agree_iff charged, and_comm]
    exact and_congr_right fun real => costs_agree_iff charged real
  refine ⟨agrees, fun nonneg => ?_⟩
  rw [agrees, chargedAgain_eq_zero_iff nonneg]
  exact ⟨fun both p mem => ⟨both.1 p mem, both.2 p mem⟩,
    fun both => ⟨fun p mem => (both p mem).1, fun p mem => (both p mem).2⟩⟩

/-! ## On the in-memory gateway -/

/-- Five desks and three chairs are ordered, all in the first warehouse. -/
def furnishedBooks : FakeBooks :=
  { deskBooks with
    products := deskBooks.products.insert 104
      { name := "Chair", categoryId := 1, type := "STOCKABLE", standardPrice := 20
        listPrice := 40 }
    stock := deskBooks.stock.insert 104 (AList.insert 1 30 ∅)
    orders := AList.insert 101
      { header := (desksOrder 5).header
        lines := (desksOrder 5).lines ++
          [{ id := 1002, productId := 104, qty := 3, priceUnit := 40, discountPct := 0
             taxRatePct := 18 }] } ∅ }

/-- The deal of the order, with a plan proposed for it. -/
def proposedOn (books : FakeBooks) : FulfillmentWorld FakeBooks :=
  FulfillmentOp.step fakeWarehouseGateway (.propose none 1) { db := deskWorld.db, odoo := books }

def deskDeals : List ReportedDeal :=
  [{ deskWorld.db with }]

def proposedRows (books : FakeBooks) : List (ℕ × FulfillmentPlan) :=
  (proposedOn books).plans.map fun p => (1, p)

theorem proposedRows_produced {books : FakeBooks} {planId : ℕ}
    (ok : (perform (proposeFulfillmentPlan fakeWarehouseGateway none 1)
      { db := deskWorld.db, odoo := books }).1 = .ok planId)
    (one : (proposedOn books).plans.length = 1) :
    ∀ row ∈ proposedRows books, ProducedByProposal row.1 row.2 := by
  intro row mem
  obtain ⟨p, memP, rfl⟩ := List.mem_map.mp mem
  obtain ⟨q, alone⟩ := List.length_eq_one_iff.mp one
  rw [alone, List.mem_singleton] at memP
  have last : (proposedOn books).plans.getLast? = some p := by
    rw [alone, memP]
    rfl
  exact ⟨FakeBooks, fakeWarehouseGateway, none, 1, { db := deskWorld.db, odoo := books }, rfl,
    List.nodup_nil, planId, proposedOn books, p, Prod.ext ok rfl, last, rfl, rfl, rfl⟩

/-- One line from one warehouse costs what the plan estimates. -/
theorem deskDeals_agree :
    FulfillmentAgrees deskDeals (proposedRows deskBooks) [] fakeWarehouses {} := by
  refine ((fulfillmentAgrees_iff deskDeals (proposedRows deskBooks) [] fakeWarehouses {}
    fun row mem _ => ?_).2 (by decide +kernel)).mpr (by decide +kernel)
  exact proposedRows_produced (by decide +kernel : _ = Except.ok 2) (by decide +kernel) row mem

/-- Two lines from one warehouse cost twice what the plan estimates. -/
theorem furnishedDeals_disagree :
    (∀ row ∈ proposedRows furnishedBooks, ProducedByProposal row.1 row.2) ∧
      (matchingPlans deskDeals (proposedRows furnishedBooks) {}).map (·.estimatedShippingCost) =
        [10] ∧
      (getFulfillmentReport deskDeals (proposedRows furnishedBooks) [] fakeWarehouses
        {}).warehouseBreakdown.map (·.totalShippingCost) = [20] ∧
      ¬ FulfillmentAgrees deskDeals (proposedRows furnishedBooks) [] fakeWarehouses {} := by
  have estimated : (matchingPlans deskDeals (proposedRows furnishedBooks) {}).map
      (·.estimatedShippingCost) = [10] := by decide +kernel
  have reported : (getFulfillmentReport deskDeals (proposedRows furnishedBooks) [] fakeWarehouses
      {}).warehouseBreakdown.map (·.totalShippingCost) = [20] := by decide +kernel
  refine ⟨proposedRows_produced (by decide +kernel : _ = Except.ok 2) (by decide +kernel),
    estimated, reported, fun agrees => ?_⟩
  have same := agrees.shippingCost
  rw [estimated, reported, List.sum_singleton, List.sum_singleton] at same
  norm_num at same

end DealFlow
