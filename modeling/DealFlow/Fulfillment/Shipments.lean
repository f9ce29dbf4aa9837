import DealFlow.Fulfillment.Conservation
import DealFlow.Fulfillment.PlanLifecycle

/-!
# What is shipped and what was ordered

A plan is computed from the ordered quantities, not from what is still to be shipped, and a plan
replaced by hand takes any quantities.  So the pickings of an order keep within the order exactly in
the runs where each plan carried out ships no more of a line than was ordered, when it is written by
hand, and no more than an APPLIED plan left of it (`shipsWithin_run_iff`).

The plans are bounded as the planner bounds them (`calculateFulfillmentPlan_allocated_le`); what is
shipped is what the APPLIED plans allocate (`PlansSound.shippedQty_eq`).
-/

namespace DealFlow

open Lib

/-- The quantity of an order line on the pickings of these allocations; what is in warehouse 0 is on
none. -/
def pickedQty (allocations : List AllocationPayload) (lineId : ℤ) : ℤ :=
  ((allocations.filter fun a => a.lineId = lineId ∧ a.warehouseId ≠ 0).map (·.qty)).sum

/-- The quantity of an order line on all pickings created. -/
def shippedQty (calls : List PickingCall) (lineId : ℤ) : ℤ :=
  (calls.map fun c => pickedQty c.allocations lineId).sum

/-- The quantity ordered under a line id; a negative one orders nothing. -/
def orderedQty (lines : List RawOrderLine) (lineId : ℤ) : ℚ :=
  ((lines.filter fun l => l.id = lineId).map fun l => max l.qty 0).sum

/-- No more is shipped of any line than was ordered. -/
def ShipsWithin (lines : List RawOrderLine) (calls : List PickingCall) : Prop :=
  ∀ l ∈ lines, (shippedQty calls l.id : ℚ) ≤ orderedQty lines l.id

/-- The pickings are within these lines after every step of a run. -/
def StaysWithin {σ : Type} (gateway : WarehouseGateway σ) (lines : List RawOrderLine)
    (ops : List FulfillmentOp) (start : PickedWorld σ) : Prop :=
  ∀ t ∈ history (FulfillmentOp.step (recordingPickings gateway)) ops start,
    ShipsWithin lines (t.2.step (recordingPickings gateway) t.1).odoo.2

/-- The operation carries out the plan. -/
def Carries {σ : Type} (gateway : WarehouseGateway σ) (w : PickedWorld σ) (op : FulfillmentOp)
    (plan : FulfillmentPlan) : Prop :=
  ∃ planId actor now pickingIds, op = .apply planId actor now ∧
    guardPlan w.toDealWorld planId = .ok plan ∧
    (gateway.applyFulfillmentPlan w.db.deal.odooSaleOrderId plan.allocPayload w.odoo.1).1 =
      .ok pickingIds

/-- What the APPLIED plans ship of a line. -/
def appliedQty (plans : List FulfillmentPlan) (lineId : ℤ) : ℤ :=
  ((appliedPlans plans).map fun p => pickedQty p.allocPayload lineId).sum

/-- An APPLIED plan ships some of the line, so that a plan for it now proposes the line again. -/
def ProposedAgain (plans : List FulfillmentPlan) (lineId : ℤ) : Prop :=
  ∃ earlier ∈ appliedPlans plans, 0 < pickedQty earlier.allocPayload lineId

/-- A plan written by hand is within the order, and a line that is proposed again is within what the
APPLIED plans left of it. -/
def FitsOrder {σ : Type} (lines : List RawOrderLine) (w : PickedWorld σ) (plan : FulfillmentPlan) :
    Prop :=
  ∀ l ∈ lines,
    (plan.status = .overridden → (pickedQty plan.allocPayload l.id : ℚ) ≤ orderedQty lines l.id) ∧
    (ProposedAgain w.plans l.id →
      (pickedQty plan.allocPayload l.id : ℚ) ≤ orderedQty lines l.id - appliedQty w.plans l.id)

/-! ## What a plan allocates at most -/

/-- One line takes what it needs or less, whatever the warehouses. -/
theorem allocateLine_within (line : StockableLine) (ws : List WarehouseInfo) (stock : StockTable)
    {needed : ℤ} (need : 0 ≤ needed) :
    (∀ a ∈ (allocateLine line ws stock needed).1, a.lineId = line.lineId ∧ 0 < a.allocatedQty) ∧
      allocatedTo (allocateLine line ws stock needed).1 line.lineId ≤ needed := by
  induction ws generalizing stock needed with
  | nil => simpa [allocateLine] using need
  | cons w ws ih =>
      by_cases gives : 0 < stock w.warehouseId line.productId ∧ 0 < needed
      · rw [allocateLine_take gives]
        have needLeft : 0 ≤ needed - min needed (stock w.warehouseId line.productId) :=
          sub_nonneg.mpr (min_le_left _ _)
        obtain ⟨named, within⟩ := ih
          (takeStock stock w.warehouseId line.productId
            (min needed (stock w.warehouseId line.productId))) needLeft
        dsimp only
        refine ⟨List.forall_mem_cons.mpr ⟨⟨rfl, lt_min gives.2 gives.1⟩, named⟩, ?_⟩
        rw [allocatedTo_cons, if_pos (show (allocationFrom line w _).lineId = line.lineId from rfl)]
        change min needed (stock w.warehouseId line.productId) + _ ≤ _
        omega
      · rw [allocateLine_skip gives]
        exact ih stock need

theorem allocateLines_within (chosen : List WarehouseInfo) {lines : List StockableLine}
    (positive : ∀ l ∈ lines, 0 ≤ l.requestedQty) (stock : StockTable) :
    (∀ a ∈ (allocateLines chosen lines stock).1, 0 < a.allocatedQty) ∧
      ∀ lineId, allocatedTo (allocateLines chosen lines stock).1 lineId ≤
        requestedBy lines lineId := by
  induction lines generalizing stock with
  | nil => simp [allocateLines, requestedBy]
  | cons l ls ih =>
      obtain ⟨need, rest⟩ := List.forall_mem_cons.mp positive
      obtain ⟨named, within⟩ := allocateLine_within l chosen stock need
      obtain ⟨named', within'⟩ := ih rest (allocateLine l chosen stock l.requestedQty).2.1
      unfold allocateLines
      dsimp only
      refine ⟨fun a mem => ?_, fun lineId => ?_⟩
      · rcases List.mem_append.mp mem with here | later
        · exact (named a here).2
        · exact named' a later
      · rw [allocatedTo_append, requestedBy_cons]
        have later := within' lineId
        by_cases same : l.lineId = lineId
        · subst same
          rw [if_pos rfl]
          omega
        · have none : allocatedTo (allocateLine l chosen stock l.requestedQty).1 lineId = 0 := by
            unfold allocatedTo
            rw [List.filter_eq_nil_iff.mpr]
            · rfl
            · intro a mem named''
              exact same ((named a mem).1 ▸ of_decide_eq_true named'')
          rw [none, if_neg same]
          exact add_le_add_right later 0

/-- A computed plan allocates each line at most what it requests. -/
theorem calculateFulfillmentPlan_allocated_le (lines : List StockableLine)
    (warehouses : List WarehouseInfo) (availability : AvailabilityTable)
    (forceStrategy : Option String) :
    (∀ a ∈ (calculateFulfillmentPlan lines warehouses availability forceStrategy).allocations,
        0 < a.allocatedQty) ∧
      ∀ lineId, allocatedTo
        (calculateFulfillmentPlan lines warehouses availability forceStrategy).allocations lineId ≤
          requestedBy (validLines lines) lineId := by
  have none : ∀ lineId, 0 ≤ requestedBy (validLines lines) lineId := by
    intro lineId
    refine List.sum_nonneg fun q mem => ?_
    obtain ⟨l, memL, rfl⟩ := List.mem_map.mp mem
    exact validLines_nonneg lines l (List.mem_filter.mp memL).1
  unfold calculateFulfillmentPlan
  split
  · exact ⟨by simp, none⟩
  · split
    · exact ⟨by simp, none⟩
    · exact allocateLines_within _ (validLines_nonneg lines) _

/-! ## What a plan ships at most -/

theorem pickedQty_cons (a : AllocationPayload) (as : List AllocationPayload) (lineId : ℤ) :
    pickedQty (a :: as) lineId =
      (if a.lineId = lineId ∧ a.warehouseId ≠ 0 then a.qty else 0) + pickedQty as lineId := by
  unfold pickedQty
  by_cases picked : a.lineId = lineId ∧ a.warehouseId ≠ 0
  · rw [List.filter_cons_of_pos (by simpa using picked), if_pos picked, List.map_cons,
      List.sum_cons]
  · rw [List.filter_cons_of_neg (by simpa using picked), if_neg picked, zero_add]

/-- The allocation of a plan line. -/
def FulfillmentPlanLine.payload (l : FulfillmentPlanLine) : Option AllocationPayload :=
  match l.odooWarehouseId with
  | none => none
  | some warehouseId =>
      if 0 < l.allocatedQty then
        some
          { lineId := l.odooSaleOrderLineId
            productId := l.odooProductId
            warehouseId
            qty := l.allocatedQty }
      else none

theorem FulfillmentPlan.allocPayload_eq (plan : FulfillmentPlan) :
    plan.allocPayload = plan.lines.filterMap FulfillmentPlanLine.payload := rfl

/-- Only positive quantities are allocated. -/
theorem FulfillmentPlan.allocPayload_positive (plan : FulfillmentPlan) :
    ∀ a ∈ plan.allocPayload, 0 < a.qty := by
  intro a mem
  rw [plan.allocPayload_eq] at mem
  obtain ⟨l, -, payload⟩ := List.mem_filterMap.mp mem
  unfold FulfillmentPlanLine.payload at payload
  cases warehouse : l.odooWarehouseId with
  | none =>
      rw [warehouse] at payload
      cases payload
  | some warehouseId =>
      rw [warehouse] at payload
      dsimp only at payload
      split at payload
      · next positive =>
          cases payload
          exact positive
      · cases payload

theorem FulfillmentPlan.pickedQty_nonneg (plan : FulfillmentPlan) (lineId : ℤ) :
    0 ≤ pickedQty plan.allocPayload lineId := by
  refine List.sum_nonneg fun q mem => ?_
  obtain ⟨a, memA, rfl⟩ := List.mem_map.mp mem
  exact (plan.allocPayload_positive a (List.mem_filter.mp memA).1).le

/-- The backorders of a plan are in no warehouse. -/
theorem backorders_payload (backorders : List PlanAllocation) :
    (backorders.map fun b => { plannedLine b with odooWarehouseId := none }).filterMap
      FulfillmentPlanLine.payload = [] := by
  rw [List.filterMap_eq_nil_iff]
  intro l mem
  obtain ⟨b, -, rfl⟩ := List.mem_map.mp mem
  rfl

theorem pickedQty_planned {allocations : List PlanAllocation}
    (positive : ∀ a ∈ allocations, 0 < a.allocatedQty) (lineId : ℤ) :
    pickedQty ((allocations.map plannedLine).filterMap FulfillmentPlanLine.payload) lineId ≤
      allocatedTo allocations lineId := by
  induction allocations with
  | nil => exact le_rfl
  | cons a as ih =>
      obtain ⟨own, others⟩ := List.forall_mem_cons.mp positive
      have rest := ih others
      rw [List.map_cons, allocatedTo_cons]
      cases warehouse : a.warehouseId with
      | none =>
          have unpicked : (plannedLine a).payload = none := by
            simp [FulfillmentPlanLine.payload, plannedLine, warehouse]
          rw [List.filterMap_cons_none unpicked]
          split <;> omega
      | some wid =>
          have picked : (plannedLine a).payload =
              some { lineId := a.lineId, productId := a.productId, warehouseId := wid,
                     qty := a.allocatedQty } := by
            simp [FulfillmentPlanLine.payload, plannedLine, warehouse, own]
          rw [List.filterMap_cons_some picked, pickedQty_cons]
          dsimp only
          by_cases same : a.lineId = lineId
          · rw [if_pos same]
            split <;> omega
          · rw [if_neg same, if_neg fun both => same both.1]
            omega

theorem orderedQty_cons (l : RawOrderLine) (ls : List RawOrderLine) (lineId : ℤ) :
    orderedQty (l :: ls) lineId =
      (if l.id = lineId then max l.qty 0 else 0) + orderedQty ls lineId := by
  unfold orderedQty
  by_cases same : l.id = lineId
  · rw [List.filter_cons_of_pos (by simpa using same), if_pos same, List.map_cons, List.sum_cons]
  · rw [List.filter_cons_of_neg (by simpa using same), if_neg same, zero_add]

theorem orderedQty_nonneg (lines : List RawOrderLine) (lineId : ℤ) :
    0 ≤ orderedQty lines lineId := by
  refine List.sum_nonneg fun q mem => ?_
  obtain ⟨l, -, rfl⟩ := List.mem_map.mp mem
  exact le_max_right _ _

theorem truncDec_le {x : ℚ} (nonneg : 0 ≤ x) : (truncDec x : ℚ) ≤ x := by
  unfold truncDec
  rw [if_pos nonneg]
  exact Int.floor_le x

/-- The stockable lines request at most what is ordered. -/
theorem requestedBy_stockable_le (order : RawOrder) (products : AList fun _ : ℤ => RawProduct)
    (lineId : ℤ) :
    (requestedBy (validLines (stockableLines order products)) lineId : ℚ) ≤
      orderedQty order.lines lineId := by
  rcases order with ⟨header, lines⟩
  induction lines with
  | nil => exact le_rfl
  | cons l ls ih =>
      have more : (0 : ℚ) ≤ if l.id = lineId then max l.qty 0 else 0 := by
        split
        · exact le_max_right _ _
        · exact le_rfl
      rw [orderedQty_cons]
      have skipped : (requestedBy (validLines (stockableLines ⟨header, ls⟩ products)) lineId : ℚ) ≤
          (if l.id = lineId then max l.qty 0 else 0) + orderedQty ls lineId :=
        ih.trans (le_add_of_nonneg_left more)
      unfold stockableLines at skipped ih ⊢
      dsimp only at skipped ih ⊢
      rw [List.filterMap_cons]
      cases products.lookup l.productId with
      | none => exact skipped
      | some product =>
          dsimp only
          split
          · exact skipped
          · next stockable taken =>
              split at taken
              · next conditions =>
                  cases taken
                  unfold validLines at skipped ih ⊢
                  rw [List.filter_cons]
                  split
                  · rw [requestedBy_cons]
                    have floor := truncDec_le conditions.2.2.le
                    have whole : l.qty ≤ max l.qty 0 := le_max_left _ _
                    push_cast
                    split
                    · linarith
                    · linarith
                  · exact skipped
              · cases taken

/-- A computed plan is within the order. -/
theorem proposedPlan_within (planId : ℕ) (order : RawOrder)
    (products : AList fun _ : ℤ => RawProduct) (infos : List WarehouseInfo)
    (availability : AvailabilityTable) (strategy : Option String) (now : Timestamp) (lineId : ℤ) :
    (pickedQty (proposedPlan planId (calculateFulfillmentPlan (stockableLines order products) infos
      availability strategy) now).allocPayload lineId : ℚ) ≤ orderedQty order.lines lineId := by
  obtain ⟨positive, within⟩ := calculateFulfillmentPlan_allocated_le (stockableLines order products)
    infos availability strategy
  rw [FulfillmentPlan.allocPayload_eq]
  unfold proposedPlan
  dsimp only
  rw [List.filterMap_append, backorders_payload, List.append_nil]
  have picked := (pickedQty_planned positive lineId).trans (within lineId)
  exact (Int.cast_le.mpr picked).trans (requestedBy_stockable_le order products lineId)

/-! ## What is shipped along a run -/

/-- Reads of an order show its lines, which the calls of plans leave as they are. -/
structure OrderStays {σ : Type} (gateway : WarehouseGateway σ)
    (orderLines : σ → ℤ → List RawOrderLine) : Prop where
  reads : ∀ orderId s order,
    (gateway.getSaleOrder orderId s).1 = .ok order → order.lines = orderLines s orderId
  kept : KeptByPlanCalls gateway orderLines

/-- The invariant: plans that are not written by hand and not carried out are within the order. -/
structure ShipmentsSound {σ : Type} (orderLines : σ → ℤ → List RawOrderLine) (orderId : ℤ)
    (lines : List RawOrderLine) (w : PickedWorld σ) : Prop where
  sound : PlansSound orderId w
  order : orderLines w.odoo.1 orderId = lines
  pending : ∀ p ∈ w.plans, p.status = .proposed ∨ p.status = .accepted →
    ∀ lineId, (pickedQty p.allocPayload lineId : ℚ) ≤ orderedQty lines lineId
  within : ShipsWithin lines w.odoo.2

section Run

variable {σ : Type} {gateway : WarehouseGateway σ} {orderLines : σ → ℤ → List RawOrderLine}
  {orderId : ℤ} {lines : List RawOrderLine} {w : PickedWorld σ}

theorem shippedQty_append (calls : List PickingCall) (c : PickingCall) (lineId : ℤ) :
    shippedQty (calls ++ [c]) lineId =
      shippedQty calls lineId + pickedQty c.allocations lineId := by
  simp [shippedQty]

/-- What is shipped is what the APPLIED plans allocate. -/
theorem PlansSound.shippedQty_eq (sound : PlansSound orderId w) (lineId : ℤ) :
    shippedQty w.odoo.2 lineId = appliedQty w.plans lineId := by
  unfold shippedQty appliedQty
  rw [(sound.calls.map _).sum_eq, List.map_map]
  rfl

theorem appliedQty_nonneg (plans : List FulfillmentPlan) (lineId : ℤ) :
    0 ≤ appliedQty plans lineId := by
  refine List.sum_nonneg fun q mem => ?_
  obtain ⟨p, -, rfl⟩ := List.mem_map.mp mem
  exact p.pickedQty_nonneg lineId

/-- What no APPLIED plan ships is not shipped. -/
theorem appliedQty_eq_zero {plans : List FulfillmentPlan} {lineId : ℤ}
    (first : ¬ ProposedAgain plans lineId) : appliedQty plans lineId = 0 := by
  refine List.sum_eq_zero fun q mem => ?_
  obtain ⟨p, memP, rfl⟩ := List.mem_map.mp mem
  have nonneg := p.pickedQty_nonneg lineId
  have none : ¬ 0 < pickedQty p.allocPayload lineId := fun some => first ⟨p, memP, some⟩
  omega

/-- A plan carried out is found among the plans, ACCEPTED or OVERRIDDEN, and adds its call. -/
theorem Carries.calls {op : FulfillmentOp} {plan : FulfillmentPlan}
    (carries : Carries gateway w op plan) :
    plan ∈ w.plans ∧ plan.status ∈ [.accepted, .overridden] ∧
      ∃ pickingIds, (op.step (recordingPickings gateway) w).odoo.2 = w.odoo.2 ++
        [{ orderId := w.db.deal.odooSaleOrderId
           allocations := plan.allocPayload
           pickingIds }] := by
  obtain ⟨planId, actor, now, pickingIds, rfl, guarded, answered⟩ := carries
  obtain ⟨found, status⟩ := guardPlan_ok guarded
  refine ⟨List.mem_of_find?_eq_some found, status, pickingIds, ?_⟩
  change (perform (applyPlan (recordingPickings gateway) planId actor now) w).2.odoo.2 = _
  unfold perform applyPlan applyFulfillmentPlan
  dsimp only
  rw [guarded]
  dsimp only [recordingPickings]
  rcases called : gateway.applyFulfillmentPlan w.db.deal.odooSaleOrderId plan.allocPayload w.odoo.1
    with ⟨answer, odoo⟩
  rw [called] at answered
  cases answered
  rfl

/-- The pickings of a step stay within the order exactly when the plan it carries out does. -/
theorem ShipmentsSound.shipsWithin_iff (inv : ShipmentsSound orderLines orderId lines w)
    (op : FulfillmentOp) :
    ShipsWithin lines (op.step (recordingPickings gateway) w).odoo.2 ↔
      ∀ plan, Carries gateway w op plan → FitsOrder lines w plan := by
  constructor
  · intro within plan carries l mem
    obtain ⟨memPlan, status, pickingIds, calls⟩ := carries.calls
    have total := within l mem
    rw [calls, shippedQty_append, inv.sound.shippedQty_eq] at total
    have nonneg := Int.cast_nonneg (R := ℚ) (appliedQty_nonneg w.plans l.id)
    push_cast at total
    exact ⟨fun _ => by linarith, fun _ => by linarith⟩
  · intro fits l mem
    have unchanged : (op.step (recordingPickings gateway) w).odoo.2 = w.odoo.2 →
        (shippedQty (op.step (recordingPickings gateway) w).odoo.2 l.id : ℚ) ≤
          orderedQty lines l.id := by
      intro calls
      rw [calls]
      exact inv.within l mem
    cases op.planChange gateway w with
    | nothing plans nextId calls => exact unchanged calls
    | proposed strategy now saleOrder products infos availability read plans nextId calls =>
        exact unchanged calls
    | accepted planId actor now plan found status plans nextId calls => exact unchanged calls
    | overridden planId allocations actor reason now plan saleOrder profiles taken called read found
        status lines' plans nextId calls => exact unchanged calls
    | applied planId actor now plan pickingIds called guarded answered plans nextId calls =>
        obtain ⟨found, status⟩ := guardPlan_ok guarded
        obtain ⟨byHand, left⟩ :=
          fits plan ⟨planId, actor, now, pickingIds, called, guarded, answered⟩ l mem
        rw [calls, shippedQty_append, inv.sound.shippedQty_eq]
        by_cases again : ProposedAgain w.plans l.id
        · have rest := left again
          push_cast
          linarith
        · rw [appliedQty_eq_zero again, zero_add]
          simp only [List.mem_cons, List.not_mem_nil, or_false] at status
          rcases status with accepted | overridden
          · exact inv.pending plan (List.mem_of_find?_eq_some found) (.inr accepted) l.id
          · exact byHand overridden

/-- A plan that moves keeps within the order as long as it is pending. -/
theorem pending_moved {plans plans' earlier later : List FulfillmentPlan}
    {plan plan' : FulfillmentPlan}
    (pending : ∀ p ∈ plans, p.status = .proposed ∨ p.status = .accepted →
      ∀ lineId, (pickedQty p.allocPayload lineId : ℚ) ≤ orderedQty lines lineId)
    (split : plans = earlier ++ plan :: later) (split' : plans' = earlier ++ plan' :: later)
    (moved : plan'.status = .proposed ∨ plan'.status = .accepted →
      ∀ lineId, (pickedQty plan'.allocPayload lineId : ℚ) ≤ orderedQty lines lineId) :
    ∀ p ∈ plans', p.status = .proposed ∨ p.status = .accepted →
      ∀ lineId, (pickedQty p.allocPayload lineId : ℚ) ≤ orderedQty lines lineId := by
  intro p mem
  rw [split'] at mem
  rcases List.mem_cons.mp (List.perm_middle.mem_iff.mp mem) with rfl | other
  · exact moved
  · refine pending p ?_
    rw [split]
    exact List.perm_middle.mem_iff.mpr (List.mem_cons_of_mem _ other)

theorem ShipmentsSound.step (stays : OrderStays gateway orderLines)
    (inv : ShipmentsSound orderLines orderId lines w) (op : FulfillmentOp)
    (fits : ∀ plan, Carries gateway w op plan → FitsOrder lines w plan) :
    ShipmentsSound orderLines orderId lines (op.step (recordingPickings gateway) w) := by
  have calls : KeptByPlanCalls (recordingPickings gateway) fun s => orderLines s.1 := by
    refine ⟨fun id s => stays.kept.orders id s.1, fun ids s => stays.kept.products ids s.1,
      fun s => stays.kept.warehouses s.1, fun pids wids s => stays.kept.stock pids wids s.1,
      fun id allocations s => ?_⟩
    -- the record beside a picking call does not show its order
    have same := stays.kept.pickings id allocations s.1
    dsimp only [recordingPickings]
    rcases called : gateway.applyFulfillmentPlan id allocations s.1 with ⟨answer, odoo⟩
    rw [called] at same
    cases answer with
    | error e => exact same
    | ok pickingIds => exact same
  have kept := (op.step_kept calls w).2
  refine ⟨(plansSound_step gateway op inv.sound).1, ?_, ?_, (inv.shipsWithin_iff op).mpr fits⟩
  · exact (congrFun kept orderId).trans inv.order
  · have pending := inv.pending
    cases op.planChange gateway w with
    | nothing plans nextId calls =>
        rw [plans]
        exact pending
    | proposed strategy now saleOrder products infos availability read plans nextId calls =>
        rw [plans]
        intro p mem status
        rcases List.mem_append.mp mem with old | new
        · obtain ⟨q, memQ, rfl⟩ := List.mem_map.mp old
          by_cases proposed : q.status = .proposed
          · simp [supersedeProposed, proposed] at status
          · have same : supersedeProposed q = q := if_neg proposed
            rw [same] at status ⊢
            exact pending q memQ status
        · rw [List.mem_singleton.mp new]
          have shown := stays.reads _ _ _ read
          rw [inv.sound.order, inv.order] at shown
          rw [← shown]
          exact fun _ => proposedPlan_within ..
    | accepted planId actor now plan found status plans nextId calls =>
        obtain ⟨earlier, later, split, updated⟩ := inv.sound.updatePlan_eq found
        refine pending_moved pending split (plans.trans (updated _)) fun _ => ?_
        exact pending plan (List.mem_of_find?_eq_some found) (.inl status)
    | overridden planId allocations actor reason now plan saleOrder profiles taken called read
        found status lines' plans nextId calls =>
        obtain ⟨earlier, later, split, updated⟩ := inv.sound.updatePlan_eq found
        refine pending_moved pending split (plans.trans (updated _)) fun status => ?_
        simp [overriddenPlan] at status
    | applied planId actor now plan pickingIds called guarded answered plans nextId calls =>
        obtain ⟨earlier, later, split, updated⟩ :=
          inv.sound.updatePlan_eq (guardPlan_ok guarded).1
        refine pending_moved pending split (plans.trans (updated _)) fun status => ?_
        simp [appliedPlan] at status

end Run

/-- The pickings of an order are within it after every step of a run exactly when each step carries
out a plan that fits. -/
theorem shipsWithin_run_iff {σ : Type} {gateway : WarehouseGateway σ}
    {orderLines : σ → ℤ → List RawOrderLine} (stays : OrderStays gateway orderLines)
    (ops : List FulfillmentOp) (start : PickedWorld σ) (unplanned : start.plans = [])
    (unpicked : start.odoo.2 = []) :
    StaysWithin gateway (orderLines start.odoo.1 start.db.deal.odooSaleOrderId) ops start ↔
      ∀ t ∈ history (FulfillmentOp.step (recordingPickings gateway)) ops start,
        ∀ plan, Carries gateway t.1 t.2 plan →
          FitsOrder (orderLines start.odoo.1 start.db.deal.odooSaleOrderId) t.1 plan := by
  have sound : ShipmentsSound orderLines start.db.deal.odooSaleOrderId
      (orderLines start.odoo.1 start.db.deal.odooSaleOrderId) start := by
    refine ⟨plansSound_start unplanned unpicked, rfl, ?_, ?_⟩
    · simp [unplanned]
    · intro l _
      rw [unpicked]
      exact orderedQty_nonneg _ _
  refine @run_forall_iff _ _ _
    (ShipmentsSound orderLines start.db.deal.odooSaleOrderId
      (orderLines start.odoo.1 start.db.deal.odooSaleOrderId)) (fun _ _ => True) _ _ _ sound
    (fun now op _ inv => inv.shipsWithin_iff op)
    (fun now op _ inv fits => inv.step stays op fits) ops fun _ _ => trivial

/-! ## On the in-memory gateway -/

/-- The lines of an order as they are read; none when the order is not there. -/
def FakeBooks.orderLines (s : FakeBooks) (orderId : ℤ) : List RawOrderLine :=
  match (FakeOdoo.getSaleOrder orderId s.toFakeOdoo).1 with
  | .error _ => []
  | .ok order => order.lines

theorem FakeOdoo.rawLines_stock (s : FakeOdoo) (stock : AList fun _ : ℤ => AList fun _ : ℤ => ℤ)
    (lines : List FakeLine) :
    FakeOdoo.rawLines { s with stock } lines = s.rawLines lines := by
  induction lines with
  | nil => rfl
  | cons l ls ih =>
      unfold FakeOdoo.rawLines
      rw [ih]
      rfl

theorem fakeWarehouseGateway_orderStays : OrderStays fakeWarehouseGateway FakeBooks.orderLines where
  reads orderId s order read := by
    unfold FakeBooks.orderLines
    change (FakeOdoo.getSaleOrder orderId s.toFakeOdoo).1 = _ at read
    rw [read]
  kept := by
    have reading : ∀ orderId s, (FakeOdoo.getSaleOrder orderId s).2 = s := by
      intro orderId s
      unfold FakeOdoo.getSaleOrder
      split
      · rfl
      · split <;> rfl
    refine ⟨fun id s => ?_, fun _ _ => rfl, fun _ => rfl, fun _ _ _ => rfl, ?_⟩
    · change FakeBooks.orderLines { s with toFakeOdoo := _ } = _
      rw [reading]
    · refine FakeBooks.applyFulfillmentPlan_keeps (fun s stock => ?_) fun _ _ => rfl
      funext orderId
      unfold FakeBooks.orderLines FakeOdoo.getSaleOrder
      dsimp only
      cases s.orders.lookup orderId with
      | none => rfl
      | some order =>
          dsimp only
          rw [FakeOdoo.rawLines_stock]
          cases s.rawLines order.lines with
          | error e => rfl
          | ok lines => rfl

/-- The desks are shipped once. -/
theorem shipDesks_within :
    StaysWithin fakeWarehouseGateway (deskBooks.orderLines 101) shipDesks deskWorld := by
  refine (shipsWithin_run_iff fakeWarehouseGateway_orderStays shipDesks deskWorld rfl rfl).mpr ?_
  have accepted : ∀ p ∈ (run (FulfillmentOp.step (recordingPickings fakeWarehouseGateway))
      (shipDesks.take 2) deskWorld).plans, p.status = .accepted := by decide +kernel
  intro t mem plan carries
  simp only [shipDesks, history_cons, history_nil, List.mem_cons, List.not_mem_nil, or_false]
    at mem
  rcases mem with rfl | rfl | rfl
  · obtain ⟨_, _, _, _, called, -⟩ := carries
    cases called
  · obtain ⟨_, _, _, _, called, -⟩ := carries
    cases called
  · have status := accepted plan carries.calls.1
    refine fun l _ => ⟨fun overridden => ?_, fun ⟨earlier, applied, _⟩ => ?_⟩
    · rw [status] at overridden
      cases overridden
    · obtain ⟨memEarlier, isApplied⟩ := List.mem_filter.mp applied
      rw [accepted earlier memEarlier] at isApplied
      cases isApplied

/-- The backorder is consolidated although nothing was left to ship. -/
def shipDesksAgain : List FulfillmentOp :=
  shipDesks ++ [.consolidate warehouseRep 4, .accept 3 warehouseRep 5, .apply 3 warehouseRep 6]

/-- Ten of five desks are shipped. -/
theorem shipDesksAgain_overships :
    ¬ ShipsWithin (deskBooks.orderLines 101)
      (run (FulfillmentOp.step (recordingPickings fakeWarehouseGateway)) shipDesksAgain
        deskWorld).odoo.2 := by
  intro within
  have shipped : ∀ l ∈ deskBooks.orderLines 101, shippedQty
      (run (FulfillmentOp.step (recordingPickings fakeWarehouseGateway)) shipDesksAgain
        deskWorld).odoo.2 l.id = 10 ∧ orderedQty (deskBooks.orderLines 101) l.id = 5 := by
    decide +kernel
  cases lines : deskBooks.orderLines 101 with
  | nil => exact absurd lines (by decide +kernel)
  | cons l ls =>
      have mem : l ∈ deskBooks.orderLines 101 := by
        rw [lines]
        exact List.mem_cons_self
      have most := within l mem
      obtain ⟨ten, five⟩ := shipped l mem
      rw [ten, five] at most
      norm_num at most

end DealFlow
