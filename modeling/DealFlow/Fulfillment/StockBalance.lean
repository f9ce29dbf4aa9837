import DealFlow.Fulfillment.Shipments
import DealFlow.Odoo.FakeDepot

/-!
# Stock and pickings

Applying a plan on the in-memory gateway takes from each cell of the stock what it puts on pickings
there, as long as the cell holds it.  Where the plan asks for more than a cell has, because the
stock went down since the plan was made, the cell is clipped at zero while the picking has all of
it.  So the two balance exactly for the plans that the stock covers (`shipsFromStock_iff`).
-/

namespace DealFlow

open Lib

/-- What is held of a product in a warehouse; a cell that is not there holds nothing. -/
def FakeDepot.held (s : FakeDepot) (wid pid : ℤ) : ℤ :=
  (s.toFakeBooks.cell wid pid).getD 0

def FakePicking.qtyOf (p : FakePicking) (pid : ℤ) : ℤ :=
  ((p.lines.filter (·.productId = pid)).map (·.qty)).sum

/-- The quantity of a product on all pickings from a warehouse. -/
def pickedFrom (pickings : List FakePicking) (wid pid : ℤ) : ℤ :=
  ((pickings.filter (·.warehouseId = wid)).map (·.qtyOf pid)).sum

def FakeDepot.onPickings (s : FakeDepot) (wid pid : ℤ) : ℤ :=
  pickedFrom s.pickings.flatten wid pid

/-- The decrease in stock is what is put on pickings, and stock stays non-negative. -/
def StockBalances (before after : FakeDepot) : Prop :=
  ∀ wid pid,
    before.held wid pid - after.held wid pid =
        after.onPickings wid pid - before.onPickings wid pid ∧
      (0 ≤ before.held wid pid → 0 ≤ after.held wid pid)

/-- Applying the plan ships what is there, or fails with stock and pickings unchanged. -/
def ShipsFromStock (planId : ℕ) (actor : DealflowUser) (now : Timestamp)
    (w : DealWorld FakeDepot) : Prop :=
  match applyFulfillmentPlan fakeDepotGateway planId actor now w with
  | (.ok _, w') => StockBalances w.odoo w'.odoo
  | (.error _, w') => w'.odoo.stock = w.odoo.stock ∧ w'.odoo.pickings = w.odoo.pickings

/-- What a plan draws on a cell. -/
def FulfillmentPlan.drawn (plan : FulfillmentPlan) (wid pid : ℤ) : ℤ :=
  (takenFrom plan.allocPayload wid pid).sum

/-- The stock holds what the plan draws on each cell. -/
def CoveredByStock (s : FakeDepot) (plan : FulfillmentPlan) : Prop :=
  ∀ wid pid, wid ≠ 0 → 0 < plan.drawn wid pid → plan.drawn wid pid ≤ s.held wid pid

/-! ## Pickings -/

section Pickings

variable {wid pid : ℤ}

theorem pickedFrom_perm {ps qs : List FakePicking} (perm : ps.Perm qs) (wid pid : ℤ) :
    pickedFrom ps wid pid = pickedFrom qs wid pid :=
  ((perm.filter _).map _).sum_eq

theorem pickedFrom_append (ps qs : List FakePicking) (wid pid : ℤ) :
    pickedFrom (ps ++ qs) wid pid = pickedFrom ps wid pid + pickedFrom qs wid pid := by
  unfold pickedFrom
  rw [List.filter_append, List.map_append, List.sum_append]

/-- A picking has what the allocations of its warehouse take there. -/
theorem pickedFrom_pickingOf (id : ℤ) {group : ℤ × List AllocationPayload}
    (warehouse : ∀ a ∈ group.2, a.warehouseId = group.1) :
    pickedFrom [FakeDepot.pickingOf id group] wid pid = (takenFrom group.2 wid pid).sum := by
  have shipsFrom : (FakeDepot.pickingOf id group).warehouseId = group.1 := rfl
  unfold pickedFrom takenFrom
  by_cases here : group.1 = wid
  · have same : group.2.filter (fun a => a.warehouseId = wid ∧ a.productId = pid) =
        group.2.filter (·.productId = pid) := by
      refine List.filter_congr fun a mem => ?_
      simp [warehouse a mem, here]
    rw [same, List.filter_cons_of_pos (by simpa [shipsFrom] using here)]
    simp [FakeDepot.pickingOf, FakePicking.qtyOf, List.filter_map, Function.comp_def]
  · have none : group.2.filter (fun a => a.warehouseId = wid ∧ a.productId = pid) = [] := by
      refine List.filter_eq_nil_iff.mpr fun a mem taken => here ?_
      rw [← warehouse a mem]
      exact (of_decide_eq_true taken).1
    rw [none, List.filter_cons_of_neg (by simpa [shipsFrom] using here)]
    rfl

theorem onPickings_pick (orderId : ℤ) (s : FakeDepot) {group : ℤ × List AllocationPayload}
    (warehouse : ∀ a ∈ group.2, a.warehouseId = group.1) :
    (FakeDepot.pick orderId s group).onPickings wid pid =
      s.onPickings wid pid + (takenFrom group.2 wid pid).sum := by
  unfold FakeDepot.onPickings FakeDepot.pick
  rw [pickedFrom_perm (Dict.flatten_push _ _ _), pickedFrom_append,
    pickedFrom_pickingOf _ warehouse]

theorem onPickings_pickAll (orderId : ℤ) {groups : List (ℤ × List AllocationPayload)}
    (warehouse : ∀ group ∈ groups, ∀ a ∈ group.2, a.warehouseId = group.1) (s : FakeDepot) :
    (FakeDepot.pickAll orderId groups s).2.onPickings wid pid =
      s.onPickings wid pid + (takenFrom (groups.flatMap Prod.snd) wid pid).sum := by
  induction groups generalizing s with
  | nil => exact (add_zero _).symm
  | cons group groups ih =>
      obtain ⟨first, rest⟩ := List.forall_mem_cons.mp warehouse
      unfold FakeDepot.pickAll
      dsimp only
      rw [ih rest, onPickings_pick _ _ first, List.flatMap_cons, takenFrom_append, List.sum_append,
        add_assoc]

end Pickings

/-! ## One application -/

section Applied

variable {orderId : ℤ} {plan : FulfillmentPlan} {s : FakeDepot}

/-- The stock and the pickings after a plan. -/
def pickedDepot (orderId : ℤ) (plan : FulfillmentPlan) (s : FakeDepot) : FakeDepot :=
  (FakeDepot.pickAll orderId (FakeDepot.groupByWarehouse plan.allocPayload).entries s).2

theorem drawn_nonneg (plan : FulfillmentPlan) (wid pid : ℤ) : 0 ≤ plan.drawn wid pid :=
  List.sum_nonneg fun q mem =>
    (takenFrom_positive (FulfillmentPlan.allocPayload_positive plan) q mem).le

/-- What is picked in a warehouse is what the plan draws there; in warehouse 0 it is nothing. -/
theorem sum_takenFrom_groups (plan : FulfillmentPlan) (wid pid : ℤ) :
    (takenFrom ((FakeDepot.groupByWarehouse plan.allocPayload).entries.flatMap Prod.snd)
      wid pid).sum = if wid = 0 then 0 else plan.drawn wid pid := by
  rw [(takenFrom_groups _ wid pid).sum_eq]
  split
  · next zero =>
      unfold takenFrom
      rw [List.filter_filter, List.filter_eq_nil_iff.mpr, List.map_nil, List.sum_nil]
      intro a _ taken
      simp [zero] at taken
      exact taken.2 taken.1.1
  · next warehouse => rw [takenFrom_picked warehouse, FulfillmentPlan.drawn]

theorem onPickings_pickedDepot (orderId : ℤ) (plan : FulfillmentPlan) (s : FakeDepot)
    (wid pid : ℤ) :
    (pickedDepot orderId plan s).onPickings wid pid =
      s.onPickings wid pid + if wid = 0 then 0 else plan.drawn wid pid := by
  unfold pickedDepot
  rw [onPickings_pickAll _ (groupByWarehouse_warehouse plan.allocPayload), sum_takenFrom_groups]

/-- A cell that is drawn on goes down to zero at most. -/
theorem held_pickedDepot (orderId : ℤ) (plan : FulfillmentPlan) (s : FakeDepot) (wid pid : ℤ) :
    (pickedDepot orderId plan s).held wid pid =
      if wid = 0 ∨ plan.drawn wid pid = 0 ∨ s.toFakeBooks.cell wid pid = none then
        s.held wid pid
      else max 0 (s.held wid pid - plan.drawn wid pid) := by
  have total := sum_takenFrom_groups plan wid pid
  have positive : ∀ q ∈ takenFrom ((FakeDepot.groupByWarehouse plan.allocPayload).entries.flatMap
      Prod.snd) wid pid, 0 < q :=
    takenFrom_positive fun a mem => plan.allocPayload_positive a
      (List.mem_of_mem_filter ((groupByWarehouse_flatten plan.allocPayload).mem_iff.mp mem))
  unfold FakeDepot.held pickedDepot
  rw [cell_pickAll]
  cases stocked : s.toFakeBooks.cell wid pid with
  | none => simp
  | some held =>
      rw [Option.map_some, Option.getD_some, Option.getD_some]
      by_cases none : takenFrom ((FakeDepot.groupByWarehouse plan.allocPayload).entries.flatMap
          Prod.snd) wid pid = []
      · rw [none, List.sum_nil] at total
        have undrawn : wid = 0 ∨ plan.drawn wid pid = 0 := by
          by_cases zero : wid = 0
          · exact .inl zero
          · exact .inr ((if_neg zero).symm.trans total.symm)
        rw [none, List.foldl_nil, if_pos (undrawn.imp_right .inl)]
      · have some := List.sum_pos _ positive none
        rw [foldl_clip none positive, total]
        split at total
        · next zero => omega
        · next warehouse =>
            rw [if_neg warehouse, if_neg]
            rintro (zero | undrawn | missing)
            · exact warehouse zero
            · omega
            · cases missing

/-- Nothing is held in a cell that is not there. -/
theorem held_eq_zero {s : FakeDepot} {wid pid : ℤ} (missing : s.toFakeBooks.cell wid pid = none) :
    s.held wid pid = 0 := by
  rw [FakeDepot.held, missing, Option.getD_none]

theorem stockBalances_pickedDepot_iff (orderId : ℤ) (plan : FulfillmentPlan) (s : FakeDepot) :
    StockBalances s (pickedDepot orderId plan s) ↔ CoveredByStock s plan := by
  refine forall_congr' fun wid => forall_congr' fun pid => ?_
  rw [held_pickedDepot, onPickings_pickedDepot]
  have nonneg := drawn_nonneg plan wid pid
  by_cases zero : wid = 0
  · simp [zero]
  · rw [if_neg zero]
    split
    · next kept =>
        -- nothing is taken, whether nothing is drawn or there is nothing to draw on
        rcases kept with warehouse | undrawn | missing
        · exact absurd warehouse zero
        · omega
        · rw [held_eq_zero missing]
          omega
    · omega

end Applied

/-- Applying a plan ships what is there exactly when the stock holds what the plan draws. -/
theorem shipsFromStock_iff (planId : ℕ) (actor : DealflowUser) (now : Timestamp)
    (w : DealWorld FakeDepot) :
    ShipsFromStock planId actor now w ↔
      ∀ plan, guardPlan w planId = .ok plan →
        (w.odoo.orders.lookup w.db.deal.odooSaleOrderId).isSome → CoveredByStock w.odoo plan := by
  unfold ShipsFromStock applyFulfillmentPlan
  cases guarded : guardPlan w planId with
  | error e => simp
  | ok plan =>
      dsimp only [fakeDepotGateway, FakeDepot.applyFulfillmentPlan]
      cases w.odoo.orders.lookup w.db.deal.odooSaleOrderId with
      | none => simp
      | some order =>
          refine (stockBalances_pickedDepot_iff w.db.deal.odooSaleOrderId plan w.odoo).trans ?_
          constructor
          · intro covered plan' same _
            cases same
            exact covered
          · intro covered
            exact covered plan rfl rfl

/-! ## A plan that went stale -/

/-- The books of the desks with a stock. -/
def deskDepot (stock : ℤ) : FakeDepot :=
  { deskBooks with stock := AList.insert 103 (AList.insert 1 stock ∅) ∅ }

/-- Five desks are to be taken from warehouse 1 by an accepted plan. -/
def acceptedDesks (stock : ℤ) : DealWorld FakeDepot :=
  { db := deskWorld.db
    odoo := deskDepot stock
    plans :=
      [{ id := 2
         status := .accepted
         estimatedShipments := 1
         estimatedShippingCost := 10
         strategy := "EXHAUSTIVE"
         generatedAt := 1
         lines :=
           [{ odooSaleOrderLineId := 1001, odooProductId := 103, odooWarehouseId := some 1
              requestedQty := 5, allocatedQty := 5, backorderQty := 0, shippingCost := 10 }] }] }

/-- Two desks are left of the twenty there were; five are put on a picking. -/
theorem acceptedDesks_unbalanced : ¬ ShipsFromStock 2 warehouseRep 3 (acceptedDesks 2) := by
  intro ships
  have balance := (ships 1 103).1
  revert balance
  decide +kernel

end DealFlow
