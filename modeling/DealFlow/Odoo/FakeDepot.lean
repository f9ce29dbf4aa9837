import DealFlow.Lib.Dict
import DealFlow.Odoo.FakeBooks

/-!
# The pickings of the in-memory gateway

`FakeOdooGateway.apply_fulfillment_plan` with the pickings it writes: one for each warehouse of a
plan, with the lines that are taken there.  `DealFlow.Odoo.FakeBooks` has the call without its
pickings; `FakeDepot.applyFulfillmentPlan_books` says that the two leave the same stock.  The dates
of a picking, which nothing here reads, are left out.
-/

namespace DealFlow

open Lib

structure PickingLine where
  productId : ℤ
  qty : ℤ
  deriving DecidableEq, Repr

structure FakePicking where
  id : ℤ
  warehouseId : ℤ
  state : String := "assigned"
  lines : List PickingLine
  deriving DecidableEq, Repr

/-- The books and the pickings by order. -/
structure FakeDepot extends FakeBooks where
  pickings : Dict ℤ (List FakePicking) := .empty

namespace FakeDepot

/-- An allocation without a warehouse is passed over. -/
def groupAllocation (byWh : Dict ℤ (List AllocationPayload)) (a : AllocationPayload) :
    Dict ℤ (List AllocationPayload) :=
  if a.warehouseId = 0 then byWh else byWh.push a.warehouseId a

/-- The allocations grouped by warehouse. -/
def groupByWarehouse (allocations : List AllocationPayload) : Dict ℤ (List AllocationPayload) :=
  allocations.foldl groupAllocation .empty

def pickingOf (id : ℤ) (group : ℤ × List AllocationPayload) : FakePicking :=
  { id
    warehouseId := group.1
    lines := group.2.map fun a => { productId := a.productId, qty := a.qty } }

/-- Pick the allocations of a warehouse for an order. -/
def pick (orderId : ℤ) (s : FakeDepot) (group : ℤ × List AllocationPayload) : FakeDepot :=
  { toFakeBooks :=
      { group.2.foldl FakeBooks.deductStock s.toFakeBooks with pickingSeq := s.pickingSeq + 1 }
    pickings := s.pickings.push orderId (pickingOf (s.pickingSeq + 1) group) }

/-- Pick warehouse by warehouse; returns the ids of the pickings. -/
def pickAll (orderId : ℤ) : List (ℤ × List AllocationPayload) → FakeDepot → List ℤ × FakeDepot
  | [], s => ([], s)
  | group :: groups, s =>
      let rest := pickAll orderId groups (pick orderId s group)
      ((s.pickingSeq + 1) :: rest.1, rest.2)

def applyFulfillmentPlan (orderId : ℤ) (allocations : List AllocationPayload) :
    OdooCall FakeDepot (List ℤ) := fun s =>
  match s.orders.lookup orderId with
  | none => (.error (FakeOdoo.orderNotFound orderId), s)
  | some _ =>
      let picked := pickAll orderId (groupByWarehouse allocations).entries s
      (.ok picked.1, picked.2)

/-- A call that is about the books alone. -/
def onBooks {α : Type} (call : OdooCall FakeBooks α) : OdooCall FakeDepot α := fun s =>
  ((call s.toFakeBooks).1, { s with toFakeBooks := (call s.toFakeBooks).2 })

end FakeDepot

/-- The in-memory gateway with its books and pickings. -/
def fakeDepotGateway : BackOfficeGateway FakeDepot where
  getSaleOrder orderId := FakeDepot.onBooks (fakeBooksGateway.getSaleOrder orderId)
  getAvailability productIds := FakeDepot.onBooks (fakeBooksGateway.getAvailability productIds)
  applyLineChanges orderId changes :=
    FakeDepot.onBooks (fakeBooksGateway.applyLineChanges orderId changes)
  addLine orderId productId qty discount :=
    FakeDepot.onBooks (fakeBooksGateway.addLine orderId productId qty discount)
  setGovernance orderId approvalState riskScore locked :=
    FakeDepot.onBooks (fakeBooksGateway.setGovernance orderId approvalState riskScore locked)
  confirm orderId := FakeDepot.onBooks (fakeBooksGateway.confirm orderId)
  applyFulfillmentPlan := FakeDepot.applyFulfillmentPlan
  registerPayment invoiceId amount :=
    FakeDepot.onBooks (fakeBooksGateway.registerPayment invoiceId amount)

/-! ## What is taken from a cell -/

namespace FakeBooks

/-- What the stock table has of a product in a warehouse. -/
def cell (s : FakeBooks) (wid pid : ℤ) : Option ℤ :=
  (s.stock.lookup pid).bind (·.lookup wid)

/-- A quantity is taken, but no more than there is. -/
def clip (held qty : ℤ) : ℤ :=
  max 0 (held - qty)

end FakeBooks

/-- The quantities some allocations take from a cell. -/
def takenFrom (allocations : List AllocationPayload) (wid pid : ℤ) : List ℤ :=
  (allocations.filter fun a => a.warehouseId = wid ∧ a.productId = pid).map (·.qty)

section Cells

variable {s : FakeBooks} {wid pid : ℤ}

theorem cell_deductStock (a : AllocationPayload) :
    (FakeBooks.deductStock s a).cell wid pid =
      if a.warehouseId = wid ∧ a.productId = pid then (s.cell wid pid).map (FakeBooks.clip · a.qty)
      else s.cell wid pid := by
  unfold FakeBooks.deductStock
  cases row : s.stock.lookup a.productId with
  | none =>
      dsimp only
      by_cases here : a.warehouseId = wid ∧ a.productId = pid
      · have missing : s.cell wid pid = none := by
          unfold FakeBooks.cell
          rw [← here.2, row]
          rfl
        rw [if_pos here, missing]
        rfl
      · rw [if_neg here]
  | some row' =>
      dsimp only
      cases stocked : row'.lookup a.warehouseId with
      | none =>
          dsimp only
          by_cases here : a.warehouseId = wid ∧ a.productId = pid
          · have missing : s.cell wid pid = none := by
              unfold FakeBooks.cell
              rw [← here.2, row, ← here.1]
              exact stocked
            rw [if_pos here, missing]
            rfl
          · rw [if_neg here]
      | some held =>
          dsimp only
          unfold FakeBooks.cell
          by_cases product : pid = a.productId
          · subst product
            rw [AList.lookup_insert, row, Option.bind_some, Option.bind_some]
            by_cases warehouse : wid = a.warehouseId
            · subst warehouse
              rw [AList.lookup_insert, stocked, if_pos ⟨rfl, rfl⟩]
              rfl
            · rw [AList.lookup_insert_ne warehouse, if_neg fun same => warehouse same.1.symm]
          · rw [AList.lookup_insert_ne product, if_neg fun same => product same.2.symm]

theorem cell_foldl_deductStock (allocations : List AllocationPayload) :
    (allocations.foldl FakeBooks.deductStock s).cell wid pid =
      (s.cell wid pid).map fun held =>
        (takenFrom allocations wid pid).foldl FakeBooks.clip held := by
  induction allocations generalizing s with
  | nil => exact Option.map_id'.symm
  | cons a as ih =>
      rw [List.foldl_cons, ih, cell_deductStock]
      unfold takenFrom
      by_cases here : a.warehouseId = wid ∧ a.productId = pid
      · rw [if_pos here, List.filter_cons_of_pos (by simpa using here), List.map_cons,
          Option.map_map]
        rfl
      · rw [if_neg here, List.filter_cons_of_neg (by simpa using here)]

/-- Taking positive quantities one after the other is taking their sum. -/
theorem foldl_clip {qtys : List ℤ} (some : qtys ≠ []) (positive : ∀ q ∈ qtys, 0 < q)
    (held : ℤ) : qtys.foldl FakeBooks.clip held = max 0 (held - qtys.sum) := by
  induction qtys generalizing held with
  | nil => exact absurd rfl some
  | cons q qs ih =>
      obtain ⟨first, rest⟩ := List.forall_mem_cons.mp positive
      rw [List.foldl_cons, List.sum_cons]
      by_cases last : qs = []
      · rw [last, List.foldl_nil, List.sum_nil, add_zero]
        rfl
      · rw [ih last rest]
        have total : 0 < qs.sum := List.sum_pos qs rest last
        unfold FakeBooks.clip
        omega

end Cells

/-! ## Groups -/

section Groups

variable {allocations : List AllocationPayload}

theorem groupByWarehouse_flatten (allocations : List AllocationPayload) :
    (FakeDepot.groupByWarehouse allocations).flatten.Perm
      (allocations.filter (·.warehouseId ≠ 0)) := by
  unfold FakeDepot.groupByWarehouse
  induction allocations using List.reverseRecOn with
  | nil => exact .nil
  | append_singleton as a ih =>
      rw [List.foldl_append, List.foldl_cons, List.foldl_nil, List.filter_append]
      unfold FakeDepot.groupAllocation
      split
      · next passed =>
          rw [List.filter_cons_of_neg (by simpa using passed), List.filter_nil, List.append_nil]
          exact ih
      · next picked =>
          rw [List.filter_cons_of_pos (by simpa using picked), List.filter_nil]
          exact (Dict.flatten_push _ _ _).trans (ih.append_right _)

/-- A group is of one warehouse. -/
theorem groupByWarehouse_warehouse (allocations : List AllocationPayload) :
    ∀ group ∈ (FakeDepot.groupByWarehouse allocations).entries,
      ∀ a ∈ group.2, a.warehouseId = group.1 := by
  unfold FakeDepot.groupByWarehouse
  induction allocations using List.reverseRecOn with
  | nil => exact fun _ mem => absurd mem List.not_mem_nil
  | append_singleton as a ih =>
      rw [List.foldl_append, List.foldl_cons, List.foldl_nil]
      unfold FakeDepot.groupAllocation
      split
      · exact ih
      · exact Dict.push_forall
          (P := fun (wid : ℤ) (b : AllocationPayload) => b.warehouseId = wid) ih rfl

theorem takenFrom_perm {as bs : List AllocationPayload} (perm : as.Perm bs) (wid pid : ℤ) :
    (takenFrom as wid pid).Perm (takenFrom bs wid pid) :=
  (perm.filter _).map _

/-- Only allocations without a warehouse are not picked. -/
theorem takenFrom_picked {wid : ℤ} (warehouse : wid ≠ 0) (pid : ℤ) :
    takenFrom (allocations.filter (·.warehouseId ≠ 0)) wid pid = takenFrom allocations wid pid := by
  unfold takenFrom
  rw [List.filter_filter]
  refine congrArg _ (List.filter_congr fun a _ => ?_)
  by_cases here : a.warehouseId = wid
  · simp [here, warehouse]
  · simp [here]

end Groups

/-! ## Picking all of a plan -/

section PickAll

variable {allocations : List AllocationPayload} {wid pid : ℤ}

theorem takenFrom_append (as bs : List AllocationPayload) (wid pid : ℤ) :
    takenFrom (as ++ bs) wid pid = takenFrom as wid pid ++ takenFrom bs wid pid := by
  unfold takenFrom
  rw [List.filter_append, List.map_append]

theorem takenFrom_positive (positive : ∀ a ∈ allocations, 0 < a.qty) :
    ∀ q ∈ takenFrom allocations wid pid, 0 < q := by
  intro q mem
  obtain ⟨a, memA, rfl⟩ := List.mem_map.mp mem
  exact positive a (List.mem_of_mem_filter memA)

theorem cell_pick (orderId : ℤ) (s : FakeDepot) (group : ℤ × List AllocationPayload) :
    (FakeDepot.pick orderId s group).toFakeBooks.cell wid pid =
      (s.toFakeBooks.cell wid pid).map fun held =>
        (takenFrom group.2 wid pid).foldl FakeBooks.clip held :=
  cell_foldl_deductStock group.2

theorem cell_pickAll (orderId : ℤ) (groups : List (ℤ × List AllocationPayload)) (s : FakeDepot) :
    (FakeDepot.pickAll orderId groups s).2.toFakeBooks.cell wid pid =
      (s.toFakeBooks.cell wid pid).map fun held =>
        (takenFrom (groups.flatMap Prod.snd) wid pid).foldl FakeBooks.clip held := by
  induction groups generalizing s with
  | nil => exact Option.map_id'.symm
  | cons group groups ih =>
      unfold FakeDepot.pickAll
      dsimp only
      rw [ih, cell_pick, List.flatMap_cons, takenFrom_append, Option.map_map]
      simp only [List.foldl_append]
      rfl

/-- What the groups of a plan take from a cell. -/
theorem takenFrom_groups (allocations : List AllocationPayload) (wid pid : ℤ) :
    (takenFrom ((FakeDepot.groupByWarehouse allocations).entries.flatMap Prod.snd) wid pid).Perm
      (takenFrom (allocations.filter (·.warehouseId ≠ 0)) wid pid) :=
  takenFrom_perm (groupByWarehouse_flatten allocations) wid pid

/-- The order in which positive quantities are taken does not matter. -/
theorem foldl_clip_perm {qtys qtys' : List ℤ} (perm : qtys.Perm qtys')
    (positive : ∀ q ∈ qtys, 0 < q) (held : ℤ) :
    qtys.foldl FakeBooks.clip held = qtys'.foldl FakeBooks.clip held := by
  by_cases none : qtys = []
  · subst none
    rw [List.nil_perm.mp perm]
  · have some : qtys' ≠ [] := by
      rintro rfl
      exact none (List.perm_nil.mp perm)
    rw [foldl_clip none positive, perm.sum_eq,
      foldl_clip some fun q mem => positive q (perm.mem_iff.mpr mem)]

/-- The stock after a plan is the one of the books without pickings. -/
theorem FakeDepot.applyFulfillmentPlan_books (positive : ∀ a ∈ allocations, 0 < a.qty)
    (orderId : ℤ) (s : FakeDepot) :
    (FakeDepot.applyFulfillmentPlan orderId allocations s).2.toFakeBooks.cell wid pid =
      (FakeBooks.applyFulfillmentPlan orderId allocations s.toFakeBooks).2.cell wid pid := by
  unfold FakeDepot.applyFulfillmentPlan FakeBooks.applyFulfillmentPlan
  cases s.orders.lookup orderId with
  | none => rfl
  | some order =>
      refine (cell_pickAll orderId _ s).trans (Eq.trans ?_
        (cell_foldl_deductStock (allocations.filter (·.warehouseId ≠ 0))).symm)
      have picked := takenFrom_groups allocations wid pid
      have taken : ∀ q ∈ takenFrom (allocations.filter (·.warehouseId ≠ 0)) wid pid, 0 < q :=
        takenFrom_positive fun a mem => positive a (List.mem_of_mem_filter mem)
      refine congrArg (fun f => Option.map f _) (funext fun held => ?_)
      exact foldl_clip_perm picked (fun q mem => taken q (picked.mem_iff.mp mem)) held

end PickAll

end DealFlow
