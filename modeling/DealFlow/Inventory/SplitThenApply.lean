import DealFlow.Inventory.Overselling
import DealFlow.Lib.Fill
import Mathlib.Algebra.Order.Group.MinMax

/-!
# A split of the stock can be applied

A quantity is split over the warehouses as a row of stores fills a demand (`splitLoop_eq_fill`), the
warehouses standing in routing order.  The split adds up and takes off in doubles; as long as the
stock is light enough for doubles to tell multiples of 0.0001 apart, its rounding and its tolerances
make up for that, except in one place: a request for all there is is refused where the doubles add
up to less.  Every other plan comes out exactly where ids and quantity are positive and the stock is
enough, and applying it to the same stock passes every check (`calculateFulfillmentSplit_applies`).
-/

namespace DealFlow.Addon

open Lib

def splitItem (productId : ℤ) (given : WarehouseStock × ℚ) : FulfillmentSplitItem :=
  { productId
    warehouseId := given.1.warehouseId
    warehouseName := given.1.warehouseName
    quantity := given.2 }

/-- What each warehouse gives to a quantity. -/
def givenBy (stocks : List WarehouseStock) (requestedQty : ℚ) : List (WarehouseStock × ℚ) :=
  stocks.zip (fill (stocks.map (·.qtyAvailable)) requestedQty)

/-! ## The loop -/

section Loop

variable {productId : ℤ} {stocks : List WarehouseStock} {requestedQty : ℚ}

theorem OnGrid.min {x y : ℚ} (gridX : OnGrid x) (gridY : OnGrid y) : OnGrid (min x y) := by
  rcases min_choice x y with same | same
  · rwa [same]
  · rwa [same]

theorem onGrid_roundTo (x : ℚ) : OnGrid (roundTo 4 x) :=
  ⟨roundHalfEven (x * 10 ^ 4), by
    unfold roundTo
    field_simp⟩

/-- Multiples of 0.0001 that differ are as far apart. -/
theorem OnGrid.add_le {x y : ℚ} (gridX : OnGrid x) (gridY : OnGrid y) (less : x < y) :
    x + 1 / 10000 ≤ y := by
  obtain ⟨m, hm⟩ := gridX
  obtain ⟨n, hn⟩ := gridY
  have apart : (m : ℚ) < n := by linarith
  have next : (m : ℚ) + 1 ≤ n := by exact_mod_cast Int.cast_lt.mp apart
  linarith

theorem onGrid_zero : OnGrid 0 :=
  ⟨0, by norm_num⟩

theorem onGrid_sum {xs : List ℚ} (grid : ∀ x ∈ xs, OnGrid x) : OnGrid xs.sum := by
  induction xs with
  | nil => exact onGrid_zero
  | cons x xs ih =>
      obtain ⟨first, rest⟩ := List.forall_mem_cons.mp grid
      exact first.add (ih rest)

/-- Rounding finds the multiple of 0.0001 that is meant. -/
theorem OnGrid.roundTo_near {x y : ℚ} (grid : OnGrid y) (near : |x - y| < 1 / 20000) :
    roundTo 4 x = y := by
  obtain ⟨n, hn⟩ := grid
  have nearest : roundHalfEven (x * 10 ^ 4) = n := by
    refine roundHalfEven_eq_iff.mpr (.inl ?_)
    have scale : |(10 : ℚ) ^ 4| = 10 ^ 4 := abs_of_pos (by norm_num)
    rw [← hn, ← sub_mul, abs_mul, scale]
    linarith
  unfold roundTo
  rw [nearest, ← hn, mul_div_cancel_right₀ _ (by norm_num)]

/-- The tolerance of the loop, as a double. -/
theorem tolerance_bounds :
    9 / 10 ^ 7 ≤ float64 (1 / 1000000) ∧ float64 (1 / 1000000) ≤ 1 / 10 ^ 5 := by
  decide +kernel

theorem givenBy_cons (wh : WarehouseStock) (stocks : List WarehouseStock) (requestedQty : ℚ) :
    givenBy (wh :: stocks) requestedQty =
      (wh, min wh.qtyAvailable requestedQty) ::
        givenBy stocks (requestedQty - min wh.qtyAvailable requestedQty) := rfl

/-- The allocations are what the warehouses give, where they give anything: what remains in doubles
stays near what remains. -/
theorem splitLoop_eq_fill (productId : ℤ) {bound error : ℚ} (nonneg : 0 ≤ error)
    (near : ∀ x, |x| ≤ bound → |float64 x - x| ≤ error)
    (grid : ∀ wh ∈ stocks, OnGrid wh.qtyAvailable)
    (stocked : ∀ wh ∈ stocks, 0 ≤ wh.qtyAvailable ∧ wh.qtyAvailable ≤ bound)
    (gridQty : OnGrid requestedQty) (positive : 0 < requestedQty)
    (size : requestedQty + 1 / 10 ^ 6 ≤ bound) {remainingQty : ℚ}
    (left : |remainingQty - requestedQty| + 2 * stocks.length * error ≤ 9 / 10 ^ 7) :
    splitLoop productId stocks remainingQty =
      ((givenBy stocks requestedQty).filter (0 < ·.2)).map (splitItem productId) := by
  induction stocks generalizing requestedQty remainingQty with
  | nil => rfl
  | cons wh stocks ih =>
      obtain ⟨gridHere, gridRest⟩ := List.forall_mem_cons.mp grid
      obtain ⟨⟨here, small⟩, rest⟩ := List.forall_mem_cons.mp stocked
      have least := onGrid_zero.add_le gridQty positive
      have many : (0 : ℚ) ≤ 2 * stocks.length * error := by positivity
      rw [List.length_cons, Nat.cast_succ] at left
      rw [givenBy_cons]
      unfold splitLoop
      dsimp only
      rcases here.eq_or_lt with none | some
      · have empty : float64 wh.qtyAvailable = 0 := none ▸ rounds_float64.zero
        rw [if_pos empty.le, ← none, min_eq_left positive.le, sub_zero,
          List.filter_cons_of_neg (by simp)]
        exact ih gridRest rest gridQty positive size (by linarith)
      · have leastHere := onGrid_zero.add_le gridHere some
        have available := near wh.qtyAvailable (by rwa [abs_of_nonneg here])
        have off := abs_nonneg (remainingQty - requestedQty)
        obtain ⟨low, high⟩ := abs_le.mp (le_refl |remainingQty - requestedQty|)
        obtain ⟨lowHere, highHere⟩ := abs_le.mp available
        have takes : 0 < min wh.qtyAvailable requestedQty := lt_min some positive
        have gridTaken := gridHere.min gridQty
        have taken : roundTo 4 (min (float64 wh.qtyAvailable) remainingQty) =
            min wh.qtyAvailable requestedQty := by
          refine gridTaken.roundTo_near ((abs_min_sub_min_le_max _ _ _ _).trans_lt ?_)
          exact max_lt (by linarith) (by linarith)
        rw [if_neg (by linarith), taken, List.filter_cons_of_pos (by simpa using takes),
          List.map_cons]
        refine congrArg₂ _ rfl ?_
        -- what is left is no more than what was left, so its double is near
        have after : ∀ take, 0 < take → take ≤ remainingQty →
            |float64 (remainingQty - take) - (remainingQty - take)| ≤ error := by
          intro take pos le
          refine near _ ?_
          rw [abs_of_nonneg (sub_nonneg.mpr le)]
          linarith
        rcases le_or_gt requestedQty wh.qtyAvailable with served | more
        · -- nothing remains, and the later warehouses give nothing
          have rounded := abs_le.mp
            (after (min (float64 wh.qtyAvailable) remainingQty)
              (lt_min (by linarith) (by linarith)) (min_le_right _ _))
          have last : remainingQty - min (float64 wh.qtyAvailable) remainingQty ≤
              |remainingQty - requestedQty| + error := by
            rcases min_choice (float64 wh.qtyAvailable) remainingQty with same | same
            · rw [same]
              linarith
            · rw [same]
              linarith
          have done : float64 (remainingQty - min (float64 wh.qtyAvailable) remainingQty) ≤
              float64 (1 / 1000000) := by
            linarith [tolerance_bounds.1, rounded.2]
          rw [if_pos done, min_eq_right served, sub_self, List.filter_eq_nil_iff.mpr, List.map_nil]
          intro given mem gives
          have capacities : ∀ c ∈ stocks.map (·.qtyAvailable), 0 ≤ c :=
            List.forall_mem_map.mpr fun wh mem => (rest wh mem).1
          have zero := fill_zero capacities given.2 (List.of_mem_zip mem).2
          rw [zero] at gives
          simp at gives
        · have apart := gridHere.add_le gridQty more
          have all : min (float64 wh.qtyAvailable) remainingQty = float64 wh.qtyAvailable :=
            min_eq_left (by linarith)
          have rounded := abs_le.mp (after (float64 wh.qtyAvailable) (by linarith) (by linarith))
          have goesOn : ¬ float64 (remainingQty - float64 wh.qtyAvailable) ≤
              float64 (1 / 1000000) := by
            rw [not_le]
            linarith [tolerance_bounds.2, rounded.1]
          rw [all, if_neg goesOn, min_eq_left more.le]
          refine ih gridRest rest (gridQty.sub gridHere) (sub_pos.mpr more) (by linarith) ?_
          have still : |float64 (remainingQty - float64 wh.qtyAvailable) -
              (requestedQty - wh.qtyAvailable)| ≤ |remainingQty - requestedQty| + 2 * error :=
            abs_le.mpr ⟨by linarith, by linarith⟩
          linarith

/-- The quantities are rounded as they are taken. -/
theorem splitLoop_grid (productId : ℤ) (stocks : List WarehouseStock) (requestedQty : ℚ) :
    ∀ a ∈ splitLoop productId stocks requestedQty, OnGrid a.quantity := by
  induction stocks generalizing requestedQty with
  | nil => exact List.forall_mem_nil _
  | cons wh stocks ih =>
      unfold splitLoop
      dsimp only
      split
      · exact ih requestedQty
      · refine List.forall_mem_cons.mpr ⟨onGrid_roundTo _, ?_⟩
        split
        · exact List.forall_mem_nil _
        · exact ih _

/-- Where nothing is negative, what is not positive adds nothing. -/
theorem sum_filter_positive {α : Type*} {f : α → ℚ} {xs : List α} (nonneg : ∀ x ∈ xs, 0 ≤ f x) :
    ((xs.filter (0 < f ·)).map f).sum = (xs.map f).sum := by
  induction xs with
  | nil => rfl
  | cons x xs ih =>
      obtain ⟨first, rest⟩ := List.forall_mem_cons.mp nonneg
      rcases first.lt_or_eq with positive | zero
      · rw [List.filter_cons_of_pos (by simpa using positive), List.map_cons, List.map_cons,
          List.sum_cons, List.sum_cons, ih rest]
      · rw [List.filter_cons_of_neg (by simp [← zero]), List.map_cons, List.sum_cons, ih rest,
          ← zero, zero_add]

theorem givenBy_snd (stocks : List WarehouseStock) (requestedQty : ℚ) :
    (givenBy stocks requestedQty).map Prod.snd =
      fill (stocks.map (·.qtyAvailable)) requestedQty := by
  refine List.map_snd_zip ?_
  rw [length_fill, List.length_map]

theorem sum_givenBy (stocked : ∀ wh ∈ stocks, 0 ≤ wh.qtyAvailable) (nonneg : 0 ≤ requestedQty)
    (enough : requestedQty ≤ (stocks.map (·.qtyAvailable)).sum) :
    ((givenBy stocks requestedQty).map Prod.snd).sum = requestedQty := by
  have balance := sum_fill_add_unmet (stocks.map (·.qtyAvailable)) requestedQty
  rw [unmet_eq (List.forall_mem_map.mpr stocked) nonneg, max_eq_left (sub_nonpos.mpr enough),
    add_zero] at balance
  rw [givenBy_snd, balance]

theorem givenBy_le {given : WarehouseStock × ℚ} (mem : given ∈ givenBy stocks requestedQty) :
    given.2 ≤ given.1.qtyAvailable := by
  have zipped : (given.1.qtyAvailable, given.2) ∈
      (stocks.map (·.qtyAvailable)).zip (fill (stocks.map (·.qtyAvailable)) requestedQty) := by
    rw [List.zip_map_left]
    exact List.mem_map.mpr ⟨given, mem, rfl⟩
  exact zip_fill_le _ _ _ zipped

theorem givenBy_exhausts (stocked : ∀ wh ∈ stocks, 0 ≤ wh.qtyAvailable) (requestedQty : ℚ) :
    (givenBy stocks requestedQty).Pairwise fun earlier later =>
      0 < later.2 → earlier.2 = earlier.1.qtyAvailable := by
  have pairs := zip_fill_exhausts (List.forall_mem_map.mpr stocked) requestedQty
  rw [List.zip_map_left, List.pairwise_map] at pairs
  exact pairs

end Loop

/-! ## The store -/

/-- Nothing negative is available, and the warehouses have distinct positive ids. -/
structure InventoryAdapter.Stocked (s : InventoryAdapter) : Prop where
  nonneg : ∀ productId warehouseId, 0 ≤ (s.levelsAt productId warehouseId).qtyAvailable
  distinct : (s.warehouses.map (·.warehouseId)).Nodup
  positive : ∀ w ∈ s.warehouses, 0 < w.warehouseId

/-- The warehouses in routing order. -/
def InventoryAdapter.routed (s : InventoryAdapter) : List WarehouseData :=
  s.warehouses.insertionSort fun v w => routingKey v ≤ routingKey w

/-- What the store has of a product in a warehouse. -/
def InventoryAdapter.stockOf (s : InventoryAdapter) (productId : ℤ) (w : WarehouseData) :
    WarehouseStock :=
  { warehouseId := w.warehouseId
    warehouseName := w.warehouseName
    qtyAvailable := (s.levelsAt productId w.warehouseId).qtyAvailable
    qtyReserved := (s.levelsAt productId w.warehouseId).qtyReserved
    qtyIncoming := (s.levelsAt productId w.warehouseId).qtyIncoming }

def InventoryAdapter.totalAvailable (s : InventoryAdapter) (productId : ℤ) : ℚ :=
  (s.warehouses.map fun w => (s.levelsAt productId w.warehouseId).qtyAvailable).sum

/-- What the doubles add the stock of the product up to, in routing order. -/
def InventoryAdapter.addedUp (s : InventoryAdapter) (productId : ℤ) : ℚ :=
  runningSum float64 (((s.routed.map (s.stockOf productId)).map (·.qtyAvailable)).map float64)

/-- The stock of the product, times the warehouses there are, is light enough for doubles to tell
multiples of 0.0001 apart. -/
def InventoryAdapter.Light (s : InventoryAdapter) (productId : ℤ) : Prop :=
  s.warehouses.length * s.totalAvailable productId ≤ 10 ^ 9

/-- The warehouse gives all it has of the product. -/
def Exhausts (s : InventoryAdapter) (productId : ℤ) (plan : FulfillmentPlanDTO)
    (w : WarehouseData) : Prop :=
  (s.levelsAt productId w.warehouseId).qtyAvailable = 0 ∨
    ∃ a ∈ plan.allocations, a.warehouseId = w.warehouseId ∧
      a.quantity = (s.levelsAt productId w.warehouseId).qtyAvailable

/-- The plan splits the quantity over the warehouses in routing order. -/
structure SplitsInOrder (s : InventoryAdapter) (productId : ℤ) (requestedQty : ℚ)
    (plan : FulfillmentPlanDTO) : Prop where
  product : ∀ a ∈ plan.allocations, a.productId = productId
  positive : ∀ a ∈ plan.allocations, 0 < a.quantity
  warehouse : ∀ a ∈ plan.allocations, ∃ w ∈ s.warehouses, w.warehouseId = a.warehouseId
  once : (plan.allocations.map (·.warehouseId)).Nodup
  within : ∀ a ∈ plan.allocations,
    a.quantity ≤ (s.levelsAt productId a.warehouseId).qtyAvailable
  total : totalPlanQty plan = requestedQty
  priority : ∀ a ∈ plan.allocations, ∀ w ∈ s.warehouses, w.warehouseId = a.warehouseId →
    ∀ v ∈ s.warehouses, routingKey v < routingKey w → Exhausts s productId plan v

/-- The plan is applied to every store with the same stock where its order is open and its batch
new. -/
def CanBeApplied (s : InventoryAdapter) (orderId : ℤ) (plan : FulfillmentPlanDTO) : Prop :=
  ∀ (s' : InventoryAdapter) (args : ApplyArgs), s'.stockStore = s.stockStore →
    s'.warehouses = s.warehouses → args.orderId = orderId →
    (∃ order, s'.openOrder orderId = .ok order) →
    s'.existingPickingIds (targetBatchId args plan) = [] →
    ∃ result, (s'.applyFulfillmentPlan args plan).1 = .ok result ∧ result.status = .applied

section Store

variable {s : InventoryAdapter} {productId orderId : ℤ} {requestedQty : ℚ}

theorem getWarehouseStock_eq (product : 0 < productId) :
    s.getWarehouseStock productId = .ok (s.routed.map (s.stockOf productId)) :=
  if_neg (not_le.mpr product)

theorem mem_routed {w : WarehouseData} : w ∈ s.routed ↔ w ∈ s.warehouses :=
  List.mem_insertionSort _

theorem routed_pairwise : s.routed.Pairwise fun v w => routingKey v ≤ routingKey w :=
  List.pairwise_insertionSort _ _

theorem sum_routed (s : InventoryAdapter) (productId : ℤ) :
    ((s.routed.map (s.stockOf productId)).map (·.qtyAvailable)).sum =
      s.totalAvailable productId := by
  rw [List.map_map]
  exact ((List.perm_insertionSort _ s.warehouses).map _).sum_eq

theorem runningSum_routed (s : InventoryAdapter) (productId : ℤ) :
    runningSum float64
        ((s.routed.map (s.stockOf productId)).map fun wh => float64 wh.qtyAvailable) =
      s.addedUp productId :=
  congrArg (runningSum float64) List.map_map.symm

theorem InventoryAdapter.Stocked.routed (stocked : s.Stocked) (productId : ℤ) :
    ∀ wh ∈ s.routed.map (s.stockOf productId), 0 ≤ wh.qtyAvailable :=
  List.forall_mem_map.mpr fun w _ => stocked.nonneg productId w.warehouseId

/-! ## The store in doubles -/

/-- How far off a double is, up to twice the stock. -/
def InventoryAdapter.slack (s : InventoryAdapter) (productId : ℤ) : ℚ :=
  2 * s.totalAvailable productId / 2 ^ 53

/-- Where there is any stock, there are ten-thousandths of it. -/
theorem totalAvailable_least (grid : s.Grid) (some : 0 < s.totalAvailable productId) :
    1 / 10000 ≤ s.totalAvailable productId := by
  have gridTotal : OnGrid (s.totalAvailable productId) := onGrid_sum
    (List.forall_mem_map.mpr fun w _ => (grid productId w.warehouseId).1)
  linarith [onGrid_zero.add_le gridTotal some]

theorem near_slack (grid : s.Grid) (some : 0 < s.totalAvailable productId) (x : ℚ)
    (le : |x| ≤ 2 * s.totalAvailable productId) : |float64 x - x| ≤ s.slack productId :=
  float64_error le (by linarith [totalAvailable_least grid some])

/-- The roundings of a split come to less than its tolerance. -/
theorem InventoryAdapter.Light.roundings (light : s.Light productId)
    (some : 0 < s.totalAvailable productId) :
    0 ≤ s.slack productId ∧
      (2 * s.warehouses.length + 1) * s.slack productId ≤ 9 / 10 ^ 7 := by
  have stored : s.warehouses ≠ [] := by
    intro none
    unfold InventoryAdapter.totalAvailable at some
    rw [none, List.map_nil, List.sum_nil] at some
    exact lt_irrefl 0 some
  have one : (1 : ℚ) ≤ s.warehouses.length := by
    exact_mod_cast List.length_pos_of_ne_nil stored
  have more := mul_le_mul_of_nonneg_right one some.le
  unfold InventoryAdapter.Light at light
  unfold InventoryAdapter.slack
  refine ⟨by positivity, ?_⟩
  rw [← mul_div_assoc, div_le_iff₀ (by norm_num)]
  linarith

theorem addedUp_error (grid : s.Grid) (stocked : s.Stocked) (light : s.Light productId)
    (some : 0 < s.totalAvailable productId) :
    |s.addedUp productId - s.totalAvailable productId| ≤
      2 * s.warehouses.length * s.slack productId := by
  have least := totalAvailable_least grid some
  obtain ⟨nonneg, small⟩ := light.roundings some
  have length : ((s.routed.map (s.stockOf productId)).map (·.qtyAvailable)).length =
      s.warehouses.length := by
    rw [List.length_map, List.length_map]
    exact List.length_insertionSort _ _
  have error := runningSum_error nonneg (near_slack grid some)
    (List.forall_mem_map.mpr (stocked.routed productId))
    (by rw [sum_routed, length]; linarith)
  rwa [sum_routed, length] at error

/-- A request for less than there is passes the check of the stock and one for more does not. -/
theorem addedUp_enough_iff (grid : s.Grid) (stocked : s.Stocked) (light : s.Light productId)
    (gridQty : OnGrid requestedQty) (positive : 0 < requestedQty) :
    float64 requestedQty ≤ s.addedUp productId ↔
      requestedQty < s.totalAvailable productId ∨
        requestedQty = s.totalAvailable productId ∧
          float64 requestedQty ≤ s.addedUp productId := by
  have nonneg : 0 ≤ s.totalAvailable productId :=
    List.sum_nonneg (List.forall_mem_map.mpr fun w _ => stocked.nonneg productId w.warehouseId)
  have gridTotal : OnGrid (s.totalAvailable productId) := onGrid_sum
    (List.forall_mem_map.mpr fun w _ => (grid productId w.warehouseId).1)
  rcases nonneg.eq_or_lt with none | some
  · -- there is nothing, and the doubles add up to nothing
    have gone : s.addedUp productId = 0 := by
      refine runningSum_of_zero rounds_float64 (List.forall_mem_map.mpr fun qty mem => ?_)
      have zero := List.all_zero_of_le_zero_le_of_sum_eq_zero
        (List.forall_mem_map.mpr (stocked.routed productId))
        ((sum_routed s productId).trans none.symm) mem
      rw [zero]
      exact rounds_float64.zero
    have tenThousandth : 0 < float64 (1 / 10000) := by decide +kernel
    have least := rounds_float64.mono (by linarith [onGrid_zero.add_le gridQty positive] :
      1 / 10000 ≤ requestedQty)
    rw [gone, ← none]
    exact iff_of_false (by linarith)
      (not_or.mpr ⟨positive.not_gt, fun all => positive.ne' all.1⟩)
  · have error := abs_le.mp (addedUp_error grid stocked light some)
    obtain ⟨slack, small⟩ := light.roundings some
    have least := totalAvailable_least grid some
    rcases lt_trichotomy requestedQty (s.totalAvailable productId) with less | all | more
    · have apart := gridQty.add_le gridTotal less
      have rounded := abs_le.mp (near_slack grid some requestedQty
        (by rw [abs_of_pos positive]; linarith))
      exact iff_of_true (by linarith) (.inl less)
    · exact ⟨fun enough => .inr ⟨all, enough⟩, fun enough => enough.elim
        (fun less => absurd all less.ne) And.right⟩
    · have apart := gridTotal.add_le gridQty more
      have rounded := abs_le.mp (near_slack grid some (s.totalAvailable productId + 1 / 10000)
        (by rw [abs_of_nonneg (by linarith)]; linarith))
      have above := rounds_float64.mono apart
      exact iff_of_false (by linarith)
        (not_or.mpr ⟨more.not_gt, fun all => more.ne' all.1⟩)

/-! ## The plan -/

/-- What each warehouse gives, in routing order. -/
def InventoryAdapter.giving (s : InventoryAdapter) (productId : ℤ) (requestedQty : ℚ) :
    List (WarehouseData × ℚ) :=
  s.routed.zip (fill ((s.routed.map (s.stockOf productId)).map (·.qtyAvailable)) requestedQty)

theorem givenBy_routed (s : InventoryAdapter) (productId : ℤ) (requestedQty : ℚ) :
    givenBy (s.routed.map (s.stockOf productId)) requestedQty =
      (s.giving productId requestedQty).map (Prod.map (s.stockOf productId) id) :=
  List.zip_map_left

theorem giving_fst (s : InventoryAdapter) (productId : ℤ) (requestedQty : ℚ) :
    (s.giving productId requestedQty).map Prod.fst = s.routed := by
  refine List.map_fst_zip ?_
  rw [length_fill, List.length_map, List.length_map]

/-- Of two warehouses the one with the smaller key comes first, and gives all it has where the
second gives anything. -/
theorem giving_exhausts (stocked : s.Stocked) {given given' : WarehouseData × ℚ}
    (mem : given ∈ s.giving productId requestedQty)
    (mem' : given' ∈ s.giving productId requestedQty)
    (earlier : routingKey given.1 < routingKey given'.1) (gives : 0 < given'.2) :
    given.2 = (s.levelsAt productId given.1.warehouseId).qtyAvailable := by
  have exhausts := givenBy_exhausts (stocked.routed productId) requestedQty
  rw [givenBy_routed, List.pairwise_map] at exhausts
  have routed : (s.giving productId requestedQty).Pairwise fun g g' =>
      routingKey g.1 ≤ routingKey g'.1 := by
    rw [← List.pairwise_map (R := fun v w => routingKey v ≤ routingKey w), giving_fst]
    exact routed_pairwise
  exact List.Pairwise.forall_of_forall_of_flip
    (R := fun g g' : WarehouseData × ℚ => routingKey g.1 < routingKey g'.1 → 0 < g'.2 →
      g.2 = (s.levelsAt productId g.1.warehouseId).qtyAvailable)
    (fun g _ before => absurd before (lt_irrefl _))
    (exhausts.imp fun all _ gives => all gives)
    (routed.imp fun inOrder before => absurd inOrder (not_le.mpr before)) mem mem' earlier gives

/-- The allocations are those of the warehouses that give anything. -/
theorem splitLoop_routed (grid : s.Grid) (stocked : s.Stocked) (light : s.Light productId)
    (gridQty : OnGrid requestedQty) (positive : 0 < requestedQty)
    (enough : requestedQty ≤ s.totalAvailable productId) :
    splitLoop productId (s.routed.map (s.stockOf productId)) (float64 requestedQty) =
      ((s.giving productId requestedQty).filter (0 < ·.2)).map
        fun g => splitItem productId (s.stockOf productId g.1, g.2) := by
  have some := positive.trans_le enough
  have least := totalAvailable_least grid some
  obtain ⟨slack, small⟩ := light.roundings some
  have onGrid : ∀ wh ∈ s.routed.map (s.stockOf productId), OnGrid wh.qtyAvailable :=
    List.forall_mem_map.mpr fun w _ => (grid productId w.warehouseId).1
  have within : ∀ wh ∈ s.routed.map (s.stockOf productId),
      0 ≤ wh.qtyAvailable ∧ wh.qtyAvailable ≤ 2 * s.totalAvailable productId := by
    intro wh mem
    have part := List.single_le_sum (List.forall_mem_map.mpr (stocked.routed productId))
      wh.qtyAvailable (List.mem_map_of_mem mem)
    rw [sum_routed] at part
    exact ⟨stocked.routed productId wh mem, by linarith⟩
  have length : (s.routed.map (s.stockOf productId)).length = s.warehouses.length := by
    rw [List.length_map]
    exact List.length_insertionSort _ _
  have near := near_slack grid some requestedQty (by rw [abs_of_pos positive]; linarith)
  rw [splitLoop_eq_fill productId slack (near_slack grid some) onGrid within gridQty positive
    (by linarith) (by rw [length]; linarith), givenBy_routed, List.filter_map, List.map_map]
  rfl

theorem giving_ids_nodup (stocked : s.Stocked) (productId : ℤ) (requestedQty : ℚ) :
    ((s.giving productId requestedQty).map (·.1.warehouseId)).Nodup := by
  have same : (s.giving productId requestedQty).map (·.1.warehouseId) =
      s.routed.map (·.warehouseId) := by
    rw [← giving_fst s productId requestedQty, List.map_map]
    rfl
  rw [same]
  exact (((List.perm_insertionSort _ s.warehouses).map _).nodup_iff).mpr stocked.distinct

/-- A plan of these allocations splits the quantity in order. -/
theorem splitsInOrder (grid : s.Grid) (stocked : s.Stocked) (light : s.Light productId)
    (gridQty : OnGrid requestedQty) (positive : 0 < requestedQty)
    (enough : requestedQty ≤ s.totalAvailable productId) {plan : FulfillmentPlanDTO}
    (split : plan.allocations =
      splitLoop productId (s.routed.map (s.stockOf productId)) (float64 requestedQty)) :
    SplitsInOrder s productId requestedQty plan := by
  have routed := splitLoop_routed grid stocked light gridQty positive enough
  have mem_iff : ∀ a, a ∈ plan.allocations ↔ ∃ g ∈ s.giving productId requestedQty,
      0 < g.2 ∧ splitItem productId (s.stockOf productId g.1, g.2) = a := by
    intro a
    rw [split, routed, List.mem_map]
    simp only [List.mem_filter, decide_eq_true_eq, and_assoc]
  have known : ∀ g ∈ s.giving productId requestedQty, g.1 ∈ s.warehouses :=
    fun g mem => mem_routed.mp (List.of_mem_zip mem).1
  refine ⟨?_, ?_, ?_, ?_, ?_, ?_, ?_⟩
  · intro a mem
    obtain ⟨g, -, -, rfl⟩ := (mem_iff a).mp mem
    rfl
  · intro a mem
    obtain ⟨g, -, gives, rfl⟩ := (mem_iff a).mp mem
    exact gives
  · intro a mem
    obtain ⟨g, memG, -, rfl⟩ := (mem_iff a).mp mem
    exact ⟨g.1, known g memG, rfl⟩
  · rw [split, routed, List.map_map]
    exact (List.filter_sublist.map _).nodup (giving_ids_nodup stocked productId requestedQty)
  · intro a mem
    obtain ⟨g, memG, -, rfl⟩ := (mem_iff a).mp mem
    have zipped : (s.stockOf productId g.1, g.2) ∈
        givenBy (s.routed.map (s.stockOf productId)) requestedQty := by
      rw [givenBy_routed]
      exact List.mem_map.mpr ⟨g, memG, rfl⟩
    exact givenBy_le zipped
  · have nonneg := fill_nonneg (List.forall_mem_map.mpr (stocked.routed productId)) positive.le
    unfold totalPlanQty
    rw [split, routed, List.map_map]
    refine (sum_filter_positive fun g mem => nonneg g.2 (List.of_mem_zip mem).2).trans ?_
    have total := sum_givenBy (stocked.routed productId) positive.le
      (enough.trans_eq (sum_routed s productId).symm)
    rw [givenBy_routed, List.map_map] at total
    exact total
  · intro a mem w memW same v memV before
    obtain ⟨g, memG, gives, rfl⟩ := (mem_iff a).mp mem
    have isW : w = g.1 := List.inj_on_of_nodup_map stocked.distinct memW (known g memG) same
    subst isW
    rw [← mem_routed, ← giving_fst s productId requestedQty] at memV
    obtain ⟨g', memG', rfl⟩ := List.mem_map.mp memV
    have all := giving_exhausts stocked memG' memG before gives
    rcases (stocked.nonneg productId g'.1.warehouseId).lt_or_eq with some | none
    · exact .inr ⟨_, (mem_iff _).mpr ⟨g', memG', all ▸ some, rfl⟩, rfl, all⟩
    · exact .inl none.symm

/-- A plan that splits a quantity passes the checks of its parameters. -/
theorem SplitsInOrder.parameterError_eq_none {plan : FulfillmentPlanDTO} (stocked : s.Stocked)
    (order : 0 < orderId) (positive : 0 < requestedQty)
    (split : SplitsInOrder s productId requestedQty plan) (ofOrder : plan.orderId = orderId)
    (requested : plan.requestedQty = some requestedQty) : parameterError orderId plan = none := by
  have nonempty : plan.allocations ≠ [] := by
    intro none
    have total := split.total
    unfold totalPlanQty at total
    rw [none, List.map_nil, List.sum_nil] at total
    exact positive.ne total
  have noError : plan.allocations.findSome? allocationError = none := by
    refine List.findSome?_eq_none_iff.mpr fun a mem => ?_
    obtain ⟨w, memW, same⟩ := split.warehouse a mem
    have warehouse := stocked.positive w memW
    unfold allocationError
    rw [if_neg (not_le.mpr (same ▸ warehouse)), if_neg (not_le.mpr (split.positive a mem))]
  unfold parameterError tamperingError
  rw [if_neg (not_le.mpr order), if_neg (not_not.mpr ofOrder), if_neg nonempty, split.total,
    if_neg (not_le.mpr positive), noError, requested]
  simp

/-- In a store with the same stock each of its allocations is there. -/
theorem SplitsInOrder.stockError_eq_none {plan : FulfillmentPlanDTO} {s' : InventoryAdapter}
    (product : 0 < productId) (split : SplitsInOrder s productId requestedQty plan)
    (levels : s'.levelsAt = s.levelsAt) (warehouses : s'.warehouses = s.warehouses) :
    plan.allocations.findSome? s'.stockError = none := by
  refine List.findSome?_eq_none_iff.mpr fun a mem => ?_
  obtain ⟨w, memW, same⟩ := split.warehouse a mem
  have there : w ∈ s'.routed := mem_routed.mpr (warehouses ▸ memW)
  unfold InventoryAdapter.stockError InventoryAdapter.getWarehouseStockSingle
  rw [split.product a mem, getWarehouseStock_eq product]
  dsimp only [Except.map]
  cases found : (s'.routed.map (s'.stockOf productId)).find? fun wh =>
      wh.warehouseId = a.warehouseId with
  | none =>
      have missing := List.find?_eq_none.mp found _ (List.mem_map_of_mem there)
      exact absurd (decide_eq_true same) missing
  | some whStock =>
      have named : whStock.warehouseId = a.warehouseId := by simpa using List.find?_some found
      obtain ⟨w', -, rfl⟩ := List.mem_map.mp (List.mem_of_find?_eq_some found)
      have enough := split.within a mem
      rw [← levels, ← named] at enough
      exact if_neg (not_lt.mpr enough)

/-- A plan that splits a quantity passes the checks of its application. -/
theorem SplitsInOrder.canBeApplied {plan : FulfillmentPlanDTO} (grid : s.Grid)
    (stocked : s.Stocked) (gridPlan : plan.Grid) (order : 0 < orderId) (product : 0 < productId)
    (positive : 0 < requestedQty) (split : SplitsInOrder s productId requestedQty plan)
    (ofOrder : plan.orderId = orderId) (requested : plan.requestedQty = some requestedQty) :
    CanBeApplied s orderId plan := by
  intro s' args stock warehouses argsOrder opened new
  have levels : s'.levelsAt = s.levelsAt := by
    unfold InventoryAdapter.levelsAt
    rw [stock]
  have parameters : parameterError args.orderId plan = none := by
    rw [argsOrder]
    exact split.parameterError_eq_none stocked order positive ofOrder requested
  have inStock := split.stockError_eq_none product levels warehouses
  have grid' : s'.Grid := by
    intro productId warehouseId
    rw [levels]
    exact grid productId warehouseId
  obtain ⟨head, ids, applied, outcome, -⟩ :=
    applyFulfillmentPlan_accepted grid' gridPlan ⟨parameters, argsOrder ▸ opened, new, inStock⟩
  rw [outcome]
  exact ⟨_, rfl, rfl⟩

/-- In doubles, too, the allocations add up to what is requested. -/
theorem SplitsInOrder.allocatedSum {plan : FulfillmentPlanDTO} (grid : s.Grid)
    (light : s.Light productId) (gridQty : OnGrid requestedQty) (positive : 0 < requestedQty)
    (enough : requestedQty ≤ s.totalAvailable productId)
    (split : SplitsInOrder s productId requestedQty plan) :
    roundTo 4 (runningSum float64 (plan.allocations.map fun item => float64 item.quantity)) =
      requestedQty := by
  have some := positive.trans_le enough
  have least := totalAvailable_least grid some
  obtain ⟨slack, small⟩ := light.roundings some
  have few : (plan.allocations.length : ℚ) ≤ s.warehouses.length := by
    have known : plan.allocations.map (·.warehouseId) ⊆ s.warehouses.map (·.warehouseId) := by
      intro id mem
      obtain ⟨a, memA, rfl⟩ := List.mem_map.mp mem
      obtain ⟨w, memW, same⟩ := split.warehouse a memA
      exact List.mem_map.mpr ⟨w, memW, same⟩
    have length := (split.once.subperm known).length_le
    rw [List.length_map, List.length_map] at length
    exact_mod_cast length
  have fewer := mul_le_mul_of_nonneg_right few slack
  have total := split.total
  unfold totalPlanQty at total
  have error := runningSum_error slack (near_slack grid some)
    (List.forall_mem_map.mpr fun a mem => (split.positive a mem).le)
    (by rw [total, List.length_map]; linarith)
  rw [total, List.length_map, List.map_map] at error
  exact gridQty.roundTo_near (error.trans_lt (by linarith))

/-- Where the checks of the call pass, the sum of the allocations is what is requested, and the
notes have an allocation to name. -/
theorem calculateFulfillmentSplit_ok (grid : s.Grid) (stocked : s.Stocked)
    (light : s.Light productId) (gridQty : OnGrid requestedQty) (order : 0 < orderId)
    (product : 0 < productId) (positive : 0 < requestedQty)
    (enough : requestedQty ≤ s.totalAvailable productId)
    (addsUp : float64 requestedQty ≤ s.addedUp productId) :
    ∃ notes, s.calculateFulfillmentSplit orderId productId requestedQty = .ok
      { orderId
        allocations :=
          splitLoop productId (s.routed.map (s.stockOf productId)) (float64 requestedQty)
        notes := some notes
        requestedQty := some requestedQty } := by
  have inOrder : SplitsInOrder s productId requestedQty
      { allocations :=
          splitLoop productId (s.routed.map (s.stockOf productId)) (float64 requestedQty) } :=
    splitsInOrder grid stocked light gridQty positive enough rfl
  have total := inOrder.total
  have sum := inOrder.allocatedSum grid light gridQty positive enough
  have tolerance : 0 ≤ float64 (1 / 10000) := rounds_float64.nonneg (by norm_num)
  unfold totalPlanQty at total
  unfold InventoryAdapter.calculateFulfillmentSplit
  rw [if_neg (not_le.mpr order), if_neg (not_le.mpr product), if_neg (not_le.mpr positive),
    getWarehouseStock_eq product]
  dsimp only at sum total ⊢
  rw [runningSum_routed, if_neg (not_lt.mpr addsUp), sum, sub_self, rounds_float64.zero, abs_zero,
    if_neg (not_lt.mpr tolerance)]
  cases allocations :
      splitLoop productId (s.routed.map (s.stockOf productId)) (float64 requestedQty) with
  | nil =>
      rw [allocations, List.map_nil, List.sum_nil] at total
      exact absurd total positive.ne
  | cons item items =>
      cases items with
      | nil => exact ⟨_, rfl⟩
      | cons item' items => exact ⟨_, rfl⟩

theorem calculateFulfillmentSplit_checks {plan : FulfillmentPlanDTO}
    (ok : s.calculateFulfillmentSplit orderId productId requestedQty = .ok plan) :
    0 < orderId ∧ 0 < productId ∧ 0 < requestedQty ∧
      float64 requestedQty ≤ s.addedUp productId := by
  unfold InventoryAdapter.calculateFulfillmentSplit at ok
  split at ok
  · cases ok
  next order =>
    split at ok
    · cases ok
    next product =>
      split at ok
      · cases ok
      next positive =>
        rw [getWarehouseStock_eq (not_le.mp product)] at ok
        dsimp only at ok
        rw [runningSum_routed] at ok
        split at ok
        · cases ok
        next enough =>
          exact ⟨not_le.mp order, not_le.mp product, not_le.mp positive, not_lt.mp enough⟩

end Store

theorem demoStock_stocked : demoStock.Stocked where
  nonneg productId warehouseId := (demoStock_nonneg productId warehouseId).1
  distinct := by decide
  positive := by decide

theorem demoStock_light : demoStock.Light 1 := by
  unfold InventoryAdapter.Light
  decide +kernel

/-- The seeded warehouses with other stock of the product. -/
def stockedWith (stock : ℤ → ℚ) : InventoryAdapter :=
  { demoStock with
    stockStore := fun productId warehouseId =>
      if productId = 1 then some { qtyAvailable := stock warehouseId } else none }

-- 0.7 and 0.1 are not enough for 0.8
example : (stockedWith fun warehouseId => if warehouseId = 1 then 7 / 10
    else if warehouseId = 2 then 1 / 10 else 0).calculateFulfillmentSplit 101 1 (8 / 10) =
      .error (.integration (validationError
        ("Insufficient inventory across all warehouses for product 1. Requested: 0.8, " ++
          "Total Available: 0.7999999999999999. Shortfall: 0.0."))) := by
  decide +kernel

-- a stock too large for doubles: one unit less than is requested is split, and comes up short
example : ((stockedWith fun warehouseId => if warehouseId = 1 then 2 ^ 53
    else if warehouseId = 2 then 3 else 0).calculateFulfillmentSplit 101 1 (2 ^ 53 + 4)).map
      (fun plan => plan.allocations.map (·.quantity)) = .ok [2 ^ 53, 3] := by
  decide +kernel

end DealFlow.Addon
