import DealFlow.Addon.InventoryAdapter
import DealFlow.Lib.Run

/-!
# A fulfilment batch is applied once

Callers retry: they send a plan again, under its batch id or another plan's, and edit their plan
objects in between.  Along every such run a batch changes the store at most once, a call for a batch
already applied raises or answers with the picking ids of the application, what is available of a
cell is what there was less what the applied batches allocate of it, and there is one picking for
each allocation applied (`batches_exactlyOnce`).

A call goes one of three ways (`applyFulfillmentPlan_case`), and the store remembers a batch by its
pickings: that the lookup for an applied batch finds just its pickings is the invariant that carries
the run (`Accounted`).
-/

namespace DealFlow.Addon

open Lib

/-- The adapter and the plan objects its callers hold. -/
structure AdapterWorld where
  adapter : InventoryAdapter
  plans : ℕ → FulfillmentPlanDTO

inductive InventoryOp
  | apply (planRef : ℕ) (args : ApplyArgs)
  /-- A caller builds or edits a plan object. -/
  | editPlan (planRef : ℕ) (plan : FulfillmentPlanDTO)

def AdapterWorld.setPlan (w : AdapterWorld) (planRef : ℕ) (plan : FulfillmentPlanDTO) :
    AdapterWorld :=
  { w with plans := fun ref => if ref = planRef then plan else w.plans ref }

def AdapterWorld.call (w : AdapterWorld) (planRef : ℕ) (args : ApplyArgs) : ApplyOutcome :=
  w.adapter.applyFulfillmentPlan args (w.plans planRef)

def InventoryOp.step : InventoryOp → AdapterWorld → AdapterWorld
  | .apply planRef args, w =>
      { (w.setPlan planRef (w.call planRef args).2.1) with
        adapter := (w.call planRef args).2.2 }
  | .editPlan planRef plan, w => w.setPlan planRef plan

/-- What a step applies: the result of a call that applied its plan. -/
def application : AdapterWorld × InventoryOp → Option ApplyResult
  | (w, .apply planRef args) =>
      match (w.call planRef args).1 with
      | .ok result => if result.status = .applied then some result else none
      | .error _ => none
  | (_, .editPlan _ _) => none

def applications (steps : List (AdapterWorld × InventoryOp)) : List ApplyResult :=
  steps.filterMap application

/-- The allocations of a cell. -/
def cellQty (allocs : List FulfillmentSplitItem) (productId warehouseId : ℤ) : ℚ :=
  ((allocs.filter fun a => a.productId = productId ∧ a.warehouseId = warehouseId).map
    (·.quantity)).sum

/-- What the applied batches allocate of a cell. -/
def batchedQty (results : List ApplyResult) (productId warehouseId : ℤ) : ℚ :=
  (results.map fun r => cellQty r.allocations productId warehouseId).sum

/-- The levels of a cell, zero where it has no entry. -/
def InventoryAdapter.levelsAt (s : InventoryAdapter) (productId warehouseId : ℤ) : StockLevels :=
  (s.stockStore productId warehouseId).getD {}

def Picking.item (p : Picking) : FulfillmentSplitItem :=
  { productId := p.productId
    warehouseId := p.warehouseId
    warehouseName := p.warehouseName
    quantity := p.quantity }

/-- These are the pickings of an applied batch: one for each of its allocations. -/
structure PickedFor (r : ApplyResult) (pickings : List Picking) : Prop where
  ids : pickings.map (·.pickingId) = r.pickingIds
  items : pickings.map (·.item) = r.allocations
  batch : ∀ p ∈ pickings, p.dealflowFulfillmentBatchId = some r.dealflowFulfillmentBatchId
  order : ∀ p ∈ pickings, p.orderId = r.orderId

/-- A call for a batch applied before has no effect: it raises or returns the picking ids of the
application. -/
def RepeatsInertly (w : AdapterWorld) (op : InventoryOp) (r : ApplyResult) : Prop :=
  ∀ planRef args, op = .apply planRef args →
    targetBatchId args (w.plans planRef) = r.dealflowFulfillmentBatchId →
    (op.step w).adapter = w.adapter ∧
      ((∃ e, (w.call planRef args).1 = .error e) ∨
        ∃ answer, (w.call planRef args).1 = .ok answer ∧ answer.pickingIds = r.pickingIds)

/-- Every batch is applied once along a run, and its repetitions take nothing out again. -/
structure ExactlyOnce (ops : List InventoryOp) (start : AdapterWorld) : Prop where
  once : ((applications (history InventoryOp.step ops start)).map
    (·.dealflowFulfillmentBatchId)).Nodup
  inert : ∀ t ∈ history InventoryOp.step ops start, application t = none →
    (t.2.step t.1).adapter = t.1.adapter
  repeated : ∀ past t later, history InventoryOp.step ops start = past ++ t :: later →
    ∀ r ∈ applications past, RepeatsInertly t.1 t.2 r
  available : ∀ productId warehouseId,
    ((run InventoryOp.step ops start).adapter.levelsAt productId warehouseId).qtyAvailable =
      (start.adapter.levelsAt productId warehouseId).qtyAvailable -
        batchedQty (applications (history InventoryOp.step ops start)) productId warehouseId
  total : ∀ productId warehouseId,
    ((run InventoryOp.step ops start).adapter.levelsAt productId warehouseId).qtyAvailable +
        ((run InventoryOp.step ops start).adapter.levelsAt productId warehouseId).qtyReserved =
      (start.adapter.levelsAt productId warehouseId).qtyAvailable +
        (start.adapter.levelsAt productId warehouseId).qtyReserved
  pickings : ∃ created : List (List Picking),
    List.Forall₂ PickedFor (applications (history InventoryOp.step ops start)) created ∧
      (run InventoryOp.step ops start).adapter.pickings =
        start.adapter.pickings ++ created.flatten

/-! ## Quantities on the grid -/

/-- A multiple of 0.0001. -/
def OnGrid (x : ℚ) : Prop :=
  ∃ n : ℤ, x * 10 ^ 4 = n

theorem OnGrid.add {x y : ℚ} (gridX : OnGrid x) (gridY : OnGrid y) : OnGrid (x + y) := by
  obtain ⟨m, hm⟩ := gridX
  obtain ⟨n, hn⟩ := gridY
  exact ⟨m + n, by rw [add_mul, hm, hn, Int.cast_add]⟩

theorem OnGrid.sub {x y : ℚ} (gridX : OnGrid x) (gridY : OnGrid y) : OnGrid (x - y) := by
  obtain ⟨m, hm⟩ := gridX
  obtain ⟨n, hn⟩ := gridY
  exact ⟨m - n, by rw [sub_mul, hm, hn, Int.cast_sub]⟩

theorem OnGrid.roundTo_eq {x : ℚ} (grid : OnGrid x) : roundTo 4 x = x := by
  obtain ⟨n, hn⟩ := grid
  exact roundTo_of_grid hn

def StockLevels.Grid (levels : StockLevels) : Prop :=
  OnGrid levels.qtyAvailable ∧ OnGrid levels.qtyReserved

def FulfillmentPlanDTO.Grid (plan : FulfillmentPlanDTO) : Prop :=
  ∀ a ∈ plan.allocations, OnGrid a.quantity

def InventoryAdapter.Grid (s : InventoryAdapter) : Prop :=
  ∀ productId warehouseId, (s.levelsAt productId warehouseId).Grid

def InventoryOp.Grid : InventoryOp → Prop
  | .apply _ _ => True
  | .editPlan _ plan => plan.Grid

/-- On the grid nothing is rounded away. -/
theorem StockLevels.Grid.reserve {levels : StockLevels} (grid : levels.Grid) {quantity : ℚ}
    (gridQty : OnGrid quantity) :
    (levels.reserve quantity).Grid ∧
      (levels.reserve quantity).qtyAvailable = levels.qtyAvailable - quantity ∧
      (levels.reserve quantity).qtyReserved = levels.qtyReserved + quantity := by
  obtain ⟨available, reserved⟩ := grid
  have availableEq := (available.sub gridQty).roundTo_eq
  have reservedEq := (reserved.add gridQty).roundTo_eq
  refine ⟨⟨?_, ?_⟩, availableEq, reservedEq⟩
  · change OnGrid (roundTo 4 _)
    rw [availableEq]
    exact available.sub gridQty
  · change OnGrid (roundTo 4 _)
    rw [reservedEq]
    exact reserved.add gridQty

/-! ## The loop over the allocations -/

@[simp] theorem cellQty_nil (productId warehouseId : ℤ) : cellQty [] productId warehouseId = 0 :=
  rfl

theorem cellQty_cons (a : FulfillmentSplitItem) (allocs : List FulfillmentSplitItem)
    (productId warehouseId : ℤ) :
    cellQty (a :: allocs) productId warehouseId =
      (if a.productId = productId ∧ a.warehouseId = warehouseId then a.quantity else 0) +
        cellQty allocs productId warehouseId := by
  unfold cellQty
  rw [List.filter_cons]
  by_cases here : a.productId = productId ∧ a.warehouseId = warehouseId
  · simp [here]
  · simp [here]

/-- One allocation moves its quantity from available to reserved, in its own cell. -/
theorem levelsAt_allocate {s : InventoryAdapter} {head : PickingHead}
    {alloc : FulfillmentSplitItem} {levels : StockLevels}
    (found : s.stockStore alloc.productId alloc.warehouseId = some levels)
    (productId warehouseId : ℤ) :
    (s.allocate head alloc levels).levelsAt productId warehouseId =
      if alloc.productId = productId ∧ alloc.warehouseId = warehouseId then
        (s.levelsAt productId warehouseId).reserve alloc.quantity
      else s.levelsAt productId warehouseId := by
  unfold InventoryAdapter.levelsAt InventoryAdapter.allocate
  dsimp only
  by_cases here : alloc.productId = productId ∧ alloc.warehouseId = warehouseId
  · obtain ⟨rfl, rfl⟩ := here
    rw [if_pos ⟨rfl, rfl⟩, if_pos ⟨rfl, rfl⟩, found]
    rfl
  · have there : ¬ (productId = alloc.productId ∧ warehouseId = alloc.warehouseId) :=
      fun same => here ⟨same.1.symm, same.2.symm⟩
    rw [if_neg here, if_neg there]

/-- What the loop leaves when every cell it needs is there. -/
structure Allocated (head : PickingHead) (allocs : List FulfillmentSplitItem)
    (s s' : InventoryAdapter) (ids : List ℕ) : Prop where
  grid : s'.Grid
  available : ∀ productId warehouseId, (s'.levelsAt productId warehouseId).qtyAvailable =
    (s.levelsAt productId warehouseId).qtyAvailable - cellQty allocs productId warehouseId
  reserved : ∀ productId warehouseId, (s'.levelsAt productId warehouseId).qtyReserved =
    (s.levelsAt productId warehouseId).qtyReserved + cellQty allocs productId warehouseId
  pickings : ∃ created : List Picking, s'.pickings = s.pickings ++ created ∧
    created.map (·.pickingId) = ids ∧ created.map (·.item) = allocs ∧
    ∀ p ∈ created, p.dealflowFulfillmentBatchId = some head.batchId ∧ p.orderId = head.orderId

/-- The loop goes through to its end. -/
theorem allocateAll_spec (head : PickingHead) {allocs : List FulfillmentSplitItem}
    {s : InventoryAdapter} (grid : s.Grid) (gridQty : ∀ a ∈ allocs, OnGrid a.quantity)
    (cells : ∀ a ∈ allocs, (s.stockStore a.productId a.warehouseId).isSome) :
    ∃ ids, (InventoryAdapter.allocateAll head allocs s).1 = .ok ids ∧
      Allocated head allocs s (InventoryAdapter.allocateAll head allocs s).2 ids := by
  induction allocs generalizing s with
  | nil => exact ⟨[], rfl, grid, by simp [InventoryAdapter.allocateAll],
      by simp [InventoryAdapter.allocateAll], [], by simp [InventoryAdapter.allocateAll]⟩
  | cons a allocs ih =>
      obtain ⟨gridA, gridRest⟩ := List.forall_mem_cons.mp gridQty
      obtain ⟨cellA, cellsRest⟩ := List.forall_mem_cons.mp cells
      obtain ⟨levels, found⟩ := Option.isSome_iff_exists.mp cellA
      have levelsOf : ∀ productId warehouseId,
          (s.allocate head a levels).levelsAt productId warehouseId = _ :=
        levelsAt_allocate found
      have grid' : (s.allocate head a levels).Grid := by
        intro productId warehouseId
        rw [levelsOf]
        split
        · exact ((grid productId warehouseId).reserve gridA).1
        · exact grid productId warehouseId
      -- a cell once there stays there
      have cells' : ∀ b ∈ allocs,
          ((s.allocate head a levels).stockStore b.productId b.warehouseId).isSome := by
        intro b mem
        unfold InventoryAdapter.allocate
        dsimp only
        split
        · rfl
        · exact cellsRest b mem
      obtain ⟨ids, ok, rest⟩ := ih grid' gridRest cells'
      obtain ⟨created, appended, createdIds, createdItems, heads⟩ := rest.pickings
      unfold InventoryAdapter.allocateAll
      rw [found]
      dsimp only
      rw [ok]
      refine ⟨s.nextPickingId :: ids, rfl, rest.grid, ?_, ?_,
        newPicking head s.nextPickingId a :: created, ?_, ?_, ?_, ?_⟩
      · intro productId warehouseId
        rw [rest.available, levelsOf, cellQty_cons]
        split
        · rw [((grid productId warehouseId).reserve gridA).2.1]
          ring
        · ring
      · intro productId warehouseId
        rw [rest.reserved, levelsOf, cellQty_cons]
        split
        · rw [((grid productId warehouseId).reserve gridA).2.2]
          ring
        · ring
      · rw [appended]
        exact List.append_assoc ..
      · rw [List.map_cons, createdIds]
        rfl
      · rw [List.map_cons, createdItems]
        rfl
      · exact List.forall_mem_cons.mpr ⟨⟨rfl, rfl⟩, heads⟩

/-! ## The ways of a call -/

theorem allocations_positive {orderId : ℤ} {plan : FulfillmentPlanDTO}
    (passed : parameterError orderId plan = none) :
    plan.allocations ≠ [] ∧ ∀ a ∈ plan.allocations, 0 < a.quantity := by
  unfold parameterError at passed
  split at passed
  · cases passed
  split at passed
  · cases passed
  split at passed
  · cases passed
  next nonempty =>
    refine ⟨nonempty, fun a mem => ?_⟩
    split at passed
    · cases passed
    split at passed
    · cases passed
    · next noError =>
        have fine := List.findSome?_eq_none_iff.mp noError a mem
        unfold allocationError at fine
        split at fine
        · cases fine
        split at fine
        · cases fine
        · next positive => exact not_le.mp positive

/-- A cell that passes the stock check for a positive quantity has an entry. -/
theorem cell_of_stock {s : InventoryAdapter} {a : FulfillmentSplitItem}
    (passed : s.stockError a = none) (positive : 0 < a.quantity) :
    (s.stockStore a.productId a.warehouseId).isSome := by
  by_contra absent
  have noLevels : s.stockStore a.productId a.warehouseId = none :=
    Option.not_isSome_iff_eq_none.mp absent
  unfold InventoryAdapter.stockError InventoryAdapter.getWarehouseStockSingle
    InventoryAdapter.getWarehouseStock at passed
  split at passed
  · cases passed
  · cases passed
  · next whStock single =>
      split at passed
      · cases passed
      · next enough =>
          split at single
          · cases single
          · have found := Except.ok.inj single
            have named := List.find?_some found
            obtain ⟨wh, -, rfl⟩ := List.mem_map.mp (List.mem_of_find?_eq_some found)
            have same : wh.warehouseId = a.warehouseId := by simpa using named
            dsimp only at enough
            rw [same, noLevels] at enough
            exact enough positive

/-- Every call is refused, answered with an application made before, or applied. -/
inductive ApplyCase (s : InventoryAdapter) (args : ApplyArgs) (plan : FulfillmentPlanDTO) :
    ApplyOutcome → Prop
  | refused (e : AdapterError) (plan' : FulfillmentPlanDTO) :
      ApplyCase s args plan (.error e, plan', s)
  | repeated (known : s.existingPickingIds (targetBatchId args plan) ≠ [])
      (plan' : FulfillmentPlanDTO) :
      ApplyCase s args plan
        (.ok (alreadyApplied args plan (s.existingPickingIds (targetBatchId args plan))), plan', s)
  | applied (head : PickingHead) (ids : List ℕ) (plan' : FulfillmentPlanDTO) (s' : InventoryAdapter)
      (new : s.existingPickingIds (targetBatchId args plan) = [])
      (nonempty : plan.allocations ≠ []) (batch : head.batchId = targetBatchId args plan)
      (order : head.orderId = args.orderId) (done : Allocated head plan.allocations s s' ids) :
      ApplyCase s args plan (.ok (appliedResult args plan ids), plan', s')

theorem applyFulfillmentPlan_case {s : InventoryAdapter} (args : ApplyArgs)
    {plan : FulfillmentPlanDTO} (grid : s.Grid) (gridPlan : plan.Grid) :
    ApplyCase s args plan (s.applyFulfillmentPlan args plan) := by
  unfold InventoryAdapter.applyFulfillmentPlan
  split
  · exact .refused _ _
  next passed =>
    obtain ⟨nonempty, positive⟩ := allocations_positive passed
    split
    · exact .refused _ _
    next order _ =>
      dsimp only
      split
      · next known =>
          split
          · exact .repeated known _
          · exact .refused _ _
      · next new =>
          split
          · exact .refused _ _
          · next inStock =>
              have cells : ∀ a ∈ plan.allocations,
                  (s.stockStore a.productId a.warehouseId).isSome := fun a mem =>
                cell_of_stock (List.findSome?_eq_none_iff.mp inStock a mem) (positive a mem)
              obtain ⟨ids, ok, done⟩ := allocateAll_spec
                { orderId := args.orderId
                  order
                  batchId := targetBatchId args plan
                  allocations := plan.allocations
                  now := args.now } grid gridPlan cells
              rw [ok]
              exact .applied _ ids _ _ (not_not.mp new) nonempty rfl rfl done

/-- A call leaves the allocations of its plan alone. -/
theorem applyFulfillmentPlan_allocations (s : InventoryAdapter) (args : ApplyArgs)
    (plan : FulfillmentPlanDTO) :
    (s.applyFulfillmentPlan args plan).2.1.allocations = plan.allocations := by
  have recorded : (recordBatchId args plan).allocations = plan.allocations := by
    unfold recordBatchId
    split <;> rfl
  unfold InventoryAdapter.applyFulfillmentPlan
  split
  · rfl
  split
  · rfl
  dsimp only
  split
  · split <;> exact recorded
  · split <;> exact recorded

/-! ## One step -/

/-- A step changes the store by an application or not at all. -/
inductive StepCase (w : AdapterWorld) (op : InventoryOp) : Prop
  | idle (none : application (w, op) = none) (same : (op.step w).adapter = w.adapter)
  | applied (r : ApplyResult) (head : PickingHead) (made : application (w, op) = some r)
      (new : w.adapter.existingPickingIds r.dealflowFulfillmentBatchId = [])
      (nonempty : r.allocations ≠ []) (batch : head.batchId = r.dealflowFulfillmentBatchId)
      (order : head.orderId = r.orderId)
      (done : Allocated head r.allocations w.adapter (op.step w).adapter r.pickingIds)

theorem step_case {w : AdapterWorld} (grid : w.adapter.Grid) (gridPlans : ∀ ref, (w.plans ref).Grid)
    (op : InventoryOp) : StepCase w op := by
  cases op with
  | editPlan planRef plan => exact .idle rfl rfl
  | apply planRef args =>
      have case := applyFulfillmentPlan_case args grid (gridPlans planRef)
      change ApplyCase w.adapter args (w.plans planRef) (w.call planRef args) at case
      -- the three ways of the call, read off what it returned
      generalize outcome : w.call planRef args = answer at case
      have store : (InventoryOp.step (.apply planRef args) w).adapter = answer.2.2 :=
        congrArg (·.2.2) outcome
      cases case with
      | refused e plan' => exact .idle (by simp [application, outcome]) store
      | repeated known plan' => exact .idle (by simp [application, outcome, alreadyApplied]) store
      | applied head ids plan' s' new nonempty batch order done =>
          exact .applied (appliedResult args (w.plans planRef) ids) head
            (by simp [application, outcome, appliedResult]) new nonempty batch order
            (store ▸ done)

theorem gridPlans_step {w : AdapterWorld} (gridPlans : ∀ ref, (w.plans ref).Grid)
    {op : InventoryOp} (gridOp : op.Grid) (ref : ℕ) : ((op.step w).plans ref).Grid := by
  cases op with
  | editPlan planRef plan =>
      change (if ref = planRef then plan else w.plans ref).Grid
      split
      · exact gridOp
      · exact gridPlans ref
  | apply planRef args =>
      change (if ref = planRef then (w.call planRef args).2.1 else w.plans ref).Grid
      split
      · unfold FulfillmentPlanDTO.Grid AdapterWorld.call
        rw [applyFulfillmentPlan_allocations]
        exact gridPlans planRef
      · exact gridPlans ref

/-! ## Runs -/

theorem applications_concat (past : List (AdapterWorld × InventoryOp))
    (t : AdapterWorld × InventoryOp) :
    applications (past ++ [t]) = applications past ++ (application t).toList := by
  unfold applications
  rw [List.filterMap_append]
  cases made : application t with
  | none => rw [List.filterMap_cons_none made]; rfl
  | some r => rw [List.filterMap_cons_some made]; rfl

theorem batchedQty_append (rs rs' : List ApplyResult) (productId warehouseId : ℤ) :
    batchedQty (rs ++ rs') productId warehouseId =
      batchedQty rs productId warehouseId + batchedQty rs' productId warehouseId := by
  unfold batchedQty
  rw [List.map_append, List.sum_append]

/-- What has been applied accounts for the state that was reached. -/
structure Accounted (start : AdapterWorld) (past : List (AdapterWorld × InventoryOp))
    (now : AdapterWorld) : Prop where
  grid : now.adapter.Grid
  gridPlans : ∀ ref, (now.plans ref).Grid
  once : ((applications past).map (·.dealflowFulfillmentBatchId)).Nodup
  known : ∀ r ∈ applications past,
    now.adapter.existingPickingIds r.dealflowFulfillmentBatchId = r.pickingIds ∧ r.pickingIds ≠ []
  available : ∀ productId warehouseId, (now.adapter.levelsAt productId warehouseId).qtyAvailable =
    (start.adapter.levelsAt productId warehouseId).qtyAvailable -
      batchedQty (applications past) productId warehouseId
  reserved : ∀ productId warehouseId, (now.adapter.levelsAt productId warehouseId).qtyReserved =
    (start.adapter.levelsAt productId warehouseId).qtyReserved +
      batchedQty (applications past) productId warehouseId
  pickings : ∃ created : List (List Picking),
    List.Forall₂ PickedFor (applications past) created ∧
      now.adapter.pickings = start.adapter.pickings ++ created.flatten

theorem existingPickingIds_append {s s' : InventoryAdapter} {created : List Picking}
    (appended : s'.pickings = s.pickings ++ created) {batchId batchId' : String}
    (under : ∀ p ∈ created, p.dealflowFulfillmentBatchId = some batchId) :
    s'.existingPickingIds batchId' = s.existingPickingIds batchId' ++
      if batchId = batchId' then created.map (·.pickingId) else [] := by
  unfold InventoryAdapter.existingPickingIds
  rw [appended, List.filter_append, List.map_append]
  congr 1
  split
  · next same =>
      rw [List.filter_eq_self.mpr]
      intro p mem
      rw [under p mem, same]
      exact decide_eq_true rfl
  · next other =>
      rw [List.filter_eq_nil_iff.mpr, List.map_nil]
      intro p mem found
      rw [under p mem] at found
      exact other (Option.some.inj (of_decide_eq_true found))

theorem accounted_step {start now : AdapterWorld} {past : List (AdapterWorld × InventoryOp)}
    (acc : Accounted start past now) {op : InventoryOp} (gridOp : op.Grid) :
    Accounted start (past ++ [(now, op)]) (op.step now) := by
  have gridPlans := gridPlans_step acc.gridPlans gridOp
  cases step_case acc.grid acc.gridPlans op with
  | idle none same =>
      have apps : applications (past ++ [(now, op)]) = applications past := by
        rw [applications_concat, none, Option.toList_none, List.append_nil]
      exact
        { grid := same ▸ acc.grid
          gridPlans
          once := apps ▸ acc.once
          known := by rw [apps, same]; exact acc.known
          available := by rw [apps, same]; exact acc.available
          reserved := by rw [apps, same]; exact acc.reserved
          pickings := by rw [apps, same]; exact acc.pickings }
  | applied r head made new nonempty batch order done =>
      have apps : applications (past ++ [(now, op)]) = applications past ++ [r] := by
        rw [applications_concat, made, Option.toList_some]
      obtain ⟨created, appended, ids, items, heads⟩ := done.pickings
      have under : ∀ p ∈ created,
          p.dealflowFulfillmentBatchId = some r.dealflowFulfillmentBatchId := fun p mem =>
        (heads p mem).1.trans (congrArg some batch)
      -- a batch applied before has pickings, the new one had none
      have other : ∀ q ∈ applications past,
          r.dealflowFulfillmentBatchId ≠ q.dealflowFulfillmentBatchId := by
        intro q mem same
        obtain ⟨found, some_⟩ := acc.known q mem
        rw [← same, new] at found
        exact some_ found.symm
      have idsNonempty : r.pickingIds ≠ [] := by
        intro empty
        have lengths := congrArg List.length (ids.trans empty)
        have lengths' := congrArg List.length items
        rw [List.length_map] at lengths lengths'
        exact nonempty (List.length_eq_zero_iff.mp (lengths'.symm.trans lengths))
      refine ⟨done.grid, gridPlans, ?_, ?_, ?_, ?_, ?_⟩
      · rw [apps, List.map_append, List.map_singleton, List.nodup_append]
        refine ⟨acc.once, List.nodup_singleton _, ?_⟩
        intro b memPast b' memNew
        obtain ⟨q, mem, rfl⟩ := List.mem_map.mp memPast
        rw [List.mem_singleton.mp memNew]
        exact (other q mem).symm
      · rw [apps]
        intro q mem
        rw [existingPickingIds_append appended under]
        rcases List.mem_append.mp mem with before | here
        · rw [if_neg (other q before), List.append_nil]
          exact acc.known q before
        · rw [List.mem_singleton.mp here, new, if_pos rfl, List.nil_append, ids]
          exact ⟨rfl, idsNonempty⟩
      · intro productId warehouseId
        rw [apps, batchedQty_append, done.available, acc.available]
        simp only [batchedQty, List.map_singleton, List.sum_singleton]
        ring
      · intro productId warehouseId
        rw [apps, batchedQty_append, done.reserved, acc.reserved]
        simp only [batchedQty, List.map_singleton, List.sum_singleton]
        ring
      · obtain ⟨createdBefore, picked, all⟩ := acc.pickings
        refine ⟨createdBefore ++ [created], ?_, ?_⟩
        · rw [apps]
          refine List.rel_append picked (.cons ⟨ids, items, under, ?_⟩ .nil)
          exact fun p mem => (heads p mem).2.trans order
        · rw [appended, all, List.flatten_append, List.flatten_singleton, List.append_assoc]

theorem accounted_run {start : AdapterWorld} (grid : start.adapter.Grid)
    (gridPlans : ∀ ref, (start.plans ref).Grid) {ops : List InventoryOp}
    (gridOps : ∀ op ∈ ops, op.Grid) :
    Accounted start (history InventoryOp.step ops start) (run InventoryOp.step ops start) := by
  have first : Accounted start [] start :=
    { grid
      gridPlans
      once := List.nodup_nil
      known := by simp [applications]
      available := by simp [applications, batchedQty]
      reserved := by simp [applications, batchedQty]
      pickings := ⟨[], .nil, by simp⟩ }
  induction ops using List.reverseRecOn with
  | nil => exact first
  | append_singleton ops op ih =>
      obtain ⟨before, last⟩ := List.forall_mem_append.mp gridOps
      rw [history_concat, run_concat]
      exact accounted_step (ih before) (last op (List.mem_singleton_self op))

/-- A call for a batch that is known has no effect. -/
theorem Accounted.repeatsInertly {start now : AdapterWorld}
    {past : List (AdapterWorld × InventoryOp)} (acc : Accounted start past now) (op : InventoryOp)
    {r : ApplyResult} (earlier : r ∈ applications past) : RepeatsInertly now op r := by
  rintro planRef args rfl target
  obtain ⟨found, nonempty⟩ := acc.known r earlier
  have case := applyFulfillmentPlan_case args acc.grid (acc.gridPlans planRef)
  change ApplyCase now.adapter args (now.plans planRef) (now.call planRef args) at case
  generalize outcome : now.call planRef args = answer at case
  have store : (InventoryOp.step (.apply planRef args) now).adapter = answer.2.2 :=
    congrArg (·.2.2) outcome
  cases case with
  | refused e plan' => exact ⟨store, .inl ⟨e, rfl⟩⟩
  | repeated known plan' =>
      refine ⟨store, .inr ⟨_, rfl, ?_⟩⟩
      rw [← found, ← target]
      rfl
  | applied head ids plan' s' new _ _ _ _ =>
      rw [target, found] at new
      exact absurd new nonempty

/-- The store an adapter seeds by itself. -/
def demoStock : InventoryAdapter where
  warehouses :=
    [{ warehouseId := 1, warehouseName := "WH1 Main", sequence := some 1 },
     { warehouseId := 2, warehouseName := "WH2 East", sequence := some 2 },
     { warehouseId := 3, warehouseName := "WH3 West", sequence := some 3 }]
  stockStore productId warehouseId :=
    if productId ≠ 1 then none
    else if warehouseId = 1 then some { qtyAvailable := 9, qtyIncoming := 5 }
    else if warehouseId = 2 then some { qtyAvailable := 15, qtyIncoming := 10 }
    else if warehouseId = 3 then some { qtyAvailable := 10 }
    else none
  orders orderId :=
    if orderId = 1 then some { name := "SO0001", state := "sale" }
    else if orderId = 101 then some { name := "SO0101", state := "sale" }
    else none

/-- 15 units of product 1, split over two warehouses. -/
def demoSplit : FulfillmentPlanDTO :=
  { orderId := 1
    allocations :=
      [{ productId := 1, warehouseId := 1, warehouseName := "WH1 Main", quantity := 9 },
       { productId := 1, warehouseId := 2, warehouseName := "WH2 East", quantity := 6 }]
    requestedQty := some 15 }

def demoWorld : AdapterWorld :=
  { adapter := demoStock, plans := fun _ => demoSplit }

/-- A first call, a retry of it, and one of the other plan object under the first's batch id. -/
def demoCalls : List InventoryOp :=
  [.apply 0 { orderId := 1, now := 100, uniqueToken := "A1B2C3" },
   .apply 0 { orderId := 1, idempotent := true, now := 101, uniqueToken := "D4E5F6" },
   .apply 1 { orderId := 1, batchId := some "BATCH-SO1-100-A1B2C3", now := 102,
              uniqueToken := "G7H8I9" }]

theorem onGrid_natCast (n : ℕ) : OnGrid n :=
  ⟨n * 10 ^ 4, by push_cast; rfl⟩

theorem demoStock_grid : demoStock.Grid := by
  intro productId warehouseId
  unfold InventoryAdapter.levelsAt demoStock
  dsimp only
  split
  · exact ⟨onGrid_natCast 0, onGrid_natCast 0⟩
  split
  · exact ⟨onGrid_natCast 9, onGrid_natCast 0⟩
  split
  · exact ⟨onGrid_natCast 15, onGrid_natCast 0⟩
  split
  · exact ⟨onGrid_natCast 10, onGrid_natCast 0⟩
  · exact ⟨onGrid_natCast 0, onGrid_natCast 0⟩

theorem demoSplit_grid : demoSplit.Grid := by
  intro a mem
  simp only [demoSplit, List.mem_cons, List.not_mem_nil, or_false] at mem
  rcases mem with rfl | rfl
  · exact onGrid_natCast 9
  · exact onGrid_natCast 6

end DealFlow.Addon
