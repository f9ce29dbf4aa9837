import DealFlow.Fulfillment.Shipments

/-!
# A proposal and the order

A proposal plans the stockable lines of the order with their quantities cut down to whole numbers,
and what it plans of a line is what it was asked for (`qtyFor_proposedPlan`).  So a proposal covers
the order exactly when it goes through and every such line orders a whole number
(`proposalCovers_iff`).  It goes through unless default profiles have to be created, none being
active, and one of the warehouses already has an inactive profile.
-/

namespace DealFlow

open Lib

/-- The line is to be fulfilled: a positive quantity of a stockable product that does not recur. -/
def ToFulfill (products : AList fun _ : ℤ => RawProduct) (l : RawOrderLine) : Prop :=
  ∃ product, products.lookup l.productId = some product ∧ product.type = "STOCKABLE" ∧
    product.isRecurring = false ∧ 0 < l.qty

/-- What a plan allocates to an order line or leaves for later. -/
def FulfillmentPlan.qtyFor (plan : FulfillmentPlan) (lineId : ℤ) : ℤ :=
  ((plan.lines.filter fun l => l.odooSaleOrderLineId = lineId).map fun l =>
    l.allocatedQty + l.backorderQty).sum

/-- The plan has the ordered quantity of each line to be fulfilled, and no other line. -/
structure CoversOrder (order : RawOrder) (products : AList fun _ : ℤ => RawProduct)
    (plan : FulfillmentPlan) : Prop where
  quantities : ∀ l ∈ order.lines, ToFulfill products l → (plan.qtyFor l.id : ℚ) = l.qty
  noOther : ∀ p ∈ plan.lines, ∃ l ∈ order.lines,
    ToFulfill products l ∧ p.odooSaleOrderLineId = l.id

/-- The reads of a proposal answer and leave the Odoo side as it is. -/
structure OrderReads {σ : Type} (gateway : WarehouseGateway σ) (w : FulfillmentWorld σ)
    (order : RawOrder) (products : AList fun _ : ℤ => RawProduct) (warehouses : List RawWarehouse) :
    Prop where
  readOrder : gateway.getSaleOrder w.db.deal.odooSaleOrderId w.odoo = (.ok order, w.odoo)
  readProducts : gateway.getProducts (order.lines.map (·.productId)).dedup w.odoo =
    (.ok products, w.odoo)
  readWarehouses : gateway.getWarehouses w.odoo = (.ok warehouses, w.odoo)
  readStock : ∀ productIds warehouseIds, ∃ availability,
    gateway.getAvailabilityIn productIds warehouseIds w.odoo = (.ok availability, w.odoo)

/-- A proposal for an order with lines stores a plan that covers it. -/
def ProposalCovers {σ : Type} (gateway : WarehouseGateway σ) (strategy : Option String)
    (now : Timestamp) (w : FulfillmentWorld σ) (order : RawOrder)
    (products : AList fun _ : ℤ => RawProduct) : Prop :=
  order.lines ≠ [] → ∃ planId w' plan,
    perform (proposeFulfillmentPlan gateway strategy now) w = (.ok planId, w') ∧
      w'.plans.getLast? = some plan ∧ plan.id = planId ∧ CoversOrder order products plan

/-- A profile is active, or no warehouse has a profile. -/
def ProfilesUsable (profiles : List WarehouseProfile) (warehouses : List RawWarehouse) : Prop :=
  (∃ p ∈ profiles, p.active = true) ∨
    ∀ p ∈ profiles, ∀ wh ∈ warehouses, p.odooWarehouseId ≠ wh.id

/-! ## The planner -/

section Planner

variable {lines : List StockableLine} {warehouses : List WarehouseInfo}

theorem allocateLine_noBackorder (line : StockableLine) (ws : List WarehouseInfo)
    (stock : StockTable) (needed : ℤ) :
    ∀ a ∈ (allocateLine line ws stock needed).1, a.backorderQty = 0 := by
  induction ws generalizing stock needed with
  | nil => simp
  | cons w ws ih =>
      by_cases gives : 0 < stock w.warehouseId line.productId ∧ 0 < needed
      · rw [allocateLine_take gives]
        exact List.forall_mem_cons.mpr ⟨rfl, ih _ _⟩
      · rw [allocateLine_skip gives]
        exact ih stock needed

/-- An allocation has no backorder, and a backorder no allocation. -/
def Separate (allocations backorders : List PlanAllocation) : Prop :=
  (∀ a ∈ allocations, a.backorderQty = 0) ∧ ∀ b ∈ backorders, b.allocatedQty = 0

theorem allocateLines_separate (chosen : List WarehouseInfo) (lines : List StockableLine)
    (stock : StockTable) :
    Separate (allocateLines chosen lines stock).1 (allocateLines chosen lines stock).2.1 := by
  induction lines generalizing stock with
  | nil => exact ⟨List.forall_mem_nil _, List.forall_mem_nil _⟩
  | cons l ls ih =>
      obtain ⟨allocations, backorders⟩ := ih (allocateLine l chosen stock l.requestedQty).2.1
      rw [allocateLines_cons]
      dsimp only
      constructor
      · intro a mem
        rcases List.mem_append.mp mem with here | later
        · exact allocateLine_noBackorder l chosen stock l.requestedQty a here
        · exact allocations a later
      · intro b mem
        rcases List.mem_append.mp mem with here | later
        · unfold shortfall at here
          split at here
          · rw [List.mem_singleton.mp here]
            rfl
          · cases here
        · exact backorders b later

theorem calculateFulfillmentPlan_separate (lines : List StockableLine)
    (warehouses : List WarehouseInfo) (availability : AvailabilityTable)
    (forceStrategy : Option String) :
    Separate (calculateFulfillmentPlan lines warehouses availability forceStrategy).allocations
      (calculateFulfillmentPlan lines warehouses availability forceStrategy).backorders := by
  unfold calculateFulfillmentPlan
  split
  · exact ⟨List.forall_mem_nil _, List.forall_mem_nil _⟩
  · split
    · refine ⟨List.forall_mem_nil _, List.forall_mem_map.mpr fun l _ => rfl⟩
    · exact allocateLines_separate _ _ _

/-- In every case of the planner the lines are served from some warehouses. -/
theorem calculateFulfillmentPlan_served (lines : List StockableLine)
    (distinct : (warehouses.map (·.warehouseId)).Nodup) (availability : AvailabilityTable)
    (forceStrategy : Option String) :
    ∃ ws left, LinesServed (validLines lines) ws (getAvail availability)
      ((calculateFulfillmentPlan lines warehouses availability forceStrategy).allocations,
        (calculateFulfillmentPlan lines warehouses availability forceStrategy).backorders,
        left) := by
  have whole := LinesServed.backordered_whole (validLines_positive lines)
    (getAvail_nonneg availability)
  rcases planned lines availability forceStrategy distinct with
    ⟨noDemand, eq⟩ | ⟨-, -, eq⟩ | ⟨-, -, p⟩
  · rw [eq]
    rw [noDemand] at whole ⊢
    exact ⟨_, _, whole⟩
  · rw [eq]
    exact ⟨_, _, whole⟩
  · obtain ⟨left, served⟩ := p.served
    exact ⟨_, left, served⟩

/-- The valid lines request of a line's id what the line requests, also where that is nothing. -/
theorem requestedBy_validLines (distinct : (lines.map (·.lineId)).Nodup) {l : StockableLine}
    (mem : l ∈ lines) (nonneg : 0 ≤ l.requestedQty) :
    requestedBy (validLines lines) l.lineId = l.requestedQty := by
  rcases nonneg.lt_or_eq with positive | zero
  · exact requestedBy_eq ((List.filter_sublist.map _).nodup distinct)
      (mem_validLines.mpr ⟨mem, positive⟩)
  · have none : ((validLines lines).filter fun k => k.lineId = l.lineId) = [] := by
      refine List.filter_eq_nil_iff.mpr fun k memK same => ?_
      exact validLines_apart distinct mem zero.symm.le memK (of_decide_eq_true same)
    rw [requestedBy, none, ← zero]
    rfl

end Planner

/-! ## The lines of a proposal -/

section Proposed

variable {order : RawOrder} {products : AList fun _ : ℤ => RawProduct}

theorem ToFulfill.positive {l : RawOrderLine} (fulfilled : ToFulfill products l) : 0 < l.qty :=
  fulfilled.choose_spec.2.2.2

/-- The line a plan is made for. -/
def stockableLine (l : RawOrderLine) : StockableLine :=
  { lineId := l.id, productId := l.productId, requestedQty := truncDec l.qty }

theorem mem_stockableLines {k : StockableLine} :
    k ∈ stockableLines order products ↔
      ∃ l ∈ order.lines, ToFulfill products l ∧ stockableLine l = k := by
  unfold stockableLines ToFulfill
  rw [List.mem_filterMap]
  refine exists_congr fun l => and_congr_right fun _ => ?_
  cases products.lookup l.productId with
  | none => simp
  | some product =>
      dsimp only
      split
      · next conditions =>
          rw [Option.some.injEq]
          exact ⟨fun same => ⟨⟨product, rfl, conditions⟩, same⟩, fun h => h.2⟩
      · next conditions =>
          constructor
          · intro none
            cases none
          · rintro ⟨⟨_, ⟨⟩, fulfilled⟩, -⟩
            exact absurd fulfilled conditions

theorem stockableLines_ids (distinct : (order.lines.map (·.id)).Nodup) :
    ((stockableLines order products).map (·.lineId)).Nodup := by
  refine distinct.sublist ?_
  unfold stockableLines
  induction order.lines with
  | nil => exact .slnil
  | cons l ls ih =>
      rw [List.filterMap_cons]
      split
      · exact ih.cons _
      · next k taken =>
          have same : k.lineId = l.id := by
            split at taken
            · cases taken
            · split at taken
              · cases taken
                rfl
              · cases taken
          rw [List.map_cons, List.map_cons, same]
          exact ih.cons_cons _

/-- A plan has for a line what its allocations and backorders have. -/
theorem qtyFor_proposedPlan {calcRes : FulfillmentCalculationResult}
    (separate : Separate calcRes.allocations calcRes.backorders) (planId : ℕ) (now : Timestamp)
    (lineId : ℤ) :
    (proposedPlan planId calcRes now).qtyFor lineId =
      allocatedTo calcRes.allocations lineId + backorderTo calcRes.backorders lineId := by
  have allocated : ((calcRes.allocations.filter fun a => a.lineId = lineId).map fun a =>
      a.allocatedQty + a.backorderQty) =
      (calcRes.allocations.filter fun a => a.lineId = lineId).map (·.allocatedQty) := by
    refine List.map_congr_left fun a mem => ?_
    rw [separate.1 a (List.mem_of_mem_filter mem), add_zero]
  have backordered : ((calcRes.backorders.filter fun b => b.lineId = lineId).map fun b =>
      b.allocatedQty + b.backorderQty) =
      (calcRes.backorders.filter fun b => b.lineId = lineId).map (·.backorderQty) := by
    refine List.map_congr_left fun b mem => ?_
    rw [separate.2 b (List.mem_of_mem_filter mem), zero_add]
  unfold FulfillmentPlan.qtyFor proposedPlan allocatedTo backorderTo
  dsimp only
  rw [List.filter_append, List.map_append, List.sum_append, ← allocated, ← backordered,
    List.filter_map, List.filter_map, List.map_map, List.map_map]
  rfl

/-- A computed plan has what is left of an ordered quantity when it is cut down to an integer. -/
theorem qtyFor_proposedPlan_toFulfill (distinct : (order.lines.map (·.id)).Nodup)
    {infos : List WarehouseInfo} (distinctInfos : (infos.map (·.warehouseId)).Nodup)
    (availability : AvailabilityTable) (strategy : Option String) (planId : ℕ) (now : Timestamp)
    {l : RawOrderLine} (mem : l ∈ order.lines) (fulfilled : ToFulfill products l) :
    (proposedPlan planId (calculateFulfillmentPlan (stockableLines order products) infos
      availability strategy) now).qtyFor l.id = truncDec l.qty := by
  have separate := calculateFulfillmentPlan_separate (stockableLines order products) infos
    availability strategy
  obtain ⟨ws, left, served⟩ := calculateFulfillmentPlan_served (stockableLines order products)
    distinctInfos availability strategy
  have nonneg : 0 ≤ truncDec l.qty := by
    unfold truncDec
    rw [if_pos fulfilled.positive.le]
    exact Int.floor_nonneg.mpr fulfilled.positive.le
  have total := served.total l.id
  rw [qtyFor_proposedPlan separate, total]
  exact requestedBy_validLines (stockableLines_ids distinct)
    (mem_stockableLines.mpr ⟨l, mem, fulfilled, rfl⟩) nonneg

/-- The lines of a computed plan are for lines of the order that are to be fulfilled. -/
theorem proposedPlan_toFulfill {infos : List WarehouseInfo}
    (distinctInfos : (infos.map (·.warehouseId)).Nodup) (availability : AvailabilityTable)
    (strategy : Option String) (planId : ℕ) (now : Timestamp) :
    ∀ p ∈ (proposedPlan planId (calculateFulfillmentPlan (stockableLines order products) infos
      availability strategy) now).lines,
      ∃ l ∈ order.lines, ToFulfill products l ∧ p.odooSaleOrderLineId = l.id := by
  obtain ⟨ws, left, served⟩ := calculateFulfillmentPlan_served (stockableLines order products)
    distinctInfos availability strategy
  intro p mem
  have named : ∃ l ∈ validLines (stockableLines order products),
      p.odooSaleOrderLineId = l.lineId := by
    rcases List.mem_append.mp mem with allocation | backorder
    · obtain ⟨a, memA, rfl⟩ := List.mem_map.mp allocation
      obtain ⟨-, ⟨l, memL, same, -⟩, -⟩ := served.allocationNamed a memA
      exact ⟨l, memL, same⟩
    · obtain ⟨b, memB, rfl⟩ := List.mem_map.mp backorder
      obtain ⟨-, l, memL, same, -⟩ := served.backorderNamed b memB
      exact ⟨l, memL, same⟩
  obtain ⟨k, memK, same⟩ := named
  obtain ⟨l, memL, fulfilled, rfl⟩ := mem_stockableLines.mp (mem_validLines.mp memK).1
  exact ⟨l, memL, fulfilled, same⟩

/-- A computed plan covers the order exactly when whole numbers are ordered. -/
theorem coversOrder_proposedPlan_iff (distinct : (order.lines.map (·.id)).Nodup)
    {infos : List WarehouseInfo} (distinctInfos : (infos.map (·.warehouseId)).Nodup)
    (availability : AvailabilityTable) (strategy : Option String) (planId : ℕ) (now : Timestamp) :
    CoversOrder order products (proposedPlan planId
        (calculateFulfillmentPlan (stockableLines order products) infos availability strategy)
        now) ↔
      ∀ l ∈ order.lines, ToFulfill products l → ∃ n : ℤ, l.qty = n := by
  constructor
  · intro covers l mem fulfilled
    exact ⟨_, (covers.quantities l mem fulfilled).symm⟩
  · intro whole
    refine ⟨fun l mem fulfilled => ?_,
      proposedPlan_toFulfill distinctInfos availability strategy planId now⟩
    obtain ⟨n, whole⟩ := whole l mem fulfilled
    have nonneg : (0 : ℚ) ≤ n := by
      rw [← whole]
      exact fulfilled.positive.le
    rw [qtyFor_proposedPlan_toFulfill distinct distinctInfos availability strategy planId now mem
      fulfilled, whole]
    unfold truncDec
    rw [if_pos nonneg, Int.floor_intCast]

end Proposed

/-! ## The proposal -/

section Propose

variable {σ : Type} {gateway : WarehouseGateway σ} {w : FulfillmentWorld σ} {order : RawOrder}
  {products : AList fun _ : ℤ => RawProduct} {warehouses : List RawWarehouse}

theorem perform_ensureProfiles (reads : OrderReads gateway w order products warehouses) :
    perform (ensureProfiles gateway) w =
      if activeProfiles w.profiles = [] then
        if ((w.profiles ++ warehouses.map defaultProfile).map (·.odooWarehouseId)).Nodup then
          (.ok (), { w with profiles := w.profiles ++ warehouses.map defaultProfile })
        else (.error .integrityError, w)
      else (.ok (), w) := by
  unfold ensureProfiles
  rw [perform_get_bind]
  split
  · rw [perform_askOdoo_bind, reads.readWarehouses]
    dsimp only
    rw [perform_get_bind]
    dsimp only
    split
    · rfl
    · rfl
  · rfl

/-- A plan is computed once there are profiles. -/
theorem perform_computePlan (reads : OrderReads gateway w order products warehouses)
    (lines : order.lines ≠ []) (strategy : Option String) :
    (∃ e w', perform (ensureProfiles gateway) w = (.error e, w') ∧
        perform (computePlan gateway strategy) w = (.error e, w')) ∨
      ∃ profiles availability,
        perform (ensureProfiles gateway) w = (.ok (), { w with profiles }) ∧
        perform (computePlan gateway strategy) w =
          (.ok (calculateFulfillmentPlan (stockableLines order products)
            ((activeProfiles profiles).map (warehouseInfo warehouses)) availability strategy),
            { w with profiles }) := by
  unfold computePlan
  rw [perform_get_bind, perform_askOdoo_bind, reads.readOrder]
  dsimp only
  rw [if_neg lines, perform_askOdoo_bind, reads.readProducts]
  dsimp only
  rw [perform_bind]
  rcases ensured : perform (ensureProfiles gateway) w with ⟨answer, w'⟩
  cases answer with
  | error e => exact .inl ⟨e, w', rfl, rfl⟩
  | ok _ =>
      right
      have kept : ∃ profiles, w' = { w with profiles } := by
        rw [perform_ensureProfiles reads] at ensured
        split at ensured
        · split at ensured
          · cases ensured
            exact ⟨_, rfl⟩
          · cases ensured
        · cases ensured
          exact ⟨w.profiles, rfl⟩
      obtain ⟨profiles, rfl⟩ := kept
      dsimp only
      rw [perform_askOdoo_bind, reads.readWarehouses]
      dsimp only
      rw [perform_get_bind]
      obtain ⟨availability, stock⟩ := reads.readStock
        ((stockableLines order products).map (·.productId)).dedup
        (((activeProfiles profiles).map (warehouseInfo warehouses)).map (·.warehouseId))
      rw [perform_askOdoo_bind, stock]
      exact ⟨profiles, _, rfl, rfl⟩

/-- The profiles there are once they are ensured: each of another warehouse. -/
theorem ensured_profiles (reads : OrderReads gateway w order products warehouses)
    (unique : (w.profiles.map (·.odooWarehouseId)).Nodup) {profiles : List WarehouseProfile}
    (ensured : perform (ensureProfiles gateway) w = (.ok (), { w with profiles })) :
    (profiles.map (·.odooWarehouseId)).Nodup := by
  have same := congrArg (fun t => t.2.profiles) ensured
  rw [perform_ensureProfiles reads] at ensured same
  split at ensured
  · split at ensured
    · next distinct =>
        rw [if_pos ‹_›, if_pos distinct] at same
        dsimp only at same
        rwa [← same]
    · cases ensured
  · rw [if_neg ‹_›] at same
    dsimp only at same
    rwa [← same]

/-- Profiles can be ensured exactly where one is active or no warehouse has one. -/
theorem ensureProfiles_ok_iff (reads : OrderReads gateway w order products warehouses)
    (unique : (w.profiles.map (·.odooWarehouseId)).Nodup)
    (distinctWarehouses : (warehouses.map (·.id)).Nodup) :
    (∃ w', perform (ensureProfiles gateway) w = (.ok (), w')) ↔
      ProfilesUsable w.profiles warehouses := by
  have active : activeProfiles w.profiles = [] ↔ ¬ ∃ p ∈ w.profiles, p.active = true := by
    unfold activeProfiles
    rw [List.filter_eq_nil_iff]
    simp
  have apart : ((w.profiles ++ warehouses.map defaultProfile).map (·.odooWarehouseId)).Nodup ↔
      ∀ p ∈ w.profiles, ∀ wh ∈ warehouses, p.odooWarehouseId ≠ wh.id := by
    have ids : (warehouses.map defaultProfile).map (·.odooWarehouseId) = warehouses.map (·.id) := by
      rw [List.map_map]
      rfl
    rw [List.map_append, ids, List.nodup_append]
    simp [unique, distinctWarehouses]
  rw [perform_ensureProfiles reads]
  unfold ProfilesUsable
  rw [← apart]
  split
  · next none =>
      rw [or_iff_right (active.mp none)]
      split
      · next distinct => exact ⟨fun _ => distinct, fun _ => ⟨_, rfl⟩⟩
      · next clash =>
          refine ⟨fun ⟨w', ok⟩ => ?_, fun distinct => absurd distinct clash⟩
          cases ok
  · next some =>
      exact ⟨fun _ => .inl (not_not.mp fun none => some (active.mpr none)), fun _ => ⟨_, rfl⟩⟩

theorem perform_propose (strategy : Option String) (now : Timestamp) (w : FulfillmentWorld σ) :
    perform (proposeFulfillmentPlan gateway strategy now) w =
      match perform (computePlan gateway strategy) w with
      | (.error e, w') => (.error e, w')
      | (.ok calcRes, w') => (.ok w'.db.nextId, storeProposal calcRes now w') := by
  unfold proposeFulfillmentPlan
  rw [perform_bind]
  rcases perform (computePlan gateway strategy) w with ⟨answer, w'⟩
  cases answer with
  | error e => rfl
  | ok calcRes => rfl

end Propose

/-- A proposal covers the order exactly where the profiles are usable and whole numbers are
ordered. -/
theorem proposalCovers_iff {σ : Type} (gateway : WarehouseGateway σ) (strategy : Option String)
    (now : Timestamp) (w : FulfillmentWorld σ) (order : RawOrder)
    (products : AList fun _ : ℤ => RawProduct) (warehouses : List RawWarehouse)
    (reads : OrderReads gateway w order products warehouses)
    (distinctLines : (order.lines.map (·.id)).Nodup)
    (unique : (w.profiles.map (·.odooWarehouseId)).Nodup)
    (distinctWarehouses : (warehouses.map (·.id)).Nodup) :
    ProposalCovers gateway strategy now w order products ↔
      (order.lines ≠ [] → ProfilesUsable w.profiles warehouses ∧
        ∀ l ∈ order.lines, ToFulfill products l → ∃ n : ℤ, l.qty = n) := by
  refine imp_congr_right fun lines => ?_
  rw [← ensureProfiles_ok_iff reads unique distinctWarehouses]
  rcases perform_computePlan reads lines strategy with
    ⟨e, w', ensured, computed⟩ | ⟨profiles, availability, ensured, computed⟩
  · rw [perform_propose, computed, ensured]
    constructor
    · rintro ⟨_, _, _, failed, -⟩
      cases failed
    · rintro ⟨⟨_, failed⟩, -⟩
      cases failed
  · have infos : (((activeProfiles profiles).map (warehouseInfo warehouses)).map
        (·.warehouseId)).Nodup := by
      rw [List.map_map]
      exact (List.filter_sublist.map _).nodup (ensured_profiles reads unique ensured)
    rw [perform_propose, computed, ensured]
    have covers : CoversOrder order products (proposedPlan w.db.nextId
        (calculateFulfillmentPlan (stockableLines order products) _ availability strategy) now) ↔
          _ :=
      coversOrder_proposedPlan_iff distinctLines infos availability strategy w.db.nextId now
    constructor
    · rintro ⟨planId, w', plan, proposed, last, -, covered⟩
      cases proposed
      have stored : some (proposedPlan w.db.nextId _ now) = some plan :=
        List.getLast?_concat.symm.trans last
      cases stored
      exact ⟨⟨_, rfl⟩, covers.mp covered⟩
    · rintro ⟨-, whole⟩
      exact ⟨_, _, _, rfl, List.getLast?_concat, rfl, covers.mpr whole⟩

/-! ## On the in-memory gateway -/

/-- The order of the desks, with a quantity. -/
def desksOrder (qty : ℚ) : FakeOrder :=
  { header :=
      { id := 101, name := "SO00101", partnerId := 1, partnerName := "Acme Corp", state := "sale"
        currency := "INR", userId := 4, teamId := some 1, companyId := 1 }
    lines :=
      [{ id := 1001, productId := 103, qty, priceUnit := 100, discountPct := 0
         taxRatePct := 18 }] }

/-- The order as it is read. -/
def desksRawOrder (qty : ℚ) : RawOrder :=
  { header := (desksOrder qty).header
    lines :=
      [{ id := 1001, productId := 103, productName := "Desk", categoryId := 1
         productType := "STOCKABLE", qty, priceUnit := 100, discountPct := 0, unitCost := 70
         taxRatePct := 18 }] }

def desksProducts : AList fun _ : ℤ => RawProduct :=
  AList.insert 103 { id := 103, type := "STOCKABLE" } ∅

/-- The desks are ordered, and the warehouses have these profiles. -/
def orderedDesks (qty : ℚ) (profiles : List WarehouseProfile) : FulfillmentWorld FakeBooks :=
  { db := deskWorld.db
    odoo := { deskBooks with orders := AList.insert 101 (desksOrder qty) ∅ }
    profiles }

def fakeWarehouses : List RawWarehouse :=
  [{ id := 1, name := "Main Warehouse", code := "MAIN" },
   { id := 2, name := "East Depot", code := "EAST" },
   { id := 3, name := "West Hub", code := "WEST" }]

theorem desksOrder_toFulfill (qty : ℚ) (positive : 0 < qty) :
    ∀ l ∈ (desksRawOrder qty).lines, ToFulfill desksProducts l := by
  intro l mem
  rw [List.mem_singleton.mp mem]
  exact ⟨_, rfl, rfl, rfl, positive⟩

/-- Five desks are planned whole. -/
theorem orderedDesks_covered :
    ProposalCovers fakeWarehouseGateway none 1 (orderedDesks 5 []) (desksRawOrder 5)
      desksProducts := by
  refine (proposalCovers_iff fakeWarehouseGateway none 1 _ _ _ fakeWarehouses ?_ (by decide)
    (by decide) (by decide)).mpr fun _ => ⟨.inr nofun, fun l mem _ => ⟨5, ?_⟩⟩
  · exact ⟨rfl, rfl, rfl, fun _ _ => ⟨_, rfl⟩⟩
  · rw [List.mem_singleton.mp mem]
    rfl

/-- With an inactive profile of a warehouse nothing is proposed; of two and a half desks two are. -/
theorem orderedDesks_uncovered :
    ¬ ProposalCovers fakeWarehouseGateway none 1
        (orderedDesks 5 [{ odooWarehouseId := 1, active := false }]) (desksRawOrder 5)
        desksProducts ∧
      ¬ ProposalCovers fakeWarehouseGateway none 1 (orderedDesks (5 / 2) [])
        (desksRawOrder (5 / 2)) desksProducts := by
  constructor
  · intro covers
    obtain ⟨planId, w', plan, proposed, -⟩ := covers (by decide)
    have failed : (perform (proposeFulfillmentPlan fakeWarehouseGateway none 1)
        (orderedDesks 5 [{ odooWarehouseId := 1, active := false }])).1 =
          .error .integrityError := by decide +kernel
    rw [proposed] at failed
    cases failed
  · intro covers
    obtain ⟨planId, w', plan, -, -, -, covered⟩ := covers (by decide)
    have whole := covered.quantities _ List.mem_cons_self
      (desksOrder_toFulfill (5 / 2) (by norm_num) _ List.mem_cons_self)
    have twice : ((2 * plan.qtyFor 1001 : ℤ) : ℚ) = (5 : ℤ) := by
      change (plan.qtyFor 1001 : ℚ) = 5 / 2 at whole
      push_cast
      rw [whole]
      norm_num
    have same := Int.cast_injective twice
    omega

end DealFlow
