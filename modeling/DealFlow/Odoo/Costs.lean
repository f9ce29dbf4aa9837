import DealFlow.Odoo.Fake
import DealFlow.Odoo.LineStore

/-!
# Orders without the costs of their products

Two Odoo sides show the same orders but for the costs (`SameButCosts`) where their products agree on
everything else, whatever governance has set on the orders: so for the in-memory gateway
(`FakeOdoo.AgreeButCosts.sameOrders`), and for the tables behind the XML-RPC gateway
(`LineStore.AgreeButCosts.sameOrders`).
-/

namespace DealFlow

def RawOrderLine.withoutCost (l : RawOrderLine) : RawOrderLine :=
  { l with unitCost := 0 }

def RawOrder.withoutCosts (o : RawOrder) : RawOrder :=
  { o with lines := o.lines.map RawOrderLine.withoutCost }

/-- Both Odoo sides show the same orders, but for what the products cost. -/
def SameButCosts {σ : Type} (gateway : OdooGateway σ) (odoo odoo' : σ) : Prop :=
  ∀ orderId, (gateway.getSaleOrder orderId odoo).1.map RawOrder.withoutCosts =
    (gateway.getSaleOrder orderId odoo').1.map RawOrder.withoutCosts

/-! ## The in-memory gateway -/

def FakeProduct.withoutCost (p : FakeProduct) : FakeProduct :=
  { p with standardPrice := 0 }

/-- An order without what governance has set on it. -/
def FakeOrder.withoutGovernance (o : FakeOrder) : FakeOrder :=
  { o with dealflowApprovalState := "draft", dealflowRiskScore := 0, dealflowLocked := false }

/-- The products agree but for their costs, the orders but for their governance. -/
structure FakeOdoo.AgreeButCosts (s t : FakeOdoo) : Prop where
  products : ∀ id, (s.products.lookup id).map FakeProduct.withoutCost =
    (t.products.lookup id).map FakeProduct.withoutCost
  orders : ∀ id, (s.orders.lookup id).map FakeOrder.withoutGovernance =
    (t.orders.lookup id).map FakeOrder.withoutGovernance

/-- The lines without costs, from the first and the others. -/
theorem FakeOdoo.rawLines_cons {s : FakeOdoo} {l : FakeLine} {prod : FakeProduct}
    (found : s.products.lookup l.productId = some prod) (ls : List FakeLine) :
    (s.rawLines (l :: ls)).map (List.map RawOrderLine.withoutCost) =
      ((s.rawLines ls).map (List.map RawOrderLine.withoutCost)).map
        (FakeOdoo.rawLine l prod.withoutCost :: ·) := by
  rw [FakeOdoo.rawLines]
  unfold FakeOdoo.product
  rw [found]
  dsimp only
  cases s.rawLines ls <;> rfl

theorem FakeOdoo.AgreeButCosts.rawLines {s t : FakeOdoo} (agree : s.AgreeButCosts t)
    (lines : List FakeLine) :
    (s.rawLines lines).map (List.map RawOrderLine.withoutCost) =
      (t.rawLines lines).map (List.map RawOrderLine.withoutCost) := by
  induction lines with
  | nil => rfl
  | cons l ls ih =>
      have same := agree.products l.productId
      cases found : s.products.lookup l.productId with
      | none =>
          rw [found, Option.map_none] at same
          rw [FakeOdoo.rawLines, FakeOdoo.rawLines]
          unfold FakeOdoo.product
          rw [found, Option.map_eq_none_iff.mp same.symm]
      | some prod =>
          rw [found, Option.map_some] at same
          obtain ⟨prod', found', product⟩ := Option.map_eq_some_iff.mp same.symm
          rw [FakeOdoo.rawLines_cons found, FakeOdoo.rawLines_cons found', product, ih]

theorem FakeOdoo.getSaleOrder_withoutCosts {s : FakeOdoo} {orderId : ℤ} {order : FakeOrder}
    (found : s.orders.lookup orderId = some order) :
    (s.getSaleOrder orderId).1.map RawOrder.withoutCosts =
      ((s.rawLines order.lines).map (List.map RawOrderLine.withoutCost)).map fun lines =>
        { header := order.header, lines } := by
  unfold FakeOdoo.getSaleOrder
  rw [found]
  dsimp only
  cases s.rawLines order.lines <;> rfl

theorem FakeOdoo.AgreeButCosts.sameOrders {s t : FakeOdoo} (agree : s.AgreeButCosts t) :
    SameButCosts fakeOdooGateway s t := by
  intro orderId
  have same := agree.orders orderId
  change (FakeOdoo.getSaleOrder orderId s).1.map RawOrder.withoutCosts =
    (FakeOdoo.getSaleOrder orderId t).1.map RawOrder.withoutCosts
  cases found : s.orders.lookup orderId with
  | none =>
      rw [found, Option.map_none] at same
      unfold FakeOdoo.getSaleOrder
      rw [found, Option.map_eq_none_iff.mp same.symm]
  | some order =>
      rw [found, Option.map_some] at same
      obtain ⟨order', found', terms⟩ := Option.map_eq_some_iff.mp same.symm
      have header : order'.header = order.header := congrArg (fun o => o.header) terms
      have lines : order'.lines = order.lines := congrArg (fun o => o.lines) terms
      rw [FakeOdoo.getSaleOrder_withoutCosts found, FakeOdoo.getSaleOrder_withoutCosts found',
        header, lines, agree.rawLines]

/-! ## The XML-RPC gateway -/

def StoredProduct.withoutCost (p : StoredProduct) : StoredProduct :=
  { p with standardPrice := 0 }

def StoredOrder.withoutGovernance (o : StoredOrder) : StoredOrder :=
  { o with approvalState := "draft", riskScore := 0, locked := false }

/-- The same of the tables behind the XML-RPC gateway. -/
structure LineStore.AgreeButCosts (s t : LineStore) : Prop where
  products : ∀ id, (s.products.lookup id).map StoredProduct.withoutCost =
    (t.products.lookup id).map StoredProduct.withoutCost
  orders : ∀ id, (s.orders.lookup id).map StoredOrder.withoutGovernance =
    (t.orders.lookup id).map StoredOrder.withoutGovernance
  lines : s.lines = t.lines

theorem LineStore.rawLine_withoutCost (s : LineStore) (l : StoredLine) :
    (s.rawLine l).withoutCost =
      let prod := (s.products.lookup l.productId).map StoredProduct.withoutCost
      let productType := (prod.map normType).getD "STOCKABLE"
      { id := l.id
        productId := l.productId
        productName := (prod.map (·.name)).getD (toString l.productId)
        categoryId := (prod.map (·.categId)).getD 1
        productType
        qty := l.productUomQty
        priceUnit := l.priceUnit
        discountPct := l.discount
        unitCost := 0
        taxRatePct := if productType = "SERVICE" then 18 else 0
        isRecurring := (prod.map isRecurring).getD false } := by
  unfold LineStore.rawLine
  cases s.products.lookup l.productId <;> rfl

theorem LineStore.AgreeButCosts.sameOrders {s t : LineStore} (agree : s.AgreeButCosts t) :
    SameButCosts lineStoreGateway s t := by
  intro orderId
  have same := agree.orders orderId
  have lines : ((s.linesOf orderId).map s.rawLine).map RawOrderLine.withoutCost =
      ((t.linesOf orderId).map t.rawLine).map RawOrderLine.withoutCost := by
    unfold LineStore.linesOf
    rw [agree.lines, List.map_map, List.map_map]
    refine List.map_congr_left fun l _ => ?_
    rw [Function.comp_apply, Function.comp_apply, LineStore.rawLine_withoutCost,
      LineStore.rawLine_withoutCost, agree.products]
  change (LineStore.getSaleOrder orderId s).1.map RawOrder.withoutCosts =
    (LineStore.getSaleOrder orderId t).1.map RawOrder.withoutCosts
  unfold LineStore.getSaleOrder
  cases found : s.orders.lookup orderId with
  | none =>
      rw [found, Option.map_none] at same
      rw [Option.map_eq_none_iff.mp same.symm]
  | some order =>
      rw [found, Option.map_some] at same
      obtain ⟨order', found', terms⟩ := Option.map_eq_some_iff.mp same.symm
      have header : order'.header = order.header := congrArg (fun o => o.header) terms
      rw [found']
      dsimp only [Except.map, RawOrder.withoutCosts]
      rw [header, lines]

end DealFlow
