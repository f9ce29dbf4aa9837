import DealFlow.Governance.Frame
import DealFlow.Odoo.Fake

/-!
# The terms of an order

What a customer agrees to, line by line (`LineTerms`): the product, the quantity, the price and the
discount.  An evaluation records them in its snapshot as the deal context rounds them
(`snapshot_terms`).

`OrderLaws` says what a gateway has to do with the terms of an order: its reads return them, and
neither reading, nor setting the governance, nor confirming changes them.  The in-memory gateway
obeys (`fakeOdooGateway_laws`).
-/

namespace DealFlow

structure LineTerms where
  lineId : ℤ
  productId : ℤ
  qty : ℚ
  priceUnit : ℚ
  discountPct : ℚ
  deriving DecidableEq, Repr

def RawOrderLine.terms (l : RawOrderLine) : LineTerms :=
  { lineId := l.id
    productId := l.productId
    qty := l.qty
    priceUnit := l.priceUnit
    discountPct := l.discountPct }

def LineSnapshot.terms (s : LineSnapshot) : LineTerms :=
  { lineId := s.lineId
    productId := s.productId
    qty := s.qty
    priceUnit := s.priceUnit
    discountPct := s.discountPct }

/-- The terms as the deal context rounds them. -/
def LineTerms.rounded (t : LineTerms) : LineTerms :=
  { t with
    qty := quantizeDec t.qty
    priceUnit := quantizeDec t.priceUnit
    discountPct := quantizeDec t.discountPct }

/-- The terms an assessment was made on. -/
def RiskAssessment.terms (s : RiskAssessment) : List LineTerms :=
  s.lineSnapshot.map LineSnapshot.terms

structure OrderLaws {σ : Type} (gateway : OdooGateway σ) (orderId : ℤ)
    (terms : σ → List LineTerms) : Prop where
  read : ∀ s raw, (gateway.getSaleOrder orderId s).1 = .ok raw →
    raw.lines.map RawOrderLine.terms = terms s
  reads : ReadsKeep gateway terms
  sets : ∀ orderId approvalState riskScore locked,
    Keeps terms (gateway.setGovernance orderId approvalState riskScore locked)
  confirms : ∀ orderId, Keeps terms (gateway.confirm orderId)

/-! ## Snapshots -/

theorem dealContextOf_terms (tables : PolicyTables) (raw : RawOrder) (stock : Availability) :
    ((dealContextOf tables raw stock).lines.map snapshotLine).map LineSnapshot.terms =
      (raw.lines.map RawOrderLine.terms).map LineTerms.rounded := by
  simp only [dealContextOf, List.map_map]
  exact List.map_congr_left fun l _ => rfl

/-- A context was built from the order that was read. -/
theorem buildDealContext_ok {σ : Type} {gateway : OdooGateway σ} {tables : PolicyTables}
    {orderId : ℤ} {odoo odoo' : σ} {ctx : DealContext}
    (built : buildDealContext gateway tables orderId odoo = (.ok ctx, odoo')) :
    ∃ raw stock, (gateway.getSaleOrder orderId odoo).1 = .ok raw ∧
      ctx = dealContextOf tables raw stock := by
  unfold buildDealContext at built
  split at built
  · cases built
  · next raw between found =>
      rw [found]
      dsimp only at built
      split at built
      · cases built
        exact ⟨raw, _, rfl, rfl⟩
      · split at built
        · cases built
          exact ⟨raw, _, rfl, rfl⟩
        · cases built
          exact ⟨raw, _, rfl, rfl⟩

/-- The snapshot of an evaluation has the terms of the order, rounded. -/
theorem snapshot_terms {σ : Type} {gateway : OdooGateway σ} {orderId : ℤ}
    {terms : σ → List LineTerms} (laws : OrderLaws gateway orderId terms) {tables : PolicyTables}
    {odoo odoo' : σ} {ctx : DealContext}
    (built : buildDealContext gateway tables orderId odoo = (.ok ctx, odoo'))
    (assessmentId : ℕ) (calcRes : RiskCalculationResult) (args : EvaluateArgs) :
    (newAssessment assessmentId ctx calcRes args).terms =
      (terms odoo).map LineTerms.rounded := by
  obtain ⟨raw, stock, read, rfl⟩ := buildDealContext_ok built
  rw [← laws.read odoo raw read]
  exact dealContextOf_terms tables raw stock

/-! ## The in-memory gateway obeys -/

def FakeLine.terms (l : FakeLine) : LineTerms :=
  { lineId := l.id
    productId := l.productId
    qty := l.qty
    priceUnit := l.priceUnit
    discountPct := l.discountPct }

/-- The terms of an in-memory order, none where there is no such order. -/
def FakeOdoo.terms (orderId : ℤ) (s : FakeOdoo) : List LineTerms :=
  match s.orders.lookup orderId with
  | none => []
  | some order => order.lines.map FakeLine.terms

theorem rawLines_terms (s : FakeOdoo) {ls : List FakeLine} {raws : List RawOrderLine}
    (read : s.rawLines ls = .ok raws) : raws.map RawOrderLine.terms = ls.map FakeLine.terms := by
  induction ls generalizing raws with
  | nil =>
      cases read
      rfl
  | cons l ls ih =>
      unfold FakeOdoo.rawLines at read
      split at read
      · cases read
      · split at read
        · cases read
        · next rest found =>
            cases read
            rw [List.map_cons, List.map_cons, ih found]
            rfl

/-- Rewriting an order without touching its lines keeps the terms of every order. -/
theorem insert_terms {s : FakeOdoo} {orderId : ℤ} {order order' : FakeOrder}
    (found : s.orders.lookup orderId = some order) (lines : order'.lines = order.lines) (id : ℤ) :
    FakeOdoo.terms id { s with orders := s.orders.insert orderId order' } = s.terms id := by
  unfold FakeOdoo.terms
  by_cases same : id = orderId
  · rw [same, found, AList.lookup_insert]
    exact congrArg (List.map FakeLine.terms) lines
  · rw [AList.lookup_insert_ne same]

theorem onOrder_keeps_terms (id orderId : ℤ) {f : FakeOrder → FakeOrder}
    (lines : ∀ order, (f order).lines = order.lines) :
    Keeps (FakeOdoo.terms id) (FakeOdoo.onOrder orderId f) := by
  intro s
  unfold FakeOdoo.onOrder
  split
  · rfl
  · next order found => exact insert_terms found (lines order) id

theorem confirm_keeps_terms (id orderId : ℤ) :
    Keeps (FakeOdoo.terms id) (FakeOdoo.confirm orderId) := by
  intro s
  unfold FakeOdoo.confirm
  split
  · rfl
  · next order found =>
      split
      · rfl
      · have lines : ({ order with header := { order.header with state := "sale" } } :
            FakeOrder).lines = order.lines := rfl
        dsimp only
        split
        · exact insert_terms found lines id
        · exact insert_terms found lines id

/-- Reading changes nothing. -/
theorem fakeOdooGateway_reads {β : Type} (f : FakeOdoo → β) : ReadsKeep fakeOdooGateway f where
  getSaleOrder id s := by
    change f (FakeOdoo.getSaleOrder id s).2 = f s
    unfold FakeOdoo.getSaleOrder
    split
    · rfl
    · split <;> rfl
  getAvailability _ _ := rfl

theorem fakeOdooGateway_laws (orderId : ℤ) :
    OrderLaws fakeOdooGateway orderId (FakeOdoo.terms orderId) where
  read s raw read := by
    change (FakeOdoo.getSaleOrder orderId s).1 = .ok raw at read
    unfold FakeOdoo.getSaleOrder at read
    unfold FakeOdoo.terms
    cases found : s.orders.lookup orderId with
    | none =>
        rw [found] at read
        cases read
    | some order =>
        rw [found] at read
        dsimp only at read ⊢
        split at read
        · cases read
        · next lines raws =>
            cases read
            exact rawLines_terms s raws
  reads := fakeOdooGateway_reads _
  sets id _ _ _ := onOrder_keeps_terms orderId id fun _ => rfl
  confirms id := confirm_keeps_terms orderId id

end DealFlow
