import DealFlow.Odoo.Interface

/-!
# The in-memory gateway

`FakeOdooGateway` of `app/odoo/fake.py`, which keeps orders, products and stock in dictionaries.
The invoices a confirmation posts are in `DealFlow.Odoo.FakeBooks`; its subscriptions, which nothing
here reads, are left out.
-/

namespace DealFlow

structure FakeProduct where
  name : String
  categoryId : ℤ
  type : String
  standardPrice : ℚ
  listPrice : ℚ
  isRecurring : Bool := false
  deriving DecidableEq, Repr

structure FakeLine where
  id : ℤ
  productId : ℤ
  qty : ℚ
  priceUnit : ℚ
  discountPct : ℚ
  taxRatePct : ℚ
  deriving DecidableEq, Repr

structure FakeOrder where
  header : RawOrderHeader
  lines : List FakeLine := []
  dealflowApprovalState : String := "draft"
  dealflowRiskScore : ℚ := 0
  dealflowLocked : Bool := false
  deriving DecidableEq, Repr

structure FakeOdoo where
  products : AList fun _ : ℤ => FakeProduct
  stock : AList fun _ : ℤ => AList fun _ : ℤ => ℤ
  orders : AList fun _ : ℤ => FakeOrder
  lineSeq : ℤ := 1000
  deriving DecidableEq

namespace FakeOdoo

def orderNotFound (orderId : ℤ) : OdooError :=
  .other s!"Sale order {orderId} not found in fake Odoo"

/-- The price list entry of a product; a missing key raises. -/
def product (s : FakeOdoo) (productId : ℤ) : Except OdooError FakeProduct :=
  match s.products.lookup productId with
  | none => .error (.other (toString productId))
  | some prod => .ok prod

def rawLine (l : FakeLine) (prod : FakeProduct) : RawOrderLine :=
  { id := l.id
    productId := l.productId
    productName := prod.name
    categoryId := prod.categoryId
    productType := prod.type
    qty := l.qty
    priceUnit := l.priceUnit
    discountPct := l.discountPct
    unitCost := prod.standardPrice
    taxRatePct := l.taxRatePct
    isRecurring := prod.isRecurring }

def rawLines (s : FakeOdoo) : List FakeLine → Except OdooError (List RawOrderLine)
  | [] => .ok []
  | l :: ls =>
      match s.product l.productId with
      | .error e => .error e
      | .ok prod =>
          match rawLines s ls with
          | .error e => .error e
          | .ok rest => .ok (rawLine l prod :: rest)

def getSaleOrder (orderId : ℤ) : OdooCall FakeOdoo RawOrder := fun s =>
  match s.orders.lookup orderId with
  | none => (.error (orderNotFound orderId), s)
  | some order =>
      match s.rawLines order.lines with
      | .error e => (.error e, s)
      | .ok lines => (.ok { header := order.header, lines }, s)

/-- The stock of a product in the three warehouses. -/
def stockRow (s : FakeOdoo) (productId : ℤ) : AList fun _ : ℤ => ℤ :=
  let warehouseMap := (s.stock.lookup productId).getD ∅
  [1, 2, 3].foldl (fun row wid => row.insert wid ((warehouseMap.lookup wid).getD 0)) ∅

def getAvailability (productIds : List ℤ) : OdooCall FakeOdoo Availability := fun s =>
  (.ok fun productId => if productId ∈ productIds then s.stockRow productId else ∅, s)

/-- Apply `f` to an order, which has to exist. -/
def onOrder (orderId : ℤ) (f : FakeOrder → FakeOrder) : OdooCall FakeOdoo Unit := fun s =>
  match s.orders.lookup orderId with
  | none => (.error (orderNotFound orderId), s)
  | some order => (.ok (), { s with orders := s.orders.insert orderId (f order) })

def changeLine (lines : List FakeLine) (c : LineChange) : List FakeLine :=
  lines.map fun l =>
    if l.id = c.lineId then
      { l with discountPct := c.discount.getD l.discountPct, qty := c.qty.getD l.qty }
    else l

def applyLineChanges (orderId : ℤ) (changes : List LineChange) : OdooCall FakeOdoo Unit :=
  onOrder orderId fun order => { order with lines := changes.foldl changeLine order.lines }

def addLine (orderId productId : ℤ) (qty discount : ℚ) : OdooCall FakeOdoo ℤ := fun s =>
  match s.orders.lookup orderId with
  | none => (.error (orderNotFound orderId), s)
  | some order =>
      let lineId := s.lineSeq + 1
      match s.product productId with
      | .error e => (.error e, { s with lineSeq := lineId })
      | .ok prod =>
          let newLine : FakeLine :=
            { id := lineId
              productId
              qty
              priceUnit := prod.listPrice
              discountPct := discount
              taxRatePct := if prod.type = "SERVICE" then 18 else 0 }
          (.ok lineId,
            { s with
              lineSeq := lineId
              orders := s.orders.insert orderId
                { order with lines := order.lines ++ [newLine] } })

def setGovernance (orderId : ℤ) (approvalState : String) (riskScore : ℚ) (locked : Bool) :
    OdooCall FakeOdoo Unit :=
  onOrder orderId fun order =>
    { order with
      dealflowApprovalState := approvalState
      dealflowRiskScore := riskScore
      dealflowLocked := locked }

/-- A locked order is refused.  The invoice is seeded after the state is written, so a product
that is gone raises on a confirmed order. -/
def confirm (orderId : ℤ) : OdooCall FakeOdoo Unit := fun s =>
  match s.orders.lookup orderId with
  | none => (.error (orderNotFound orderId), s)
  | some order =>
      if order.dealflowLocked = true then
        (.error (.other "Order locked pending DealFlow approval"), s)
      else
        let sold : FakeOrder := { order with header := { order.header with state := "sale" } }
        let s' := { s with orders := s.orders.insert orderId sold }
        match s.rawLines order.lines with
        | .error e => (.error e, s')
        | .ok _ => (.ok (), s')

end FakeOdoo

/-- The gateway of the tests and of development without Odoo. -/
def fakeOdooGateway : OdooGateway FakeOdoo where
  getSaleOrder := FakeOdoo.getSaleOrder
  getAvailability := FakeOdoo.getAvailability
  applyLineChanges := FakeOdoo.applyLineChanges
  addLine := FakeOdoo.addLine
  setGovernance := FakeOdoo.setGovernance
  confirm := FakeOdoo.confirm

/-- Write the lines of an order from outside the application. -/
def FakeOdoo.editLines (orderId : ℤ) (edit : List FakeLine → List FakeLine) (s : FakeOdoo) :
    FakeOdoo :=
  (onOrder orderId (fun order => { order with lines := edit order.lines }) s).2

end DealFlow
