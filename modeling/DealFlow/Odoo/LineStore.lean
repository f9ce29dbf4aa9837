import DealFlow.Odoo.Interface

/-!
# The XML-RPC gateway over a store of order lines

`XmlRpcOdooGateway` of `app/odoo/xmlrpc.py` on an Odoo without the addon's methods.  Each first
attempt then raises `OdooCapabilityMissing`, and what is here is what the gateway falls back to:
reads and writes on the tables of Odoo.  Order lines are one table, keyed by line id, a line naming
its order; Odoo raises on a record that is not there.
-/

namespace DealFlow

structure StoredProduct where
  name : String
  categId : ℤ
  detailedType : String
  standardPrice : ℚ
  listPrice : ℚ
  deriving DecidableEq, Repr

structure StoredLine where
  id : ℤ
  orderId : ℤ
  productId : ℤ
  productUomQty : ℚ
  priceUnit : ℚ
  discount : ℚ
  deriving DecidableEq, Repr

structure StoredOrder where
  header : RawOrderHeader
  approvalState : String := "draft"
  riskScore : ℚ := 0
  locked : Bool := false
  deriving DecidableEq, Repr

/-- The tables.  `lineSeq` is the last line id handed out, the first being 1. -/
structure LineStore where
  products : AList fun _ : ℤ => StoredProduct
  orders : AList fun _ : ℤ => StoredOrder
  quants : AList fun _ : ℤ => AList fun _ : ℤ => ℤ
  lines : List StoredLine
  lineSeq : ℕ
  keyed : (lines.map (·.id)).Nodup
  handedOut : ∀ l ∈ lines, 0 < l.id ∧ l.id ≤ lineSeq

/-- A line change on a row; an absent value is left alone. -/
def StoredLine.write (c : LineChange) (l : StoredLine) : StoredLine :=
  { l with productUomQty := c.qty.getD l.productUomQty, discount := c.discount.getD l.discount }

/-- The write on the row of a change, as a function on all rows. -/
def StoredLine.writeAt (c : LineChange) (l : StoredLine) : StoredLine :=
  if l.id = c.lineId then l.write c else l

@[simp] theorem StoredLine.writeAt_id (c : LineChange) (l : StoredLine) :
    (l.writeAt c).id = l.id := by
  unfold StoredLine.writeAt
  split <;> rfl

@[simp] theorem StoredLine.writeAt_orderId (c : LineChange) (l : StoredLine) :
    (l.writeAt c).orderId = l.orderId := by
  unfold StoredLine.writeAt
  split <;> rfl

namespace LineStore

def missingRecord : OdooError :=
  .other "Record does not exist or has been deleted."

/-- The lines of an order. -/
def linesOf (s : LineStore) (orderId : ℤ) : List StoredLine :=
  s.lines.filter fun l => l.orderId = orderId

/-! ## Reading -/

/-- The name has the word, in any case. -/
def mentions (name word : String) : Bool :=
  1 < (name.toLower.splitOn word).length

def isRecurring (p : StoredProduct) : Bool :=
  mentions p.name "support" || mentions p.name "backup" || mentions p.name "subscription"

def normType (p : StoredProduct) : String :=
  if isRecurring p then "SUBSCRIPTION"
  else if p.detailedType = "product" then "STOCKABLE"
  else "SERVICE"

def rawLine (s : LineStore) (l : StoredLine) : RawOrderLine :=
  let prod := s.products.lookup l.productId
  let productType := (prod.map normType).getD "STOCKABLE"
  { id := l.id
    productId := l.productId
    productName := (prod.map (·.name)).getD (toString l.productId)
    categoryId := (prod.map (·.categId)).getD 1
    productType
    qty := l.productUomQty
    priceUnit := l.priceUnit
    discountPct := l.discount
    unitCost := (prod.map (·.standardPrice)).getD 0
    taxRatePct := if productType = "SERVICE" then 18 else 0
    isRecurring := (prod.map isRecurring).getD false }

def getSaleOrder (orderId : ℤ) : OdooCall LineStore RawOrder := fun s =>
  match s.orders.lookup orderId with
  | none => (.error (.other s!"Sale order {orderId} not found in Odoo"), s)
  | some order => (.ok { header := order.header, lines := (s.linesOf orderId).map s.rawLine }, s)

def getAvailability (productIds : List ℤ) : OdooCall LineStore Availability := fun s =>
  (.ok fun productId =>
    if productId ∈ productIds then (s.quants.lookup productId).getD ∅ else ∅, s)

/-! ## Writing -/

/-- The table with a change written to the row it names. -/
def writeRow (c : LineChange) (s : LineStore) : LineStore :=
  { s with
    lines := s.lines.map (·.writeAt c)
    keyed := by
      have same : (s.lines.map (·.writeAt c)).map (·.id) = s.lines.map (·.id) := by
        rw [List.map_map]
        exact List.map_congr_left fun l _ => StoredLine.writeAt_id c l
      rw [same]
      exact s.keyed
    handedOut := by
      intro l mem
      obtain ⟨old, memOld, rfl⟩ := List.mem_map.mp mem
      rw [old.writeAt_id]
      exact s.handedOut old memOld }

/-- `execute("sale.order.line", "write", [lid], vals)`. -/
def writeLine (c : LineChange) : OdooCall LineStore Unit := fun s =>
  if s.lines.any fun l => l.id = c.lineId then (.ok (), s.writeRow c) else (.error missingRecord, s)

/-- `apply_line_changes`: one write a change, whatever order its line is of; a change without values
is skipped. -/
def applyLineChanges (orderId : ℤ) : List LineChange → OdooCall LineStore Unit
  | [], s => (.ok (), s)
  | c :: cs, s =>
      if (c.qty.isSome || c.discount.isSome) = true ∧ c.lineId ≠ 0 then
        match writeLine c s with
        | (.error e, s') => (.error e, s')
        | (.ok (), s') => applyLineChanges orderId cs s'
      else applyLineChanges orderId cs s

/-- A new row at the end of the table. -/
def createLine (orderId productId : ℤ) (qty discount priceUnit : ℚ) (s : LineStore) : LineStore :=
  { s with
    lineSeq := s.lineSeq + 1
    lines := s.lines ++
      [{ id := s.lineSeq + 1, orderId, productId, productUomQty := qty, priceUnit, discount }]
    keyed := by
      rw [List.map_append, List.map_singleton, List.nodup_append]
      refine ⟨s.keyed, List.nodup_singleton _, ?_⟩
      intro old memOld new memNew
      obtain ⟨l, mem, rfl⟩ := List.mem_map.mp memOld
      obtain ⟨-, older⟩ := s.handedOut l mem
      rw [List.mem_singleton.mp memNew]
      dsimp only
      omega
    handedOut := by
      intro l mem
      rcases List.mem_append.mp mem with old | new
      · obtain ⟨positive, older⟩ := s.handedOut l old
        push_cast
        omega
      · rw [List.mem_singleton.mp new]
        push_cast
        omega }

def addLine (orderId productId : ℤ) (qty discount : ℚ) : OdooCall LineStore ℤ := fun s =>
  match s.orders.lookup orderId, s.products.lookup productId with
  | some _, some prod =>
      (.ok (s.lineSeq + 1), s.createLine orderId productId qty discount prod.listPrice)
  | _, _ => (.error missingRecord, s)

/-- A `write` on the row of an order. -/
def writeOrder (orderId : ℤ) (f : StoredOrder → StoredOrder) : OdooCall LineStore Unit := fun s =>
  match s.orders.lookup orderId with
  | none => (.error missingRecord, s)
  | some order => (.ok (), { s with orders := s.orders.insert orderId (f order) })

end LineStore

/-- The fallbacks of the gateway. -/
def lineStoreGateway : OdooGateway LineStore where
  getSaleOrder := LineStore.getSaleOrder
  getAvailability := LineStore.getAvailability
  applyLineChanges := LineStore.applyLineChanges
  addLine := LineStore.addLine
  setGovernance orderId approvalState riskScore locked :=
    LineStore.writeOrder orderId fun order => { order with approvalState, riskScore, locked }
  confirm orderId :=
    LineStore.writeOrder orderId fun order =>
      { order with header := { order.header with state := "sale" } }

end DealFlow
