import DealFlow.Odoo.FakeBooks

/-!
# Products and warehouses on the Odoo side

The reads of `OdooGateway` a fulfilment plan is computed from, and those of the in-memory gateway.
-/

namespace DealFlow

structure RawProduct where
  id : ℤ
  type : String
  isRecurring : Bool := false
  deriving DecidableEq, Repr

structure RawWarehouse where
  id : ℤ
  name : String
  code : String
  deriving DecidableEq, Repr

/-- The gateway with the reads a proposal makes. -/
structure WarehouseGateway (σ : Type) extends BackOfficeGateway σ where
  getProducts : List ℤ → OdooCall σ (AList fun _ : ℤ => RawProduct)
  getWarehouses : OdooCall σ (List RawWarehouse)
  /-- Stock of products in the warehouses given second. -/
  getAvailabilityIn : List ℤ → List ℤ → OdooCall σ Availability

namespace FakeBooks

/-- The products that are there; a missing one is left out. -/
def getProducts (productIds : List ℤ) : OdooCall FakeBooks (AList fun _ : ℤ => RawProduct) :=
  fun s =>
    (.ok (productIds.foldl (fun found pid =>
      match s.products.lookup pid with
      | none => found
      | some p => found.insert pid { id := pid, type := p.type, isRecurring := p.isRecurring }) ∅),
      s)

/-- The warehouses are fixed. -/
def getWarehouses : OdooCall FakeBooks (List RawWarehouse) := fun s =>
  (.ok
    [{ id := 1, name := "Main Warehouse", code := "MAIN" },
      { id := 2, name := "East Depot", code := "EAST" },
      { id := 3, name := "West Hub", code := "WEST" }], s)

/-- No warehouses given means all three. -/
def getAvailabilityIn (productIds warehouseIds : List ℤ) : OdooCall FakeBooks Availability :=
  fun s =>
    let stockOf := fun productId =>
      let warehouseMap := (s.stock.lookup productId).getD ∅
      (if warehouseIds = [] then [1, 2, 3] else warehouseIds).foldl
        (fun row wid => row.insert wid ((warehouseMap.lookup wid).getD 0)) ∅
    (.ok fun productId => if productId ∈ productIds then stockOf productId else ∅, s)

end FakeBooks

def fakeWarehouseGateway : WarehouseGateway FakeBooks where
  toBackOfficeGateway := fakeBooksGateway
  getProducts := FakeBooks.getProducts
  getWarehouses := FakeBooks.getWarehouses
  getAvailabilityIn := FakeBooks.getAvailabilityIn

end DealFlow
