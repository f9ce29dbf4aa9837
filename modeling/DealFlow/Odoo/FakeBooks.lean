import DealFlow.Lib.Cents
import DealFlow.Odoo.Fake
import DealFlow.Odoo.Interface

/-!
# The books of the in-memory gateway

The rest of `FakeOdooGateway`: a confirmation posts an invoice over the lines that do not recur,
payments are registered on invoices, and a fulfilment plan takes its quantities from the stock.
Amounts are rationals, rounded where the source rounds.

The dictionary of invoices keeps the order in which its keys came in, which is the order a payment
looks through it.  Subscriptions, payments and pickings, which nothing here reads, are left out.
-/

namespace DealFlow

open Lib

structure FakeInvoice where
  id : ℤ
  number : String
  state : String
  amountTotal : ℚ
  amountResidual : ℚ
  amountPaid : ℚ
  paymentState : Option String := none
  deriving DecidableEq, Repr

structure FakeBooks extends FakeOdoo where
  invoices : List (ℤ × List FakeInvoice) := []
  pickingSeq : ℤ := 0
  deriving DecidableEq

namespace FakeBooks

/-- `self.invoices[key] = value`. -/
def setInvoices (key : ℤ) (value : List FakeInvoice) :
    List (ℤ × List FakeInvoice) → List (ℤ × List FakeInvoice)
  | [] => [(key, value)]
  | (k, old) :: rest =>
      if k = key then (k, value) :: rest else (k, old) :: setInvoices key value rest

/-- `self.invoices.get(key, [])`. -/
def invoicesOf (key : ℤ) : List (ℤ × List FakeInvoice) → List FakeInvoice
  | [] => []
  | (k, invs) :: rest => if k = key then invs else invoicesOf key rest

def netAmount (l : RawOrderLine) : ℚ :=
  l.priceUnit * l.qty * (1 - l.discountPct / 100)

/-- The invoice a confirmation posts. -/
def openingInvoice (orderId : ℤ) (lines : List RawOrderLine) : FakeInvoice :=
  let total := roundCents ((lines.filter fun l => !l.isRecurring).map netAmount).sum
  { id := orderId * 10 + 1
    number := s!"INV/{orderId}/001"
    state := "posted"
    amountTotal := total
    amountResidual := total
    amountPaid := 0 }

/-- The invoices of an order are replaced, whatever they were. -/
def seedInvoices (orderId : ℤ) (lines : List RawOrderLine) (s : FakeBooks) : FakeBooks :=
  if lines.any (fun l => !l.isRecurring) then
    { s with invoices := setInvoices orderId [openingInvoice orderId lines] s.invoices }
  else s

def confirm (orderId : ℤ) : OdooCall FakeBooks Unit := fun s =>
  match s.orders.lookup orderId with
  | none => (.error (FakeOdoo.orderNotFound orderId), s)
  | some order =>
      if order.dealflowLocked = true then
        (.error (.other "Order locked pending DealFlow approval"), s)
      else
        let sold : FakeOrder := { order with header := { order.header with state := "sale" } }
        let s' := { s with orders := s.orders.insert orderId sold }
        match s.rawLines order.lines with
        | .error e => (.error e, s')
        | .ok lines => (.ok (), seedInvoices orderId lines s')

/-- A payment on an invoice. -/
def FakeInvoice.pay (amount : ℚ) (inv : FakeInvoice) : FakeInvoice :=
  let paid := inv.amountPaid + amount
  let residual := max 0 (inv.amountTotal - paid)
  { inv with
    amountPaid := roundCents paid
    amountResidual := roundCents residual
    paymentState := some (if residual = 0 then "paid" else "partial") }

/-- Pay the first invoice of an id. -/
def payFirst (invoiceId : ℤ) (amount : ℚ) : List FakeInvoice → Option (List FakeInvoice)
  | [] => none
  | inv :: rest =>
      if inv.id = invoiceId then some (FakeInvoice.pay amount inv :: rest)
      else (payFirst invoiceId amount rest).map (inv :: ·)

/-- Pay the first invoice of an id among those of all orders. -/
def payAmong (invoiceId : ℤ) (amount : ℚ) :
    List (ℤ × List FakeInvoice) → Option (List (ℤ × List FakeInvoice))
  | [] => none
  | (oid, invs) :: rest =>
      match payFirst invoiceId amount invs with
      | some paid => some ((oid, paid) :: rest)
      | none => (payAmong invoiceId amount rest).map ((oid, invs) :: ·)

def registerPayment (invoiceId : ℤ) (amount : ℚ) : OdooCall FakeBooks PaymentRecord := fun s =>
  match payAmong invoiceId amount s.invoices with
  | none => (.ok { id := none, invoiceId, amount }, s)
  | some invoices =>
      (.ok { id := some (invoiceId * 100 + 1), invoiceId, amount }, { s with invoices })

/-- The warehouses of a plan, each once, in the order they come up. -/
def pickedWarehouses (allocations : List AllocationPayload) : List ℤ :=
  ((allocations.map (·.warehouseId)).filter (· ≠ 0)).reverse.dedup.reverse

/-- Take an allocation from the stock; a product not stocked there is left alone. -/
def deductStock (s : FakeBooks) (a : AllocationPayload) : FakeBooks :=
  match s.stock.lookup a.productId with
  | none => s
  | some row =>
      match row.lookup a.warehouseId with
      | none => s
      | some held =>
          { s with
            stock := s.stock.insert a.productId (row.insert a.warehouseId (max 0 (held - a.qty))) }

/-- One picking for each warehouse. -/
def applyFulfillmentPlan (orderId : ℤ) (allocations : List AllocationPayload) :
    OdooCall FakeBooks (List ℤ) := fun s =>
  match s.orders.lookup orderId with
  | none => (.error (FakeOdoo.orderNotFound orderId), s)
  | some _ =>
      let warehouses := pickedWarehouses allocations
      let picked := (allocations.filter (·.warehouseId ≠ 0)).foldl deductStock s
      (.ok ((List.range warehouses.length).map fun k => s.pickingSeq + k + 1),
        { picked with pickingSeq := s.pickingSeq + warehouses.length })

/-- A call that is about the orders alone. -/
def onFake {α : Type} (call : OdooCall FakeOdoo α) : OdooCall FakeBooks α := fun s =>
  ((call s.toFakeOdoo).1, { s with toFakeOdoo := (call s.toFakeOdoo).2 })

end FakeBooks

/-- The in-memory gateway with its books. -/
def fakeBooksGateway : BackOfficeGateway FakeBooks where
  getSaleOrder orderId := FakeBooks.onFake (FakeOdoo.getSaleOrder orderId)
  getAvailability productIds := FakeBooks.onFake (FakeOdoo.getAvailability productIds)
  applyLineChanges orderId changes := FakeBooks.onFake (FakeOdoo.applyLineChanges orderId changes)
  addLine orderId productId qty discount :=
    FakeBooks.onFake (FakeOdoo.addLine orderId productId qty discount)
  setGovernance orderId approvalState riskScore locked :=
    FakeBooks.onFake (FakeOdoo.setGovernance orderId approvalState riskScore locked)
  confirm := FakeBooks.confirm
  applyFulfillmentPlan := FakeBooks.applyFulfillmentPlan
  registerPayment := FakeBooks.registerPayment

/-- Carrying out a plan changes the stock and the number of pickings only. -/
theorem FakeBooks.applyFulfillmentPlan_keeps {β : Type} {f : FakeBooks → β}
    (stock : ∀ (s : FakeBooks) stock, f { s with stock } = f s)
    (seq : ∀ (s : FakeBooks) pickingSeq, f { s with pickingSeq } = f s) (orderId : ℤ)
    (allocations : List AllocationPayload) (s : FakeBooks) :
    f (FakeBooks.applyFulfillmentPlan orderId allocations s).2 = f s := by
  have deducted : ∀ (allocations : List AllocationPayload) (s : FakeBooks),
      f (allocations.foldl FakeBooks.deductStock s) = f s := by
    intro allocations
    induction allocations with
    | nil => exact fun _ => rfl
    | cons a allocations ih =>
        intro s
        rw [List.foldl_cons, ih]
        unfold FakeBooks.deductStock
        split
        · rfl
        · split
          · rfl
          · exact stock s _
  unfold FakeBooks.applyFulfillmentPlan
  split
  · rfl
  · exact (seq _ _).trans (deducted _ s)

/-- Apart from its invoices, a confirmation does what the gateway without books does. -/
theorem FakeBooks.confirm_fake (orderId : ℤ) (s : FakeBooks) :
    (FakeBooks.confirm orderId s).1 = (FakeOdoo.confirm orderId s.toFakeOdoo).1 ∧
      (FakeBooks.confirm orderId s).2.toFakeOdoo =
        (FakeOdoo.confirm orderId s.toFakeOdoo).2 := by
  unfold FakeBooks.confirm FakeOdoo.confirm
  cases s.orders.lookup orderId with
  | none => exact ⟨rfl, rfl⟩
  | some order =>
      dsimp only
      split
      · exact ⟨rfl, rfl⟩
      · cases s.rawLines order.lines with
        | error e => exact ⟨rfl, rfl⟩
        | ok lines =>
            refine ⟨rfl, ?_⟩
            dsimp only
            unfold FakeBooks.seedInvoices
            split <;> rfl

/-! ## What is paid -/

/-- The amount paid on some invoices. -/
def amountPaidOn (invs : List FakeInvoice) : ℚ :=
  (invs.map (·.amountPaid)).sum

/-- What is paid on each invoice is a whole number of cents. -/
def PaidInCents (invs : List FakeInvoice) : Prop :=
  ∀ inv ∈ invs, IsCents inv.amountPaid

namespace FakeBooks

@[simp] theorem invoicesOf_setInvoices (key : ℤ) (value : List FakeInvoice)
    (books : List (ℤ × List FakeInvoice)) :
    invoicesOf key (setInvoices key value books) = value := by
  induction books with
  | nil => exact if_pos rfl
  | cons entry rest ih =>
      rcases entry with ⟨k, old⟩
      unfold setInvoices
      split
      · next same => exact if_pos same
      · next other => exact (if_neg other).trans ih

/-- A payment raises what is paid on one invoice of the list. -/
theorem payFirst_raises {invoiceId : ℤ} {amount : ℚ} {invs paid : List FakeInvoice}
    (first : payFirst invoiceId amount invs = some paid) (positive : 0 < amount)
    (cents : PaidInCents invs) : amountPaidOn invs ≤ amountPaidOn paid ∧ PaidInCents paid := by
  induction invs generalizing paid with
  | nil => cases first
  | cons inv rest ih =>
      obtain ⟨own, others⟩ := List.forall_mem_cons.mp cents
      unfold payFirst at first
      split at first
      · cases first
        refine ⟨?_, List.forall_mem_cons.mpr ⟨isCents_roundCents _, others⟩⟩
        have more := le_roundCents_add own positive
        unfold amountPaidOn
        rw [List.map_cons, List.map_cons, List.sum_cons, List.sum_cons]
        exact add_le_add_left more _
      · obtain ⟨paid', later, rfl⟩ := Option.map_eq_some_iff.mp first
        obtain ⟨more, cents'⟩ := ih later others
        refine ⟨?_, List.forall_mem_cons.mpr ⟨own, cents'⟩⟩
        unfold amountPaidOn at more ⊢
        rw [List.map_cons, List.map_cons, List.sum_cons, List.sum_cons]
        exact add_le_add_right more _

/-- A payment among the books leaves the invoices of an order alone or is on one of them. -/
theorem payAmong_invoicesOf {invoiceId : ℤ} {amount : ℚ}
    {books paid : List (ℤ × List FakeInvoice)} (among : payAmong invoiceId amount books = some paid)
    (key : ℤ) :
    invoicesOf key paid = invoicesOf key books ∨
      payFirst invoiceId amount (invoicesOf key books) = some (invoicesOf key paid) := by
  induction books generalizing paid with
  | nil => cases among
  | cons entry rest ih =>
      rcases entry with ⟨oid, invs⟩
      unfold payAmong at among
      split at among
      · next paidHere first =>
          cases among
          unfold invoicesOf
          by_cases same : oid = key
          · rw [if_pos same, if_pos same]
            exact .inr first
          · rw [if_neg same, if_neg same]
            exact .inl rfl
      · obtain ⟨paidLater, later, rfl⟩ := Option.map_eq_some_iff.mp among
        unfold invoicesOf
        by_cases same : oid = key
        · rw [if_pos same, if_pos same]
          exact .inl rfl
        · rw [if_neg same, if_neg same]
          exact ih later

/-- A payment of a positive amount lowers what is paid on no order. -/
theorem registerPayment_raises (invoiceId : ℤ) {amount : ℚ} (positive : 0 < amount) (key : ℤ)
    {s : FakeBooks} (cents : PaidInCents (invoicesOf key s.invoices)) :
    amountPaidOn (invoicesOf key s.invoices) ≤
        amountPaidOn (invoicesOf key (registerPayment invoiceId amount s).2.invoices) ∧
      PaidInCents (invoicesOf key (registerPayment invoiceId amount s).2.invoices) ∧
      (invoicesOf key s.invoices = [] →
        invoicesOf key (registerPayment invoiceId amount s).2.invoices = []) := by
  unfold registerPayment
  split
  · exact ⟨le_rfl, cents, id⟩
  · next invoices among =>
      rcases payAmong_invoicesOf among key with same | first
      · rw [same]
        exact ⟨le_rfl, cents, id⟩
      · obtain ⟨more, cents'⟩ := payFirst_raises first positive cents
        refine ⟨more, cents', fun none => ?_⟩
        rw [none] at first
        cases first

/-- What a confirmation does to the invoices: a refusal leaves them alone, and an order that had
none has nothing paid on it. -/
theorem confirm_invoices (orderId : ℤ) (s : FakeBooks) :
    ((FakeBooks.confirm orderId s).1.isOk = false ∧
        (FakeBooks.confirm orderId s).2.invoices = s.invoices) ∨
      (FakeBooks.confirm orderId s).1.isOk = true ∧
        ((FakeBooks.confirm orderId s).2.invoices = s.invoices ∨
          ∃ lines, invoicesOf orderId (FakeBooks.confirm orderId s).2.invoices =
            [openingInvoice orderId lines]) := by
  unfold FakeBooks.confirm
  cases s.orders.lookup orderId with
  | none => exact .inl ⟨rfl, rfl⟩
  | some order =>
      dsimp only
      split
      · exact .inl ⟨rfl, rfl⟩
      · split
        · exact .inl ⟨rfl, rfl⟩
        · next lines read =>
            right
            unfold seedInvoices
            split
            · exact ⟨rfl, .inr ⟨lines, invoicesOf_setInvoices ..⟩⟩
            · exact ⟨rfl, .inl rfl⟩

/-- A confirmation of an order without invoices leaves nothing paid on it, and where it is refused
still no invoice. -/
theorem confirm_unpaid {orderId : ℤ} {s : FakeBooks} (none : invoicesOf orderId s.invoices = []) :
    PaidInCents (invoicesOf orderId (FakeBooks.confirm orderId s).2.invoices) ∧
      amountPaidOn (invoicesOf orderId (FakeBooks.confirm orderId s).2.invoices) = 0 ∧
      ((FakeBooks.confirm orderId s).1.isOk = false →
        invoicesOf orderId (FakeBooks.confirm orderId s).2.invoices = []) := by
  have empty : PaidInCents [] ∧ amountPaidOn [] = 0 := ⟨List.forall_mem_nil _, rfl⟩
  rcases confirm_invoices orderId s with ⟨-, same⟩ | ⟨answer, same | ⟨lines, opened⟩⟩
  · rw [same, none]
    exact ⟨empty.1, empty.2, fun _ => rfl⟩
  · rw [same, none]
    exact ⟨empty.1, empty.2, fun _ => rfl⟩
  · rw [opened]
    refine ⟨?_, ?_, fun refused => ?_⟩
    · intro inv mem
      rw [List.mem_singleton.mp mem]
      exact ⟨0, by simp [openingInvoice]⟩
    · simp [amountPaidOn, openingInvoice]
    · cases answer.symm.trans refused

end FakeBooks

end DealFlow
