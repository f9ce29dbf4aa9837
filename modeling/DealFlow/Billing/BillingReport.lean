import DealFlow.Odoo.FakePayments
import DealFlow.Services.DealReports

/-!
# The billing report over the in-memory gateway

`FakeOdooGateway.confirm` with the subscription it opens, and `get_billing_summary`, on the books of
`DealFlow.Odoo.FakePayments`.

After any run of confirmations and payments, where each payment is a part in cents of what is left
of its invoice, the billing report of any deals balances: what is invoiced is what is paid and what
is outstanding.  The report that goes by the caches of the deals always balances
(`billing_report_balances`).
-/

namespace DealFlow

open Lib

/-! ## The gateway -/

structure FakeSubscription where
  id : ℤ
  code : String
  state : String
  recurringTotal : ℚ
  deriving DecidableEq, Repr

/-- The books with the subscriptions by order. -/
structure FakeBilling extends FakePayments where
  subscriptions : Dict ℤ (List FakeSubscription) := .empty

namespace FakeBilling

def openingSubscription (orderId : ℤ) (lines : List RawOrderLine) : FakeSubscription :=
  { id := orderId * 10 + 2
    code := s!"SUB/{orderId}/001"
    state := "in_progress"
    recurringTotal :=
      roundCents ((lines.filter fun l => l.isRecurring).map FakeBooks.netAmount).sum }

def seedSubscriptions (orderId : ℤ) (lines : List RawOrderLine)
    (subscriptions : Dict ℤ (List FakeSubscription)) : Dict ℤ (List FakeSubscription) :=
  if lines.any (fun l => l.isRecurring) then
    subscriptions.set orderId [openingSubscription orderId lines]
  else subscriptions

def confirm (orderId : ℤ) : OdooCall FakeBilling Unit := fun s =>
  match s.orders.lookup orderId with
  | none => (.error (FakeOdoo.orderNotFound orderId), s)
  | some order =>
      if order.dealflowLocked = true then
        (.error (.other "Order locked pending DealFlow approval"), s)
      else
        let sold : FakeOrder := { order with header := { order.header with state := "sale" } }
        let s' := { s with orders := s.orders.insert orderId sold }
        match s.rawLines order.lines with
        | .error e => (.error e, s')
        | .ok lines =>
            (.ok (),
              { s' with
                toFakeBooks := FakeBooks.seedInvoices orderId lines s'.toFakeBooks
                subscriptions := seedSubscriptions orderId lines s.subscriptions })

/-- The answer and the books are those of the gateway without subscriptions. -/
theorem confirm_books (orderId : ℤ) (s : FakeBilling) :
    (confirm orderId s).1 = (FakeBooks.confirm orderId s.toFakeBooks).1 ∧
      (confirm orderId s).2.toFakeBooks = (FakeBooks.confirm orderId s.toFakeBooks).2 := by
  unfold confirm FakeBooks.confirm
  cases found : s.orders.lookup orderId with
  | none => exact ⟨rfl, rfl⟩
  | some order =>
      dsimp only
      by_cases locked : order.dealflowLocked = true
      · rw [if_pos locked, if_pos locked]
        exact ⟨rfl, rfl⟩
      · rw [if_neg locked, if_neg locked]
        cases known : s.rawLines order.lines with
        | error e => exact ⟨rfl, rfl⟩
        | ok lines => exact ⟨rfl, rfl⟩

def billedInvoice (inv : FakeInvoice) : BilledInvoice :=
  { amountTotal := inv.amountTotal
    amountPaid := inv.amountPaid
    amountResidual := inv.amountResidual }

def billedSubscription (sub : FakeSubscription) : BilledSubscription :=
  { state := sub.state, recurringTotal := sub.recurringTotal }

/-- An order that is not there has no billing, and the products of its lines are looked up. -/
def getBillingSummary (s : FakeBilling) (orderId : ℤ) : Except OdooError RawBillingSummary :=
  match s.orders.lookup orderId with
  | none => .ok {}
  | some order =>
      match s.rawLines order.lines with
      | .error e => .error e
      | .ok _ =>
          .ok
            { invoices := (FakeBooks.invoicesOf orderId s.invoices).map billedInvoice
              subscriptions :=
                ((s.subscriptions.get orderId).getD []).map billedSubscription }

end FakeBilling

inductive BillingOp
  | confirm (orderId : ℤ)
  | pay (call : PaymentCall)

def BillingOp.step (op : BillingOp) (s : FakeBilling) : FakeBilling :=
  match op with
  | .confirm orderId => (FakeBilling.confirm orderId s).2
  | .pay call => { s with toFakePayments := call.step s.toFakePayments }

/-- A payment is a part in cents of what is left of its invoice. -/
def BillingOp.IsPart (s : FakeBilling) : BillingOp → Prop
  | .confirm _ => True
  | .pay call => ∀ inv ∈ s.allInvoices, inv.id = call.invoiceId →
      IsCents call.amount ∧ call.amount ≤ inv.amountResidual

/-! ## Balanced invoices -/

/-- What is paid and what is left make up the total, all in cents. -/
structure FakeInvoice.Balanced (inv : FakeInvoice) : Prop where
  total : IsCents inv.amountTotal
  paid : IsCents inv.amountPaid
  balance : inv.amountPaid + inv.amountResidual = inv.amountTotal

theorem openingInvoice_balanced (orderId : ℤ) (lines : List RawOrderLine) :
    (FakeBooks.openingInvoice orderId lines).Balanced where
  total := isCents_roundCents _
  paid := isCents_zero
  balance := zero_add _

theorem FakeInvoice.Balanced.pay {inv : FakeInvoice} {amount : ℚ} (balanced : inv.Balanced)
    (cents : IsCents amount) (part : amount ≤ inv.amountResidual) :
    (FakeBooks.FakeInvoice.pay amount inv).Balanced := by
  obtain ⟨sum, -, paid⟩ :=
    (pay_balanced_iff balanced.total balanced.paid balanced.balance).mpr ⟨cents, part⟩
  refine ⟨balanced.total, ?_, sum⟩
  rw [paid]
  exact balanced.paid.add cents

theorem payFirst_forall {P : FakeInvoice → Prop} {invoiceId : ℤ} {amount : ℚ}
    {invs after : List FakeInvoice} (old : ∀ inv ∈ invs, P inv)
    (pays : ∀ inv ∈ invs, inv.id = invoiceId → P (FakeBooks.FakeInvoice.pay amount inv))
    (paid : FakeBooks.payFirst invoiceId amount invs = some after) : ∀ inv ∈ after, P inv := by
  induction invs generalizing after with
  | nil => cases paid
  | cons first rest ih =>
      unfold FakeBooks.payFirst at paid
      rw [List.forall_mem_cons] at old pays
      split at paid
      · next same =>
          obtain rfl := Option.some.inj paid
          exact List.forall_mem_cons.mpr ⟨pays.1 same, old.2⟩
      · obtain ⟨later, paidLater, rfl⟩ := Option.map_eq_some_iff.mp paid
        exact List.forall_mem_cons.mpr ⟨old.1, ih old.2 pays.2 paidLater⟩

theorem payAmong_forall {P : FakeInvoice → Prop} {invoiceId : ℤ} {amount : ℚ}
    {books after : List (ℤ × List FakeInvoice)} (old : ∀ inv ∈ books.flatMap (·.2), P inv)
    (pays : ∀ inv ∈ books.flatMap (·.2), inv.id = invoiceId →
      P (FakeBooks.FakeInvoice.pay amount inv))
    (paid : FakeBooks.payAmong invoiceId amount books = some after) :
    ∀ inv ∈ after.flatMap (·.2), P inv := by
  induction books generalizing after with
  | nil => cases paid
  | cons entry rest ih =>
      unfold FakeBooks.payAmong at paid
      rw [List.flatMap_cons, List.forall_mem_append] at old pays
      split at paid
      · next invs first =>
          obtain rfl := Option.some.inj paid
          rw [List.flatMap_cons, List.forall_mem_append]
          exact ⟨payFirst_forall old.1 pays.1 first, old.2⟩
      · obtain ⟨later, paidLater, rfl⟩ := Option.map_eq_some_iff.mp paid
        rw [List.flatMap_cons, List.forall_mem_append]
        exact ⟨old.1, ih old.2 pays.2 paidLater⟩

theorem setInvoices_forall {P : FakeInvoice → Prop} {key : ℤ} {value : List FakeInvoice}
    {books : List (ℤ × List FakeInvoice)} (old : ∀ inv ∈ books.flatMap (·.2), P inv)
    (new : ∀ inv ∈ value, P inv) :
    ∀ inv ∈ (FakeBooks.setInvoices key value books).flatMap (·.2), P inv := by
  induction books with
  | nil => simpa [FakeBooks.setInvoices] using new
  | cons entry rest ih =>
      unfold FakeBooks.setInvoices
      rw [List.flatMap_cons, List.forall_mem_append] at old
      split
      · rw [List.flatMap_cons, List.forall_mem_append]
        exact ⟨new, old.2⟩
      · rw [List.flatMap_cons, List.forall_mem_append]
        exact ⟨old.1, ih old.2⟩

theorem invoicesOf_subset (key : ℤ) (books : List (ℤ × List FakeInvoice)) :
    FakeBooks.invoicesOf key books ⊆ books.flatMap (·.2) := by
  induction books with
  | nil => exact List.nil_subset _
  | cons entry rest ih =>
      unfold FakeBooks.invoicesOf
      rw [List.flatMap_cons]
      split
      · exact List.subset_append_left _ _
      · exact List.Subset.trans ih (List.subset_append_right _ _)

/-- All invoices of the gateway balance. -/
def FakeBilling.Balanced (s : FakeBilling) : Prop :=
  ∀ inv ∈ s.allInvoices, inv.Balanced

theorem balanced_step {s : FakeBilling} (balanced : s.Balanced) {op : BillingOp}
    (part : op.IsPart s) : (op.step s).Balanced := by
  cases op with
  | confirm orderId =>
      have books := (FakeBilling.confirm_books orderId s).2
      unfold FakeBilling.Balanced FakePayments.allInvoices BillingOp.step
      dsimp only
      rw [books]
      unfold FakeBooks.confirm
      split
      · exact balanced
      · split
        · exact balanced
        · dsimp only
          split
          · exact balanced
          · unfold FakeBooks.seedInvoices
            split
            · refine setInvoices_forall balanced fun inv mem => ?_
              rw [List.mem_singleton.mp mem]
              exact openingInvoice_balanced _ _
            · exact balanced
  | pay call =>
      have books := (FakePayments.registerPayment_books call.invoiceId call.amount
        s.toFakePayments).2
      unfold FakeBilling.Balanced FakePayments.allInvoices BillingOp.step PaymentCall.step
      dsimp only
      rw [books]
      unfold FakeBooks.registerPayment
      split
      · exact balanced
      · next invoices paid =>
          refine payAmong_forall balanced (fun inv mem same => ?_) paid
          obtain ⟨cents, le⟩ := part inv mem same
          exact (balanced inv mem).pay cents le

/-! ## The report -/

def ReportBillingResponse.Balances (report : ReportBillingResponse) : Prop :=
  report.totalInvoiced = report.totalPaid + report.totalOutstanding

theorem addInvoice_balances {report : ReportBillingResponse} (balances : report.Balances)
    {inv : BilledInvoice} (balance : inv.amountPaid + inv.amountResidual = inv.amountTotal) :
    (addInvoice report inv).Balances := by
  unfold ReportBillingResponse.Balances addInvoice at *
  dsimp only
  rw [balances, ← balance]
  ring

theorem addSubscription_balances {report : ReportBillingResponse} (balances : report.Balances)
    (sub : BilledSubscription) : (addSubscription report sub).Balances := by
  unfold addSubscription
  split
  · exact balances
  · exact balances

theorem addInvoicedCache_balances {report : ReportBillingResponse} (balances : report.Balances)
    (d : Deal) : (addInvoicedCache report d).Balances := by
  unfold addInvoicedCache ReportBillingResponse.Balances at *
  split
  · dsimp only
    rw [balances]
    by_cases paid : d.status = .paid
    · rw [if_pos paid, if_pos paid]
      ring
    · rw [if_neg paid, if_neg paid]
      ring
  · exact balances

theorem addDealCache_balances {report : ReportBillingResponse} (balances : report.Balances)
    (d : Deal) : (addDealCache report d).Balances := by
  unfold addDealCache
  dsimp only
  split
  · exact addInvoicedCache_balances balances d
  · exact addInvoicedCache_balances balances d

theorem addSummary_balances {getBillingSummary : ℤ → Except OdooError RawBillingSummary}
    (balanced : ∀ orderId summary, getBillingSummary orderId = .ok summary →
      ∀ inv ∈ summary.invoices, inv.amountPaid + inv.amountResidual = inv.amountTotal)
    {report : ReportBillingResponse} (balances : report.Balances) (d : Deal) :
    (addSummary getBillingSummary report d).Balances := by
  unfold addSummary
  split
  · exact balances
  · next summary answered =>
      have invoices : (summary.invoices.foldl addInvoice report).Balances :=
        List.foldlRecOn summary.invoices addInvoice balances fun report balances inv mem =>
          addInvoice_balances balances (balanced _ _ answered inv mem)
      exact List.foldlRecOn summary.subscriptions addSubscription invoices
        fun report balances sub _ => addSubscription_balances balances sub

/-- What the gateway answers of an order is among its invoices. -/
theorem summary_balanced {s : FakeBilling} (balanced : s.Balanced) {orderId : ℤ}
    {summary : RawBillingSummary} (answered : s.getBillingSummary orderId = .ok summary) :
    ∀ inv ∈ summary.invoices, inv.amountPaid + inv.amountResidual = inv.amountTotal := by
  unfold FakeBilling.getBillingSummary at answered
  split at answered
  · obtain rfl := Except.ok.inj answered
    exact fun inv mem => absurd mem List.not_mem_nil
  · split at answered
    · cases answered
    · obtain rfl := Except.ok.inj answered
      intro inv mem
      obtain ⟨billed, memBilled, rfl⟩ := List.mem_map.mp mem
      exact (balanced billed (invoicesOf_subset _ _ memBilled)).balance

/-- The report that goes by the caches balances, and so does the one over the in-memory gateway
after any run of confirmations and payments of parts of what is left. -/
theorem billing_report_balances {s : FakeBilling} (unbilled : s.allInvoices = [])
    {ops : List BillingOp} (parts : ∀ t ∈ history BillingOp.step ops s, t.2.IsPart t.1)
    (allDeals : List ReportedDeal) (filters : ReportFilters) :
    (getBillingReport none allDeals filters).Balances ∧
      (getBillingReport (some (run BillingOp.step ops s).getBillingSummary) allDeals
        filters).Balances := by
  have start : s.Balanced := fun inv mem => absurd (unbilled ▸ mem) List.not_mem_nil
  have balanced := (run_guarded FakeBilling.Balanced (fun now op => op.IsPart now) start
    (fun now op part balanced => balanced_step balanced part) ops parts).2
  have none : (({} : ReportBillingResponse)).Balances := (zero_add 0).symm
  constructor
  · exact List.foldlRecOn _ addDealCache none fun report balances d _ =>
      addDealCache_balances balances d
  · exact List.foldlRecOn _ (addSummary _) none fun report balances d _ =>
      addSummary_balances (fun orderId summary answered inv mem =>
        summary_balanced balanced answered inv mem) balances d

/-- A service is sold for 100 and half of it is paid. -/
theorem billing_report_half_paid :
    let desk : FakeBilling :=
      { products := AList.insert 5 ⟨"Setup", 1, "SERVICE", 40, 100, false⟩ ∅
        stock := ∅
        orders := AList.insert 1
          { header := ⟨1, "S1", 7, "Acme", "draft", "INR", 4, none, 1, none⟩
            lines := [⟨1, 5, 1, 100, 0, 18⟩] } ∅ }
    let sold : Deal :=
      { id := 1, reference := "D-1001", odooSaleOrderId := 1, odooOrderName := "S1"
        odooPartnerId := 7, partnerNameCache := "Acme", ownerOdooUserId := 4 }
    let till := run BillingOp.step [.confirm 1, .pay ⟨11, 50⟩] desk
    let report := getBillingReport (some till.getBillingSummary) [{ deal := sold, nextId := 2 }] {}
    report.totalPaid = 50 ∧ report.Balances := by
  intro desk sold till report
  refine ⟨by decide +kernel, (billing_report_balances rfl ?_ _ _).2⟩
  intro t mem
  rw [history_cons, history_cons, history_nil, List.mem_cons, List.mem_singleton] at mem
  rcases mem with rfl | rfl
  · trivial
  · have open_ : ∀ inv ∈ (BillingOp.step (.confirm 1) desk).allInvoices,
        inv.id = 11 → IsCents 50 ∧ 50 ≤ inv.amountResidual := by decide +kernel
    exact open_

end DealFlow
