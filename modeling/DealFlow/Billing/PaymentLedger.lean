import DealFlow.Addon.AccountingAdapter
import DealFlow.Lib.Cents
import DealFlow.Lib.Run

/-!
# The payment ledger

Payments are recorded on the invoices of the standalone store, and invoices cancelled there, in any
order.  An invoice over a positive total in cents that starts unpaid keeps its books along every
such run (`paymentLedger_run`): what its payments were reported to apply and its residual come to
its total, and its payment state says which of the two is nothing.
-/

namespace DealFlow.Addon

open Lib

/-- A payment is recorded on an invoice, or the invoice cancelled. -/
inductive PaymentOp
  | recordPayment (invoiceId : ℤ) (amount : Option ℚ)
  | cancelInvoice (invoiceId : ℤ)

/-- A call that raises leaves the store alone. -/
def PaymentOp.step : PaymentOp → AccountingAdapter → AccountingAdapter
  | .recordPayment invoiceId amount, a =>
      match a.recordPayment invoiceId amount with
      | .error _ => a
      | .ok (_, after) => after
  | .cancelInvoice invoiceId, a => a.cancelInvoice invoiceId

/-- What a call reports as applied to the invoice. -/
def reportedPaid (invoiceId : ℤ) : AccountingAdapter × PaymentOp → ℚ
  | (a, .recordPayment id amount) =>
      match a.recordPayment id amount with
      | .error _ => 0
      | .ok (result, _) => if result.invoiceId = invoiceId then result.amountPaid else 0
  | (_, .cancelInvoice _) => 0

/-- What the calls of a history report as applied to the invoice. -/
def appliedTo (invoiceId : ℤ) (past : List (AccountingAdapter × PaymentOp)) : ℚ :=
  (past.map (reportedPaid invoiceId)).sum

/-- What was applied and what is left come to the total, and the payment state tells which of them
is nothing. -/
structure InBalance (due paidSoFar : ℚ) (inv : MockInvoice) : Prop where
  total : inv.amountTotal = due
  balance : paidSoFar + inv.amountResidual = due
  residual : 0 ≤ inv.amountResidual
  notNegative : 0 ≤ paidSoFar
  paid : inv.paymentState = .paid ↔ inv.amountResidual = 0
  notPaid : inv.paymentState = .notPaid ↔ paidSoFar = 0
  inPayment : inv.paymentState = .inPayment ↔ inv.amountResidual ≠ 0 ∧ paidSoFar ≠ 0

/-- `get_invoice` reports the residual and the payment state as they are stored. -/
structure ReportsInvoice (a : AccountingAdapter) (invoiceId : ℤ) (inv : MockInvoice) : Prop where
  report : ∃ report, a.getInvoice invoiceId = .ok report ∧
    report.amountTotal = inv.amountTotal ∧ report.amountResidual = inv.amountResidual ∧
    report.paymentState = inv.paymentState ∧ (report.isPaid = true ↔ inv.amountResidual = 0)

/-- The calls that raise: a negative amount, an unknown or a cancelled invoice. -/
def PaymentRefused (a : AccountingAdapter) (invoiceId : ℤ) (amount : Option ℚ) : Prop :=
  (∃ x, amount = some x ∧ x < 0) ∨
    ∀ inv, a.findInvoice invoiceId = some inv → inv.state = .cancel

/-- A call raises when it is refused and then changes nothing. -/
structure RaisesCleanly (a : AccountingAdapter) (op : PaymentOp) : Prop where
  raises_iff : ∀ invoiceId amount, op = .recordPayment invoiceId amount →
    ((∃ e, a.recordPayment invoiceId amount = .error e) ↔ PaymentRefused a invoiceId amount)
  unchanged : ∀ invoiceId amount e, op = .recordPayment invoiceId amount →
    a.recordPayment invoiceId amount = .error e → op.step a = a

/-- Amounts that are recorded on the invoice are negative or a positive number of cents. -/
def AmountsInCents (invoiceId : ℤ) (op : PaymentOp) : Prop :=
  ∀ amount, op = .recordPayment invoiceId (some amount) →
    amount < 0 ∨ 0 < amount ∧ IsCents amount

/-! ## One payment -/

/-- The amount that a payment takes from a residual. -/
def payAmount (residual : ℚ) (amount : Option ℚ) : ℚ :=
  match amount with
  | none => residual
  | some amount => if residual < amount then residual else amount

/-- What a payment leaves of the residual that `get_invoice` reports. -/
def leftOver (inv : MockInvoice) (amount : Option ℚ) : ℚ :=
  max 0 (roundTo 2 inv.amountResidual - payAmount (roundTo 2 inv.amountResidual) amount)

/-- The invoice after a payment. -/
def paidInvoice (inv : MockInvoice) (amount : Option ℚ) : MockInvoice :=
  { inv with
    amountResidual := leftOver inv amount
    paymentState := if leftOver inv amount ≤ 0 then .paid else .inPayment }

def paymentResult (invoiceId : ℤ) (inv : MockInvoice) (amount : Option ℚ) :
    AccountingAdapter.PaymentResult :=
  { invoiceId
    amountPaid := roundTo 2 (payAmount (roundTo 2 inv.amountResidual) amount)
    amountResidual := roundTo 2 (leftOver inv amount)
    paymentState := (paidInvoice inv amount).paymentState
    isPaid := (paidInvoice inv amount).paymentState = .paid }

/-- The invoice takes the payment. -/
structure Accepts (a : AccountingAdapter) (invoiceId : ℤ) (amount : Option ℚ)
    (inv : MockInvoice) : Prop where
  found : a.findInvoice invoiceId = some inv
  active : inv.state ≠ .cancel
  notNegative : ∀ x, amount = some x → 0 ≤ x

theorem accepts_of_not_refused {a : AccountingAdapter} {invoiceId : ℤ} {amount : Option ℚ}
    (allowed : ¬ PaymentRefused a invoiceId amount) : ∃ inv, Accepts a invoiceId amount inv := by
  unfold PaymentRefused at allowed
  push Not at allowed
  obtain ⟨notNegative, inv, found, active⟩ := allowed
  exact ⟨inv, found, active, notNegative⟩

theorem Accepts.not_refused {a : AccountingAdapter} {invoiceId : ℤ} {amount : Option ℚ}
    {inv : MockInvoice} (accepts : Accepts a invoiceId amount inv) :
    ¬ PaymentRefused a invoiceId amount := by
  rintro (⟨x, some, negative⟩ | cancelled)
  · exact negative.not_ge (accepts.notNegative x some)
  · exact accepts.active (cancelled inv accepts.found)

/-- What a payment that is taken reports and stores. -/
theorem Accepts.recordPayment {a : AccountingAdapter} {invoiceId : ℤ} {amount : Option ℚ}
    {inv : MockInvoice} (accepts : Accepts a invoiceId amount inv) :
    a.recordPayment invoiceId amount =
      .ok (paymentResult invoiceId inv amount,
        a.setInvoice invoiceId (paidInvoice inv amount)) := by
  have passed : ¬ amount.any (· < 0) = true := by
    intro negative
    cases amount with
    | none => cases negative
    | some x => exact (of_decide_eq_true negative).not_ge (accepts.notNegative x rfl)
  unfold AccountingAdapter.recordPayment AccountingAdapter.getInvoice
  rw [accepts.found]
  unfold require
  rw [if_pos passed]
  dsimp only [bind, Except.bind, AccountingAdapter.summary]
  rw [if_pos accepts.active]
  rfl

theorem accepts_of_ok {a a' : AccountingAdapter} {invoiceId : ℤ} {amount : Option ℚ}
    {result : AccountingAdapter.PaymentResult}
    (ok : a.recordPayment invoiceId amount = .ok (result, a')) :
    ∃ inv, Accepts a invoiceId amount inv := by
  unfold AccountingAdapter.recordPayment at ok
  obtain ⟨passed, rest⟩ := require_bind_eq_ok.mp ok
  obtain ⟨report, read, rest⟩ := bind_eq_ok.mp rest
  obtain ⟨active, -⟩ := require_bind_eq_ok.mp rest
  unfold AccountingAdapter.getInvoice at read
  split at read
  · cases read
  · next inv found =>
      cases read
      refine ⟨inv, found, active, ?_⟩
      rintro x rfl
      exact not_lt.mp fun negative => passed (decide_eq_true negative)

theorem recordPayment_error_iff {a : AccountingAdapter} {invoiceId : ℤ} {amount : Option ℚ} :
    (∃ e, a.recordPayment invoiceId amount = .error e) ↔ PaymentRefused a invoiceId amount := by
  constructor
  · rintro ⟨e, raised⟩
    by_contra allowed
    obtain ⟨inv, accepts⟩ := accepts_of_not_refused allowed
    rw [accepts.recordPayment] at raised
    cases raised
  · intro refused
    cases paid : a.recordPayment invoiceId amount with
    | error e => exact ⟨e, rfl⟩
    | ok result =>
        obtain ⟨inv, accepts⟩ := accepts_of_ok paid
        exact absurd refused accepts.not_refused

theorem raisesCleanly (a : AccountingAdapter) (op : PaymentOp) : RaisesCleanly a op where
  raises_iff := by
    rintro invoiceId amount -
    exact recordPayment_error_iff
  unchanged := by
    rintro invoiceId amount e rfl raised
    unfold PaymentOp.step
    dsimp only
    rw [raised]

/-! ## The books of one invoice -/

/-- A payment takes something, and no more than the residual. -/
theorem payAmount_bounds {residual : ℚ} {amount : Option ℚ}
    (whole : ∀ x, amount = some x → 0 < x ∧ IsCents x) (nonneg : 0 ≤ residual)
    (cents : IsCents residual) :
    payAmount residual amount ≤ residual ∧ IsCents (payAmount residual amount) ∧
      0 ≤ payAmount residual amount ∧ (0 < residual → 0 < payAmount residual amount) := by
  unfold payAmount
  cases amount with
  | none => exact ⟨le_rfl, cents, nonneg, id⟩
  | some x =>
      obtain ⟨positive, grid⟩ := whole x rfl
      dsimp only
      split
      · exact ⟨le_rfl, cents, nonneg, id⟩
      · next within => exact ⟨not_lt.mp within, grid, positive.le, fun _ => positive⟩

section Balance

variable {due applied : ℚ} {inv : MockInvoice}

/-- A payment keeps the books. -/
theorem InBalance.pay (books : InBalance due applied inv) (positive : 0 < due)
    (cents : IsCents inv.amountResidual) {amount : Option ℚ}
    (whole : ∀ x, amount = some x → 0 < x ∧ IsCents x) :
    InBalance due (applied + roundTo 2 (payAmount (roundTo 2 inv.amountResidual) amount))
        (paidInvoice inv amount) ∧
      IsCents (paidInvoice inv amount).amountResidual := by
  obtain ⟨within, grid, nonneg, some⟩ := payAmount_bounds whole books.residual cents
  rw [cents.roundTo_two, grid.roundTo_two]
  have left : leftOver inv amount = inv.amountResidual - payAmount inv.amountResidual amount := by
    unfold leftOver
    rw [cents.roundTo_two]
    exact max_eq_right (sub_nonneg.mpr within)
  have balance := books.balance
  have before := books.notNegative
  have nothing : leftOver inv amount ≤ 0 ↔ leftOver inv amount = 0 := by
    rw [left]
    constructor <;> intro h <;> linarith
  -- something is applied: this payment, or all of the total before it
  have applies : 0 < applied + payAmount inv.amountResidual amount := by
    rcases books.residual.lt_or_eq with more | done
    · linarith [some more]
    · linarith
  have state : (paidInvoice inv amount).paymentState =
      if leftOver inv amount = 0 then .paid else .inPayment := by
    unfold paidInvoice
    simp only [nothing]
  have residual : (paidInvoice inv amount).amountResidual = leftOver inv amount := rfl
  refine ⟨⟨books.total, ?_, ?_, by linarith, ?_, ?_, ?_⟩, ?_⟩
  · rw [residual, left]
    linarith
  · rw [residual, left]
    linarith
  · rw [state, residual]
    split
    · next zero => exact iff_of_true rfl zero
    · next more => exact iff_of_false nofun more
  · rw [state]
    split
    · exact iff_of_false nofun applies.ne'
    · exact iff_of_false nofun applies.ne'
  · rw [state, residual]
    split
    · next zero => exact iff_of_false nofun fun both => both.1 zero
    · next more => exact iff_of_true rfl ⟨more, applies.ne'⟩
  · rw [residual, left]
    exact cents.sub grid

theorem InBalance.cancel (books : InBalance due applied inv) :
    InBalance due applied { inv with state := .cancel } :=
  ⟨books.total, books.balance, books.residual, books.notNegative, books.paid, books.notPaid,
    books.inPayment⟩

/-- `get_invoice` reports books in cents as they are. -/
theorem InBalance.reports (books : InBalance due applied inv) (positive : 0 < due)
    (cents : IsCents due) (residual : IsCents inv.amountResidual) {a : AccountingAdapter}
    {invoiceId : ℤ} (found : a.findInvoice invoiceId = some inv) :
    ReportsInvoice a invoiceId inv where
  report := by
    refine ⟨AccountingAdapter.summary invoiceId inv, ?_, ?_, residual.roundTo_two, rfl, ?_⟩
    · unfold AccountingAdapter.getInvoice
      rw [found]
    · have total : IsCents inv.amountTotal := by
        rw [books.total]
        exact cents
      exact total.roundTo_two
    · have nothing : inv.amountResidual ≤ 0 ↔ inv.amountResidual = 0 :=
        ⟨fun le => le_antisymm le books.residual, le_of_eq⟩
      have total : 0 < inv.amountTotal := by
        rw [books.total]
        exact positive
      simp [AccountingAdapter.summary, books.paid, total, total.ne', nothing]

end Balance

/-! ## Runs -/

/-- The invoice is kept in balance with what a history applied to it. -/
structure KeepsLedger (invoiceId : ℤ) (due : ℚ) (past : List (AccountingAdapter × PaymentOp))
    (now : AccountingAdapter) : Prop where
  books : ∃ inv, now.findInvoice invoiceId = some inv ∧
    InBalance due (appliedTo invoiceId past) inv ∧ IsCents inv.amountResidual

theorem appliedTo_concat (invoiceId : ℤ) (past : List (AccountingAdapter × PaymentOp))
    (t : AccountingAdapter × PaymentOp) :
    appliedTo invoiceId (past ++ [t]) = appliedTo invoiceId past + reportedPaid invoiceId t := by
  unfold appliedTo
  rw [List.map_append, List.sum_append, List.map_singleton, List.sum_singleton]

section Steps

variable {invoiceId : ℤ} {due : ℚ} {past : List (AccountingAdapter × PaymentOp)}
  {now : AccountingAdapter} {op : PaymentOp}

theorem KeepsLedger.same (keeps : KeepsLedger invoiceId due past now)
    (nothing : reportedPaid invoiceId (now, op) = 0)
    (found : (op.step now).findInvoice invoiceId = now.findInvoice invoiceId) :
    KeepsLedger invoiceId due (past ++ [(now, op)]) (op.step now) where
  books := by
    obtain ⟨inv, held, books, cents⟩ := keeps.books
    refine ⟨inv, found.trans held, ?_, cents⟩
    rw [appliedTo_concat, nothing, add_zero]
    exact books

/-- A call writes one invoice.  On this one it keeps the books with what it reports. -/
theorem KeepsLedger.wrote (keeps : KeepsLedger invoiceId due past now) {id : ℤ}
    {inv inv' : MockInvoice} {amount : ℚ} (held : now.findInvoice id = some inv)
    (after : op.step now = now.setInvoice id inv')
    (reported : reportedPaid invoiceId (now, op) = if id = invoiceId then amount else 0)
    (kept : ∀ applied, id = invoiceId → InBalance due applied inv → IsCents inv.amountResidual →
      InBalance due (applied + amount) inv' ∧ IsCents inv'.amountResidual) :
    KeepsLedger invoiceId due (past ++ [(now, op)]) (op.step now) := by
  by_cases same : id = invoiceId
  · subst same
    obtain ⟨own, found, books, cents⟩ := keeps.books
    obtain rfl : own = inv := Option.some.inj (found.symm.trans held)
    obtain ⟨balanced, grid⟩ := kept _ rfl books cents
    refine ⟨inv', ?_, ?_, grid⟩
    · rw [after, AccountingAdapter.findInvoice_setInvoice, if_pos rfl]
    · rw [appliedTo_concat, reported, if_pos rfl]
      exact balanced
  · refine keeps.same (reported.trans (if_neg same)) ?_
    rw [after, AccountingAdapter.findInvoice_setInvoice, if_neg (Ne.symm same)]

theorem KeepsLedger.recordPayment (keeps : KeepsLedger invoiceId due past now)
    (positive : 0 < due) {id : ℤ} {amount : Option ℚ}
    (amounts : AmountsInCents invoiceId (.recordPayment id amount)) :
    KeepsLedger invoiceId due (past ++ [(now, .recordPayment id amount)])
      (PaymentOp.step (.recordPayment id amount) now) := by
  by_cases refused : PaymentRefused now id amount
  · obtain ⟨e, raised⟩ := recordPayment_error_iff.mpr refused
    have stays := (raisesCleanly now (.recordPayment id amount)).unchanged id amount e rfl raised
    refine keeps.same ?_ (by rw [stays])
    unfold reportedPaid
    dsimp only
    rw [raised]
  · obtain ⟨inv, accepts⟩ := accepts_of_not_refused refused
    have after : PaymentOp.step (.recordPayment id amount) now =
        now.setInvoice id (paidInvoice inv amount) := by
      unfold PaymentOp.step
      dsimp only
      rw [accepts.recordPayment]
    have reported : reportedPaid invoiceId (now, .recordPayment id amount) =
        if id = invoiceId then roundTo 2 (payAmount (roundTo 2 inv.amountResidual) amount)
        else 0 := by
      unfold reportedPaid
      dsimp only
      rw [accepts.recordPayment]
      rfl
    refine keeps.wrote accepts.found after reported fun applied same books cents => ?_
    subst same
    refine books.pay positive cents fun x given => ?_
    rw [given] at amounts
    exact (amounts x rfl).resolve_left (accepts.notNegative x given).not_gt

theorem KeepsLedger.cancelInvoice (keeps : KeepsLedger invoiceId due past now) (id : ℤ) :
    KeepsLedger invoiceId due (past ++ [(now, .cancelInvoice id)])
      (PaymentOp.step (.cancelInvoice id) now) := by
  cases held : now.findInvoice id with
  | none =>
      refine keeps.same rfl ?_
      unfold PaymentOp.step AccountingAdapter.cancelInvoice
      dsimp only
      rw [held]
  | some inv =>
      have after : PaymentOp.step (.cancelInvoice id) now =
          now.setInvoice id { inv with state := .cancel } := by
        unfold PaymentOp.step AccountingAdapter.cancelInvoice
        dsimp only
        rw [held]
      refine keeps.wrote held after (ite_self 0).symm fun applied _ books cents => ⟨?_, cents⟩
      rw [add_zero]
      exact books.cancel

theorem KeepsLedger.step (keeps : KeepsLedger invoiceId due past now) (positive : 0 < due)
    (amounts : AmountsInCents invoiceId op) :
    KeepsLedger invoiceId due (past ++ [(now, op)]) (op.step now) := by
  cases op with
  | recordPayment id amount => exact keeps.recordPayment positive amounts
  | cancelInvoice id => exact keeps.cancelInvoice id

end Steps

/-- An invoice over a positive total in cents that nothing was paid on yet. -/
structure StartsUnpaid (a : AccountingAdapter) (invoiceId : ℤ) (due : ℚ) : Prop where
  positive : 0 < due
  cents : IsCents due
  unpaid : ∃ inv, a.findInvoice invoiceId = some inv ∧ inv.amountTotal = due ∧
    inv.amountResidual = due ∧ inv.paymentState = .notPaid

theorem StartsUnpaid.keeps {a : AccountingAdapter} {invoiceId : ℤ} {due : ℚ}
    (start : StartsUnpaid a invoiceId due) : KeepsLedger invoiceId due [] a where
  books := by
    obtain ⟨inv, found, total, residual, state⟩ := start.unpaid
    have positive := start.positive
    have cents := start.cents
    subst total
    rw [← residual] at positive cents
    refine ⟨inv, found, ⟨rfl, (zero_add _).trans residual, positive.le, le_rfl, ?_, ?_, ?_⟩, cents⟩
    · rw [state]
      exact iff_of_false nofun positive.ne'
    · exact iff_of_true state rfl
    · rw [state]
      exact iff_of_false nofun fun both => both.2 rfl

/-- An invoice over 100.00, and one over 250.00 beside it. -/
def ledgerStore : AccountingAdapter :=
  { mockOrders := fun _ => none
    mockInvoices :=
      [(1001, { name := "INV/2026/1001", orderId := 1, invoiceOrigin := "SO-1", amountTotal := 100,
                amountResidual := 100, invoiceDate := "2026-01-31" }),
       (1002, { name := "INV/2026/1002", orderId := 2, invoiceOrigin := "SO-2", amountTotal := 250,
                amountResidual := 250, invoiceDate := "2026-01-31" })] }

/-- A part, a negative amount, more than is left of the other invoice, the rest, and one payment
more once it is cancelled. -/
def ledgerOps : List PaymentOp :=
  [.recordPayment 1001 (some (1999 / 100)), .recordPayment 1001 (some (-5)),
   .recordPayment 1002 (some 300), .recordPayment 1001 none, .cancelInvoice 1001,
   .recordPayment 1001 (some 1)]

end DealFlow.Addon
