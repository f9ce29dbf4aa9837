import DealFlow.Governance.RealConfirmation

/-!
# An order is confirmed once

On the in-memory gateway a confirmation replaces the invoices of the order by a new one with nothing
paid.  So an order that has been confirmed and paid should not be confirmed again.

The portal does not confirm a deal that is CONFIRMED.  But a quotation is sent and a negotiation
answered also when the deal is CONFIRMED, which makes it open to confirmation again (`Reopens`).
Where no step does that, one confirmation at most takes effect and what is paid never decreases
(`singleConfirmation_run`); otherwise it may (`resentService_loses_payment`).
-/

namespace DealFlow

open Lib

/-- What is paid on an order. -/
def FakeBooks.paidOn (orderId : ℤ) (s : FakeBooks) : ℚ :=
  amountPaidOn (FakeBooks.invoicesOf orderId s.invoices)

/-- The operations of trade on a quotation; payments are of positive amounts. -/
def LifecycleOp.IsTrade {σ : Type} : LifecycleOp σ → Prop
  | .evaluate _ | .decide _ _ _ _ _ | .send _ _ | .submitNegotiation _ _ _ _
  | .respondNegotiation _ _ _ _ _ _ _ | .confirmByCustomer _ _ _ => True
  | .recordPayment _ amount _ _ => 0 < amount
  | .sync _ _ _ _ | .applyRecommendation _ _ _ _ _ | .applyFulfillment _ _ _ | .inboundEvent _ _
  | .changePlans _ | .onOdoo _ => False

/-- The operation takes a CONFIRMED deal back to an earlier status. -/
def Reopens {σ : Type} (gateway : BackOfficeGateway σ) (w : DealWorld σ) : LifecycleOp σ → Prop
  | .send _ _ => w.db.deal.status = .confirmed
  | .respondNegotiation requestId _ action _ _ tables _ =>
      w.db.deal.status = .confirmed ∧ ∃ req status, openNegotiation w.db requestId = some req ∧
        answeredStatus gateway.toOdooGateway tables req w.toWorld action = some status
  | _ => False

/-- How many confirmations have taken effect. -/
def confirmedTimes (w : DealWorld (Answered FakeBooks)) : ℕ :=
  (confirmations w.odoo.2).count true

/-- An order with no invoice yet, or confirmed once. -/
inductive ConfirmedOnce (orderId : ℤ) (w : DealWorld (Answered FakeBooks)) : Prop
  | unconfirmed (times : confirmedTimes w = 0)
      (invoices : FakeBooks.invoicesOf orderId w.odoo.1.invoices = [])
  | confirmed (times : confirmedTimes w = 1) (status : w.db.deal.status = .confirmed)
      (settled : w.db.deal.customerConfirmedPending = false)

structure SoundBooks (orderId : ℤ) (w : DealWorld (Answered FakeBooks)) : Prop where
  order : w.db.deal.odooSaleOrderId = orderId
  cents : PaidInCents (FakeBooks.invoicesOf orderId w.odoo.1.invoices)
  phase : ConfirmedOnce orderId w

/-! ## One step -/

/-- A CONFIRMED deal that no operation reopens stays as it is, and its order is not confirmed
again. -/
theorem LifecycleOp.stays_confirmed {σ : Type} {gateway : BackOfficeGateway σ} {w : DealWorld σ}
    {op : LifecycleOp σ} (trade : op.IsTrade) (kept : ¬ Reopens gateway w op)
    (status : w.db.deal.status = .confirmed)
    (settled : w.db.deal.customerConfirmedPending = false) :
    ¬ CallsConfirm w.toWorld op ∧ op.progress gateway w = w.db.progress := by
  cases op with
  | evaluate args => exact ⟨nofun, rfl⟩
  | decide requestId actor action reason now =>
      have unaccepted : ∀ req, ¬ AutoConfirms w.db req action := by
        rintro req ⟨-, -, accepted⟩
        cases settled.symm.trans accepted
      refine ⟨fun ⟨req, _, auto⟩ => unaccepted req auto, if_neg ?_⟩
      exact fun ⟨req, _, auto, _⟩ => unaccepted req auto
  | send currentUser now => exact absurd status kept
  | submitNegotiation customerPartnerId actorUserId payload now =>
      refine ⟨nofun, if_neg fun negotiable => negotiable.2 ?_⟩
      rw [status]
      decide
  | respondNegotiation requestId actor action responseMessage counterValue tables now =>
      refine ⟨nofun, ?_⟩
      unfold LifecycleOp.progress
      dsimp only
      cases answered : (openNegotiation w.db requestId).bind fun req =>
          answeredStatus gateway.toOdooGateway tables req w.toWorld action with
      | none => rfl
      | some status' =>
          obtain ⟨req, found, answers⟩ := Option.bind_eq_some_iff.mp answered
          exact absurd ⟨status, req, status', found, answers⟩ kept
  | confirmByCustomer customerPartnerId comment now =>
      have unreached : ¬ ReachesDeal w.db customerPartnerId := by
        rintro ⟨-, open'⟩
        rw [status] at open'
        cases open'
      exact ⟨fun calls => unreached calls.1, if_neg unreached⟩
  | recordPayment invId amount currentUser now => exact ⟨nofun, rfl⟩
  | sync | applyRecommendation | applyFulfillment | inboundEvent | changePlans | onOdoo =>
      cases trade

/-- Calls besides payments and confirmations leave the invoices alone. -/
theorem fakeBooksGateway_quiet_invoices :
    QuietCalls fakeBooksGateway fun s : FakeBooks => s.invoices where
  reads := fakeBooksGateway_reads _
  sets _ _ _ _ _ := rfl
  writes _ _ _ := rfl
  adds _ _ _ _ _ := rfl
  picks id allocations s := (applyFulfillmentPlan_books id allocations s).2

section Step

variable {orderId : ℤ} {w : DealWorld (Answered FakeBooks)}

/-- A payment changes neither the deal nor the record. -/
theorem SoundBooks.pay (sound : SoundBooks orderId w) (invId : ℤ) {amount : ℚ}
    (positive : 0 < amount) (currentUser : DealflowUser) (now : Timestamp) :
    SoundBooks orderId ((LifecycleOp.recordPayment invId amount currentUser now).apply
        (answering fakeBooksGateway orderId) w) ∧
      w.odoo.1.paidOn orderId ≤
        ((LifecycleOp.recordPayment invId amount currentUser now).apply
          (answering fakeBooksGateway orderId) w).odoo.1.paidOn orderId := by
  set op : LifecycleOp (Answered FakeBooks) := .recordPayment invId amount currentUser now
  have odoo : (op.apply (answering fakeBooksGateway orderId) w).odoo =
      ((FakeBooks.registerPayment invId amount w.odoo.1).2, w.odoo.2) :=
    recordPayment_odoo (answering fakeBooksGateway orderId) invId amount currentUser now w.toWorld
  have progress := op.apply_progress (answering fakeBooksGateway orderId) w
  have order := op.apply_order (answering fakeBooksGateway orderId) w
  obtain ⟨more, cents, none⟩ :=
    FakeBooks.registerPayment_raises invId positive orderId sound.cents
  have times : confirmedTimes (op.apply (answering fakeBooksGateway orderId) w) =
      confirmedTimes w := by
    unfold confirmedTimes
    rw [odoo]
  refine ⟨⟨order.trans sound.order, ?_, ?_⟩, ?_⟩
  · rw [odoo]
    exact cents
  · cases sound.phase with
    | unconfirmed zero invoices =>
        refine .unconfirmed (times.trans zero) ?_
        rw [odoo]
        exact none invoices
    | confirmed one status settled =>
        exact .confirmed (times.trans one)
          ((congrArg Progress.status progress).trans status)
          ((congrArg Progress.customerConfirmedPending progress).trans settled)
  · rw [odoo]
    exact more

/-- A confirmation of an order that had no invoice. -/
theorem SoundBooks.confirm (sound : SoundBooks orderId w) {op : LifecycleOp (Answered FakeBooks)}
    (calls : CallsConfirm w.toWorld op) (zero : confirmedTimes w = 0)
    (none : FakeBooks.invoicesOf orderId w.odoo.1.invoices = []) :
    SoundBooks orderId (op.apply (answering fakeBooksGateway orderId) w) ∧
      w.odoo.1.paidOn orderId ≤
        (op.apply (answering fakeBooksGateway orderId) w).odoo.1.paidOn orderId := by
  set after := op.apply (answering fakeBooksGateway orderId) w
  set s := calledOn (answering fakeBooksGateway orderId).toOdooGateway w.toWorld op
  have order : after.db.deal.odooSaleOrderId = orderId := (op.apply_order _ w).trans sound.order
  have progress : after.db.progress = _ := op.apply_progress _ w
  obtain ⟨shown, confirmed⟩ := calls.recorded fakeBooksGateway_quiet_invoices
  rw [sound.order] at confirmed
  have invoices : s.1.invoices = w.odoo.1.invoices := congrArg Prod.fst shown
  have posted : after.odoo.1.invoices = (FakeBooks.confirm orderId s.1).2.invoices :=
    congrArg Prod.fst confirmed
  have times : confirmedTimes after = [(FakeBooks.confirm orderId s.1).1.isOk].count true := by
    have answers : confirmations after.odoo.2 = confirmations w.odoo.2 ++ _ :=
      congrArg Prod.snd confirmed
    unfold confirmedTimes at zero ⊢
    rw [answers, List.count_append, zero, Nat.zero_add]
    rfl
  have unpaid : w.odoo.1.paidOn orderId = 0 := by
    unfold FakeBooks.paidOn
    rw [none]
    rfl
  rw [← invoices] at none
  obtain ⟨cents, unpaidAfter, unposted⟩ := FakeBooks.confirm_unpaid none
  rw [← posted] at cents unpaidAfter unposted
  refine ⟨⟨order, cents, ?_⟩, unpaid.trans_le unpaidAfter.ge⟩
  cases answer : (FakeBooks.confirm orderId s.1).1.isOk with
  | false =>
      rw [answer] at times
      exact .unconfirmed times (unposted answer)
  | true =>
      have settled : after.db.progress =
          { w.db.progress with status := .confirmed, customerConfirmedPending := false } := by
        refine progress.trans (calls.confirms ?_)
        rw [sound.order]
        exact answer
      rw [answer] at times
      exact .confirmed times (congrArg Progress.status settled)
        (congrArg Progress.customerConfirmedPending settled)

/-- Any other operation on the trade of a deal. -/
theorem SoundBooks.trade (sound : SoundBooks orderId w) {op : LifecycleOp (Answered FakeBooks)}
    (trade : op.IsTrade)
    (unpaid : ∀ invId amount actor now, op ≠ .recordPayment invId amount actor now)
    (kept : ¬ Reopens (answering fakeBooksGateway orderId) w op) :
    SoundBooks orderId (op.apply (answering fakeBooksGateway orderId) w) ∧
      w.odoo.1.paidOn orderId ≤
        (op.apply (answering fakeBooksGateway orderId) w).odoo.1.paidOn orderId := by
  have recorded := fakeBooksGateway_quiet_invoices.recorded fun s =>
    (fakeBooksGateway.confirm orderId s).1.isOk
  have leaves : op.LeavesAlone (answering fakeBooksGateway orderId)
      (shownCalls fun s : FakeBooks => s.invoices) w := by
    refine recorded.leavesAlone (fun invId amount actor now is => ?_) fun change is => ?_
    · exact absurd is (unpaid invId amount actor now)
    · subst is
      cases trade
  rcases LifecycleOp.odoo_cases recorded.reads recorded.sets leaves with
    ⟨calls, same⟩ | ⟨calls, -, -⟩
  · have order := (op.apply_order (answering fakeBooksGateway orderId) w).trans sound.order
    have progress := op.apply_progress (answering fakeBooksGateway orderId) w
    have invoices : (op.apply (answering fakeBooksGateway orderId) w).odoo.1.invoices =
        w.odoo.1.invoices := congrArg Prod.fst same
    have times : confirmedTimes (op.apply (answering fakeBooksGateway orderId) w) =
        confirmedTimes w := congrArg (List.count true) (congrArg Prod.snd same)
    refine ⟨⟨order, ?_, ?_⟩, ?_⟩
    · rw [invoices]
      exact sound.cents
    · cases sound.phase with
      | unconfirmed zero none =>
          refine .unconfirmed (times.trans zero) ?_
          rw [invoices]
          exact none
      | confirmed one status settled =>
          have stays := progress.trans (LifecycleOp.stays_confirmed trade kept status settled).2
          exact .confirmed (times.trans one) ((congrArg Progress.status stays).trans status)
            ((congrArg Progress.customerConfirmedPending stays).trans settled)
    · unfold FakeBooks.paidOn
      rw [invoices]
  · cases sound.phase with
    | unconfirmed zero none => exact sound.confirm calls zero none
    | confirmed one status settled =>
        exact absurd calls (LifecycleOp.stays_confirmed trade kept status settled).1

theorem SoundBooks.step (sound : SoundBooks orderId w) {op : LifecycleOp (Answered FakeBooks)}
    (trade : op.IsTrade) (kept : ¬ Reopens (answering fakeBooksGateway orderId) w op) :
    SoundBooks orderId (op.apply (answering fakeBooksGateway orderId) w) ∧
      w.odoo.1.paidOn orderId ≤
        (op.apply (answering fakeBooksGateway orderId) w).odoo.1.paidOn orderId := by
  by_cases payment : ∃ invId amount actor now, op = .recordPayment invId amount actor now
  · rcases payment with ⟨invId, amount, actor, now, rfl⟩
    exact sound.pay invId trade actor now
  · refine sound.trade trade (fun invId amount actor now is => ?_) kept
    exact payment ⟨invId, amount, actor, now, is⟩

theorem SoundBooks.confirmedTimes_le (sound : SoundBooks orderId w) : confirmedTimes w ≤ 1 := by
  cases sound.phase with
  | unconfirmed zero invoices => omega
  | confirmed one status settled => omega

end Step

/-- On an order without invoices, in every run of trade that never takes a CONFIRMED deal back, one
confirmation at most takes effect and what is paid on the order never decreases. -/
theorem singleConfirmation_run {orderId : ℤ} {w : DealWorld (Answered FakeBooks)}
    (order : w.db.deal.odooSaleOrderId = orderId)
    (unbilled : FakeBooks.invoicesOf orderId w.odoo.1.invoices = []) (unrecorded : w.odoo.2 = [])
    (ops : List (LifecycleOp (Answered FakeBooks))) (trade : ∀ op ∈ ops, op.IsTrade)
    (kept : ∀ t ∈ history (LifecycleOp.apply (answering fakeBooksGateway orderId)) ops w,
      ¬ Reopens (answering fakeBooksGateway orderId) t.1 t.2) :
    confirmedTimes (run (LifecycleOp.apply (answering fakeBooksGateway orderId)) ops w) ≤ 1 ∧
      ∀ earlier between later, ops = earlier ++ between ++ later →
        (run (LifecycleOp.apply (answering fakeBooksGateway orderId)) earlier w).odoo.1.paidOn
            orderId ≤
          (run (LifecycleOp.apply (answering fakeBooksGateway orderId)) (earlier ++ between)
            w).odoo.1.paidOn orderId := by
  have start : SoundBooks orderId w := by
    refine ⟨order, ?_, .unconfirmed ?_ unbilled⟩
    · rw [unbilled]
      simp [PaidInCents]
    · unfold confirmedTimes
      rw [unrecorded]
      rfl
  have steps := history_allowed (LifecycleOp.apply (answering fakeBooksGateway orderId)) trade w
  obtain ⟨before, last⟩ := run_guarded (SoundBooks orderId)
    (fun now op => op.IsTrade ∧ ¬ Reopens (answering fakeBooksGateway orderId) now op) start
    (fun now op guard sound => (sound.step guard.1 guard.2).1) ops
    fun t mem => ⟨steps t mem, kept t mem⟩
  have raised := run_related_iff (LifecycleOp.apply (answering fakeBooksGateway orderId))
    (R := fun w w' => w.odoo.1.paidOn orderId ≤ w'.odoo.1.paidOn orderId) (fun _ => le_rfl)
    (fun _ _ _ => le_trans) ops w
  refine ⟨last.confirmedTimes_le, raised.mpr fun t mem => ?_⟩
  exact ((before t mem).step (steps t mem) (kept t mem)).2

/-- The confirmed order is paid for in part. -/
def payService : List (LifecycleOp (Answered FakeBooks)) :=
  confirmService ++ [.recordPayment 1011 1000 salesRep 5]

theorem paidService_confirmed_once :
    confirmedTimes (run (LifecycleOp.apply (answering fakeBooksGateway 101)) payService
        answeredService) ≤ 1 ∧
      ∀ earlier between later, payService = earlier ++ between ++ later →
        (run (LifecycleOp.apply (answering fakeBooksGateway 101)) earlier
            answeredService).odoo.1.paidOn 101 ≤
          (run (LifecycleOp.apply (answering fakeBooksGateway 101)) (earlier ++ between)
            answeredService).odoo.1.paidOn 101 := by
  have trade : ∀ op ∈ payService, op.IsTrade := by
    simp [payService, confirmService, LifecycleOp.IsTrade]
  have closed : ∀ op ∈ payService, ∀ w, ¬ Reopens (answering fakeBooksGateway 101) w op := by
    simp [payService, confirmService, Reopens]
  have kept := history_allowed (LifecycleOp.apply (answering fakeBooksGateway 101)) closed
    answeredService
  have order : answeredService.db.deal.odooSaleOrderId = 101 := rfl
  exact singleConfirmation_run order rfl rfl payService trade fun t mem => kept t mem t.1

/-- The quotation of the paid order is sent again, its customer confirms it again, and nothing is
paid any more. -/
theorem resentService_loses_payment :
    (run (LifecycleOp.apply (answering fakeBooksGateway 101)) payService
        answeredService).odoo.1.paidOn 101 = 1000 ∧
      confirmedTimes (run (LifecycleOp.apply (answering fakeBooksGateway 101))
        (payService ++ [.send salesRep 6, .confirmByCustomer 1 none 7]) answeredService) = 2 ∧
      (run (LifecycleOp.apply (answering fakeBooksGateway 101))
        (payService ++ [.send salesRep 6, .confirmByCustomer 1 none 7])
        answeredService).odoo.1.paidOn 101 = 0 := by
  decide +kernel

end DealFlow
