import DealFlow.Governance.LifecycleFrame
import DealFlow.Governance.Lifecycle

/-!
# Confirmations are real

A deal should become CONFIRMED only where Odoo has confirmed its order in the same operation, and
the order of a CONFIRMED deal should be a sale (`RealConfirmation`), whatever calls of the gateway
fail.

The confirmation after the last approval keeps to this.  The customer's does not: what the gateway
raises is swallowed, and the deal is CONFIRMED all the same.  A run is in order exactly when no
refusal is swallowed in it (`realConfirmation_run_iff`).
-/

namespace DealFlow

open Lib

/-- What a gateway has to do with the state of an order. -/
structure SaleLaws {σ : Type} (gateway : BackOfficeGateway σ) (orderId : ℤ)
    (state : σ → Option String) : Prop where
  quiet : QuietCalls gateway state
  pays : ∀ invoiceId amount, Keeps state (gateway.registerPayment invoiceId amount)
  sells : ∀ s, (gateway.confirm orderId s).1.isOk = true →
    state (gateway.confirm orderId s).2 = some "sale"
  stays : ∀ s, state s = some "sale" → state (gateway.confirm orderId s).2 = some "sale"

section Confirmation

variable {σ : Type}

structure RealConfirmation (state : σ → Option String) (before after : DealWorld (Answered σ)) :
    Prop where
  answered : before.db.deal.status ≠ .confirmed → after.db.deal.status = .confirmed →
    true ∈ newConfirmations before after
  sold : after.db.deal.status = .confirmed → state after.odoo.1 = some "sale"

/-- The customer confirms an approved deal, and the gateway refuses. -/
def SwallowsRefusal (gateway : BackOfficeGateway σ) (w : DealWorld (Answered σ)) :
    LifecycleOp (Answered σ) → Prop
  | .confirmByCustomer customerPartnerId _ _ =>
      ReachesDeal w.db customerPartnerId ∧ w.db.deal.approvalState = .approved ∧
        (gateway.confirm w.db.deal.odooSaleOrderId w.odoo.1).1.isOk = false
  | _ => False

/-- What happens outside leaves a sale a sale, and the record to the gateway. -/
def KeepsSale (state : σ → Option String) (op : LifecycleOp (Answered σ)) : Prop :=
  ∀ change, op = .onOdoo change → ∀ s, (change s).2 = s.2 ∧
    (state s.1 = some "sale" → state (change s).1 = some "sale")

/-- The order of a confirmed deal is a sale. -/
structure SoldIfConfirmed (orderId : ℤ) (state : σ → Option String)
    (w : DealWorld (Answered σ)) : Prop where
  order : w.db.deal.odooSaleOrderId = orderId
  sold : w.db.deal.status = .confirmed → state w.odoo.1 = some "sale"

/-! ## Where a deal gets confirmed -/

/-- Only operations that call for the confirmation make a deal CONFIRMED. -/
theorem LifecycleOp.confirmed_cases {gateway : BackOfficeGateway σ} {w : DealWorld σ}
    {op : LifecycleOp σ} (confirmed : (op.progress gateway w).status = .confirmed) :
    w.db.deal.status = .confirmed ∨ CallsConfirm w.toWorld op := by
  have moves := op.moves gateway w
  generalize op.progress gateway w = after at moves confirmed
  cases moves with
  | stays => exact .inl confirmed
  | goes status unconfirmed => exact absurd confirmed unconfirmed
  | confirms calls => exact .inr calls
  | waits confirms => exact .inl confirmed

/-- A refusal is swallowed where the confirmation was called for. -/
theorem SwallowsRefusal.calls {gateway : BackOfficeGateway σ} {w : DealWorld (Answered σ)}
    {op : LifecycleOp (Answered σ)} (swallows : SwallowsRefusal gateway w op) :
    CallsConfirm w.toWorld op := by
  cases op with
  | confirmByCustomer customerPartnerId comment now => exact ⟨swallows.1, swallows.2.1⟩
  | evaluate | decide | sync | send | submitNegotiation | respondNegotiation
  | applyRecommendation | applyFulfillment | recordPayment | inboundEvent | changePlans
  | onOdoo => cases swallows

variable {gateway : BackOfficeGateway σ} {orderId : ℤ} {state : σ → Option String}
  {w : DealWorld (Answered σ)}

/-- An operation that calls for no confirmation. -/
theorem SoldIfConfirmed.quiet (inv : SoldIfConfirmed orderId state w)
    {op : LifecycleOp (Answered σ)} (calls : ¬ CallsConfirm w.toWorld op)
    (stays : state w.odoo.1 = some "sale" →
      state (op.apply (answering gateway orderId) w).odoo.1 = some "sale") :
    RealConfirmation state w (op.apply (answering gateway orderId) w) := by
  have before : (op.apply (answering gateway orderId) w).db.deal.status = .confirmed →
      w.db.deal.status = .confirmed := by
    intro confirmed
    have moved := congrArg Progress.status (op.apply_progress (answering gateway orderId) w)
    rcases LifecycleOp.confirmed_cases (moved.symm.trans confirmed) with earlier | called
    · exact earlier
    · exact absurd called calls
  exact ⟨fun unconfirmed confirmed => absurd (before confirmed) unconfirmed,
    fun confirmed => stays (inv.sold (before confirmed))⟩

/-- A confirmation that goes through is a real one. -/
theorem SoldIfConfirmed.goes_through (laws : SaleLaws gateway orderId state)
    (inv : SoldIfConfirmed orderId state w) {op : LifecycleOp (Answered σ)}
    (calls : CallsConfirm w.toWorld op)
    (succeeded : (gateway.confirm orderId
      (calledOn (answering gateway orderId).toOdooGateway w.toWorld op).1).1.isOk = true) :
    RealConfirmation state w (op.apply (answering gateway orderId) w) := by
  obtain ⟨-, shown⟩ := calls.recorded laws.quiet
  rw [inv.order] at shown
  have answer := newConfirmations_called (congrArg Prod.snd shown)
  refine ⟨fun _ _ => ?_, fun _ => (congrArg Prod.fst shown).trans (laws.sells _ succeeded)⟩
  rw [answer, succeeded]
  exact List.mem_singleton_self _

/-- A refusal the customer's confirmation meets is swallowed: the deal is CONFIRMED. -/
theorem SoldIfConfirmed.confirmByCustomer_refused (laws : SaleLaws gateway orderId state)
    (inv : SoldIfConfirmed orderId state w) {customerPartnerId : ℤ} {comment : Option String}
    {now : Timestamp}
    (calls : CallsConfirm w.toWorld (.confirmByCustomer customerPartnerId comment now))
    (refused : (gateway.confirm orderId w.odoo.1).1.isOk = false) :
    ¬ RealConfirmation state w
        ((LifecycleOp.confirmByCustomer customerPartnerId comment now).apply
          (answering gateway orderId) w) ∧
      SwallowsRefusal gateway w (.confirmByCustomer customerPartnerId comment now) := by
  set op : LifecycleOp (Answered σ) := .confirmByCustomer customerPartnerId comment now
  have moved := congrArg Progress.status (op.apply_progress (answering gateway orderId) w)
  have confirmed : (op.progress (answering gateway orderId) w).status = .confirmed := by
    change Progress.status (if _ then _ else _) = _
    rw [if_pos calls.1, if_pos calls.2]
  have unconfirmed : w.db.deal.status ≠ .confirmed := by
    intro already
    have open' := calls.1.2
    rw [already] at open'
    cases open'
  obtain ⟨-, shown⟩ := calls.recorded laws.quiet
  have answer := newConfirmations_called (congrArg Prod.snd shown)
  refine ⟨fun real => ?_, calls.1, calls.2, inv.order.symm ▸ refused⟩
  have succeeded := real.answered unconfirmed (moved.trans confirmed)
  rw [answer, List.mem_singleton] at succeeded
  cases succeeded.trans refused

/-- A refusal the last approval meets leaves the deal where it was. -/
theorem SoldIfConfirmed.decide_refused (laws : SaleLaws gateway orderId state)
    (inv : SoldIfConfirmed orderId state w) {requestId : ℕ} {actor : DealflowUser}
    {action : ApprovalActionType} {reason : Option String} {now : Timestamp}
    (calls : CallsConfirm w.toWorld (.decide requestId actor action reason now))
    (refused : (gateway.confirm orderId
      (unlockedOdoo (answering gateway orderId).toOdooGateway w.toWorld).1).1.isOk = false) :
    RealConfirmation state w
      ((LifecycleOp.decide requestId actor action reason now).apply
        (answering gateway orderId) w) := by
  set op : LifecycleOp (Answered σ) := .decide requestId actor action reason now
  have moved := congrArg Progress.status (op.apply_progress (answering gateway orderId) w)
  have stays : (op.progress (answering gateway orderId) w).status = w.db.deal.status := by
    change Progress.status (if _ then _ else _) = _
    rw [if_neg]
    · rfl
    · rintro ⟨req, -, -, confirmed⟩
      change (gateway.confirm w.db.deal.odooSaleOrderId _).1.isOk = true at confirmed
      rw [inv.order] at confirmed
      cases confirmed.symm.trans refused
  have before := moved.trans stays
  obtain ⟨unlocked, shown⟩ := calls.recorded laws.quiet
  rw [inv.order] at shown
  refine ⟨fun unconfirmed confirmed => ?_, fun confirmed => ?_⟩
  · exact absurd (before.symm.trans confirmed) unconfirmed
  · have sold := inv.sold (before.symm.trans confirmed)
    refine (congrArg Prod.fst shown).trans (laws.stays _ ?_)
    exact (congrArg Prod.fst unlocked).trans sold

/-- An operation confirms for real exactly when it swallows no refusal. -/
theorem SoldIfConfirmed.real_iff (laws : SaleLaws gateway orderId state)
    (inv : SoldIfConfirmed orderId state w) {op : LifecycleOp (Answered σ)}
    (outside : KeepsSale state op) :
    RealConfirmation state w (op.apply (answering gateway orderId) w) ↔
      ¬ SwallowsRefusal gateway w op := by
  by_cases calls : CallsConfirm w.toWorld op
  · cases answer : (gateway.confirm orderId
        (calledOn (answering gateway orderId).toOdooGateway w.toWorld op).1).1.isOk with
    | true =>
        refine iff_of_true (inv.goes_through laws calls answer) fun swallows => ?_
        cases op with
        | confirmByCustomer customerPartnerId comment now =>
            rcases swallows with ⟨-, -, refused⟩
            rw [inv.order] at refused
            cases answer.symm.trans refused
        | evaluate | decide | sync | send | submitNegotiation | respondNegotiation
        | applyRecommendation | applyFulfillment | recordPayment | inboundEvent | changePlans
        | onOdoo => cases swallows
    | false =>
        cases op with
        | confirmByCustomer customerPartnerId comment now =>
            obtain ⟨unreal, swallows⟩ := inv.confirmByCustomer_refused laws calls answer
            exact iff_of_false unreal (not_not.mpr swallows)
        | decide requestId actor action reason now =>
            exact iff_of_true (inv.decide_refused laws calls answer) id
        | evaluate | sync | send | submitNegotiation | respondNegotiation | applyRecommendation
        | applyFulfillment | recordPayment | inboundEvent | changePlans | onOdoo => cases calls
  · refine iff_of_true (inv.quiet calls ?_) fun swallows => calls swallows.calls
    intro before
    by_cases isOutside : ∃ change, op = .onOdoo change
    · rcases isOutside with ⟨change, rfl⟩
      exact (outside change rfl w.odoo).2 before
    · have recorded := laws.quiet.recorded fun s => (gateway.confirm orderId s).1.isOk
      have leaves : op.LeavesAlone (answering gateway orderId) (shownCalls state) w :=
        recorded.leavesAlone
          (fun invId amount _ _ _ => Prod.ext (laws.pays invId amount w.odoo.1) rfl)
          fun change is => absurd ⟨change, is⟩ isOutside
      rcases LifecycleOp.odoo_cases recorded.reads recorded.sets leaves with
        ⟨-, kept⟩ | ⟨called, -⟩
      · exact (congrArg Prod.fst kept).trans before
      · exact absurd called calls

/-! ## Whole runs -/

/-- Starting from a deal not confirmed yet, the confirmations of a run are all real exactly when no
refusal of the gateway is swallowed in it. -/
theorem realConfirmation_run_iff (laws : SaleLaws gateway orderId state)
    (order : w.db.deal.odooSaleOrderId = orderId) (unconfirmed : w.db.deal.status ≠ .confirmed)
    (ops : List (LifecycleOp (Answered σ))) (outside : ∀ op ∈ ops, KeepsSale state op) :
    (∀ t ∈ history (LifecycleOp.apply (answering gateway orderId)) ops w,
        RealConfirmation state t.1 (t.2.apply (answering gateway orderId) t.1)) ↔
      ∀ t ∈ history (LifecycleOp.apply (answering gateway orderId)) ops w,
        ¬ SwallowsRefusal gateway t.1 t.2 := by
  have start : SoldIfConfirmed orderId state w :=
    ⟨order, fun confirmed => absurd confirmed unconfirmed⟩
  have same : ∀ (now : DealWorld (Answered σ)) (op : LifecycleOp (Answered σ)),
      KeepsSale state op → SoldIfConfirmed orderId state now →
        (RealConfirmation state now (op.apply (answering gateway orderId) now) ↔
          ¬ SwallowsRefusal gateway now op) := fun now op outside inv => inv.real_iff laws outside
  refine run_forall_iff (SoldIfConfirmed orderId state) start same
    (fun now op outside inv heard => ?_) ops (history_allowed _ outside w)
  have real := (same now op outside inv).mpr heard
  exact ⟨(op.apply_order _ now).trans inv.order, real.sold⟩

end Confirmation

/-! ## The in-memory gateway -/

/-- The state of an in-memory order. -/
def FakeBooks.orderState (orderId : ℤ) (s : FakeBooks) : Option String :=
  (s.orders.lookup orderId).map fun order => order.header.state

/-- Rewriting an order without touching its header keeps the state of every order. -/
theorem onOrder_keeps_orderState (orderId id : ℤ) {f : FakeOrder → FakeOrder}
    (header : ∀ order, (f order).header = order.header) :
    Keeps (FakeBooks.orderState orderId) (FakeBooks.onFake (FakeOdoo.onOrder id f)) := by
  intro s
  unfold FakeBooks.onFake FakeOdoo.onOrder FakeBooks.orderState
  cases found : s.orders.lookup id with
  | none => rfl
  | some order =>
      by_cases same : orderId = id
      · rw [same, found, AList.lookup_insert, Option.map_some, header]
        rfl
      · rw [AList.lookup_insert_ne same]

/-- Reading changes nothing. -/
theorem fakeBooksGateway_reads {β : Type} (f : FakeBooks → β) :
    ReadsKeep fakeBooksGateway.toOdooGateway f where
  getSaleOrder id s :=
    (fakeOdooGateway_reads fun odoo => f { s with toFakeOdoo := odoo }).getSaleOrder id s.toFakeOdoo
  getAvailability _ _ := rfl

theorem applyFulfillmentPlan_books (orderId : ℤ) (allocations : List AllocationPayload)
    (s : FakeBooks) :
    (FakeBooks.applyFulfillmentPlan orderId allocations s).2.orders = s.orders ∧
      (FakeBooks.applyFulfillmentPlan orderId allocations s).2.invoices = s.invoices :=
  ⟨FakeBooks.applyFulfillmentPlan_keeps (f := fun s => s.orders) (fun _ _ => rfl)
      (fun _ _ => rfl) ..,
    FakeBooks.applyFulfillmentPlan_keeps (f := fun s => s.invoices) (fun _ _ => rfl)
      (fun _ _ => rfl) ..⟩

theorem addLine_keeps_orderState (orderId id productId : ℤ) (qty discount : ℚ) :
    Keeps (FakeBooks.orderState orderId)
      (FakeBooks.onFake (FakeOdoo.addLine id productId qty discount)) := by
  intro s
  unfold FakeBooks.onFake FakeOdoo.addLine FakeBooks.orderState
  cases found : s.orders.lookup id with
  | none => rfl
  | some order =>
      dsimp only
      split
      · rfl
      · by_cases same : orderId = id
        · rw [same, found, AList.lookup_insert]
          rfl
        · rw [AList.lookup_insert_ne same]

theorem fakeBooksGateway_quiet (orderId : ℤ) :
    QuietCalls fakeBooksGateway (FakeBooks.orderState orderId) where
  reads := fakeBooksGateway_reads _
  sets id _ _ _ := onOrder_keeps_orderState orderId id fun _ => rfl
  writes id _ := onOrder_keeps_orderState orderId id fun _ => rfl
  adds id productId qty discount := addLine_keeps_orderState orderId id productId qty discount
  picks id allocations s := by
    obtain ⟨orders, -⟩ := applyFulfillmentPlan_books id allocations s
    change FakeBooks.orderState orderId (FakeBooks.applyFulfillmentPlan id allocations s).2 = _
    unfold FakeBooks.orderState
    rw [orders]

/-- A confirmation sells the order or leaves it as it was. -/
theorem confirm_orderState (orderId : ℤ) (s : FakeBooks) :
    (FakeBooks.confirm orderId s).2.orderState orderId = some "sale" ∨
      (FakeBooks.confirm orderId s).1.isOk = false ∧
        (FakeBooks.confirm orderId s).2.orderState orderId = s.orderState orderId := by
  have sells : ∀ order : FakeOrder, ((s.orders.insert orderId
      { order with header := { order.header with state := "sale" } }).lookup orderId).map
        (fun order => order.header.state) = some "sale" := by
    intro order
    rw [AList.lookup_insert]
    rfl
  unfold FakeBooks.confirm
  cases s.orders.lookup orderId with
  | none => exact .inr ⟨rfl, rfl⟩
  | some order =>
      dsimp only
      split
      · exact .inr ⟨rfl, rfl⟩
      · split
        · exact .inl (sells order)
        · unfold FakeBooks.seedInvoices
          split
          · exact .inl (sells order)
          · exact .inl (sells order)

theorem fakeBooksGateway_saleLaws (orderId : ℤ) :
    SaleLaws fakeBooksGateway orderId (FakeBooks.orderState orderId) where
  quiet := fakeBooksGateway_quiet orderId
  pays invoiceId amount s := by
    change FakeBooks.orderState orderId (FakeBooks.registerPayment invoiceId amount s).2 = _
    unfold FakeBooks.registerPayment
    split <;> rfl
  sells s succeeded := by
    rcases confirm_orderState orderId s with sold | ⟨refused, -⟩
    · exact sold
    · cases refused.symm.trans succeeded
  stays s sold := by
    rcases confirm_orderState orderId s with sold' | ⟨-, same⟩
    · exact sold'
    · exact same.trans sold

/-- The fresh service deal, with a record of the answers. -/
def answeredService : DealWorld (Answered FakeBooks) :=
  { db := serviceBooks.db, odoo := (serviceBooks.odoo, []) }

theorem answeredService_real_iff :
    (∀ t ∈ history (LifecycleOp.apply (answering fakeBooksGateway 101)) confirmService
          answeredService,
        RealConfirmation (FakeBooks.orderState 101) t.1
          (t.2.apply (answering fakeBooksGateway 101) t.1)) ↔
      ∀ t ∈ history (LifecycleOp.apply (answering fakeBooksGateway 101)) confirmService
          answeredService,
        ¬ SwallowsRefusal fakeBooksGateway t.1 t.2 := by
  refine realConfirmation_run_iff (fakeBooksGateway_saleLaws 101) rfl (by decide) confirmService ?_
  intro op mem change outside
  subst outside
  simp [confirmService] at mem

/-- The gateway whose confirmations do not come through. -/
def unreachableBooks : BackOfficeGateway FakeBooks :=
  { fakeBooksGateway with confirm := fun _ s => (.error (.other "Odoo cannot be reached"), s) }

/-- The customer confirms, Odoo cannot be reached, and the deal is CONFIRMED on a draft order. -/
theorem unreachableBooks_confirmed :
    (run (LifecycleOp.apply (answering unreachableBooks 101)) confirmService
        answeredService).db.deal.status = .confirmed ∧
      confirmations (run (LifecycleOp.apply (answering unreachableBooks 101)) confirmService
        answeredService).odoo.2 = [false] ∧
      (run (LifecycleOp.apply (answering unreachableBooks 101)) confirmService
        answeredService).odoo.1.orderState 101 = some "draft" := by
  decide +kernel

end DealFlow
