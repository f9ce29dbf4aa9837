import DealFlow.Governance.DealEffects
import DealFlow.Governance.RealConfirmation

/-!
# The terms a customer has accepted

A customer may confirm a deal that still waits for its approval; the last approval then confirms the
order in his name.  It should find the order at the terms the customer last confirmed in the portal
(`lastConfirmedTerms`).

The waiting acceptance is kept whatever happens to the order meanwhile, also when a negotiation that
is still open is accepted and changes the lines (`reworkedService_confirms_unaccepted`).  As long as
nothing changes the terms while an acceptance waits, every confirmation in the customer's name is at
the terms the customer confirmed (`acceptedTerms_run`).
-/

namespace DealFlow

open Lib

section Acceptance

variable {σ : Type}

/-- The terms of the order when the customer last confirmed it in the portal. -/
def lastConfirmedTerms (terms : σ → List LineTerms)
    (past : List (DealWorld (Recorded σ) × LifecycleOp (Recorded σ))) : Option (List LineTerms) :=
  past.foldl
    (fun known t => if ConfirmsInPortal t.1.toWorld t.2 then some (terms t.1.odoo.1) else known)
    none

/-- While the customer's acceptance waits, the operation leaves the terms of the order alone. -/
def KeepsAccepted (gateway : BackOfficeGateway σ) (terms : σ → List LineTerms)
    (w : DealWorld (Recorded σ)) (op : LifecycleOp (Recorded σ)) : Prop :=
  w.db.deal.customerConfirmedPending = true →
    op.LeavesAlone (recordingBackOffice gateway terms) (fun s => terms s.1) w

/-- An acceptance that waits is of the terms the order has. -/
def AcceptedAsIs (terms : σ → List LineTerms)
    (past : List (DealWorld (Recorded σ) × LifecycleOp (Recorded σ)))
    (now : DealWorld (Recorded σ)) : Prop :=
  now.db.deal.customerConfirmedPending = true →
    lastConfirmedTerms terms past = some (terms now.odoo.1)

/-! ## One step -/

variable {gateway : BackOfficeGateway σ} {terms : σ → List LineTerms} {orderId : ℤ}

theorem lastConfirmedTerms_concat
    (past : List (DealWorld (Recorded σ) × LifecycleOp (Recorded σ)))
    (t : DealWorld (Recorded σ) × LifecycleOp (Recorded σ)) :
    lastConfirmedTerms terms (past ++ [t]) =
      if ConfirmsInPortal t.1.toWorld t.2 then some (terms t.1.odoo.1)
      else lastConfirmedTerms terms past :=
  List.foldl_concat ..

/-- Only the customer makes an acceptance wait. -/
theorem LifecycleOp.pending_cases {w : DealWorld σ} {op : LifecycleOp σ}
    (pending : (op.progress gateway w).customerConfirmedPending = true) :
    w.db.deal.customerConfirmedPending = true ∨ ConfirmsInPortal w.toWorld op := by
  have moves := op.moves gateway w
  generalize op.progress gateway w = after at moves pending
  cases moves with
  | stays => exact .inl pending
  | goes status unconfirmed => exact .inl pending
  | confirms calls => cases pending
  | waits confirms => exact .inr confirms

/-- Confirming included, an operation whose own writes leave the terms alone keeps them. -/
theorem LifecycleOp.keeps_terms (laws : OrderLaws gateway.toOdooGateway orderId terms)
    {op : LifecycleOp (Recorded σ)} {w : DealWorld (Recorded σ)}
    (leaves : op.LeavesAlone (recordingBackOffice gateway terms) (fun s => terms s.1) w) :
    terms (op.apply (recordingBackOffice gateway terms) w).odoo.1 = terms w.odoo.1 := by
  have recorded := recording_laws laws
  rcases LifecycleOp.odoo_cases recorded.reads recorded.sets leaves with
    ⟨-, same⟩ | ⟨-, before, after⟩
  · exact same
  · exact after.trans ((recorded.confirms _ _).trans before)

theorem AcceptedAsIs.step (laws : OrderLaws gateway.toOdooGateway orderId terms)
    {past : List (DealWorld (Recorded σ) × LifecycleOp (Recorded σ))}
    {now : DealWorld (Recorded σ)} (accepted : AcceptedAsIs terms past now)
    {op : LifecycleOp (Recorded σ)} (kept : KeepsAccepted gateway terms now op) :
    AcceptedAsIs terms (past ++ [(now, op)])
      (op.apply (recordingBackOffice gateway terms) now) := by
  intro pending
  rw [lastConfirmedTerms_concat]
  by_cases confirms : ConfirmsInPortal now.toWorld op
  · -- the portal writes nothing to the order
    have leaves : op.LeavesAlone (recordingBackOffice gateway terms) (fun s => terms s.1) now := by
      cases op with
      | confirmByCustomer => trivial
      | evaluate | decide | sync | send | submitNegotiation | respondNegotiation
      | applyRecommendation | applyFulfillment | recordPayment | inboundEvent | changePlans
      | onOdoo => cases confirms
    rw [if_pos confirms, LifecycleOp.keeps_terms laws leaves]
  · have moved := congrArg Progress.customerConfirmedPending
      (op.apply_progress (recordingBackOffice gateway terms) now)
    rcases LifecycleOp.pending_cases (moved.symm.trans pending) with waits | confirms'
    · rw [if_neg confirms, LifecycleOp.keeps_terms laws (kept waits)]
      exact accepted waits
    · exact absurd confirms' confirms

/-- A decision confirms at the terms the order has, and only a deal whose customer's acceptance
waits. -/
theorem decide_newConfirmations (laws : OrderLaws gateway.toOdooGateway orderId terms)
    {w : DealWorld (Recorded σ)} {requestId : ℕ} {actor : DealflowUser}
    {action : ApprovalActionType} {reason : Option String} {now : Timestamp}
    {seen : List LineTerms}
    (mem : seen ∈ newConfirmations w
      ((LifecycleOp.decide requestId actor action reason now).apply
        (recordingBackOffice gateway terms) w)) :
    w.db.deal.customerConfirmedPending = true ∧ seen = terms w.odoo.1 := by
  have record : ∀ change : Recorded σ → Recorded σ,
      LifecycleOp.decide requestId actor action reason now = .onOdoo change →
        ∀ s, (change s).2 = s.2 := nofun
  rcases newConfirmations_cases gateway terms record w with
    ⟨-, none⟩ | ⟨⟨req, -, -, -, waits⟩, one⟩
  · rw [none] at mem
    cases mem
  · rw [one] at mem
    refine ⟨waits, (List.mem_singleton.mp mem).trans ?_⟩
    exact (recording_laws laws).sets _ _ _ _ w.odoo

/-! ## Whole runs -/

/-- In every run that leaves the terms of the order alone while an acceptance waits, each
confirmation made by a decision is at the terms the customer last confirmed in the portal. -/
theorem acceptedTerms_run {w : DealWorld (Recorded σ)}
    (laws : OrderLaws gateway.toOdooGateway w.db.deal.odooSaleOrderId terms)
    (unaccepted : w.db.deal.customerConfirmedPending = false)
    (ops : List (LifecycleOp (Recorded σ)))
    (kept : ∀ t ∈ history (LifecycleOp.apply (recordingBackOffice gateway terms)) ops w,
      KeepsAccepted gateway terms t.1 t.2) :
    ∀ past now requestId actor action reason time later,
      history (LifecycleOp.apply (recordingBackOffice gateway terms)) ops w =
          past ++ (now, .decide requestId actor action reason time) :: later →
        ∀ seen ∈ newConfirmations now
            ((LifecycleOp.decide requestId actor action reason time).apply
              (recordingBackOffice gateway terms) now),
          lastConfirmedTerms terms past = some seen := by
  intro past now requestId actor action reason time later split seen mem
  have start : AcceptedAsIs terms [] w := by
    intro waits
    cases unaccepted.symm.trans waits
  have accepted := run_steps_guarded (KeepsAccepted gateway terms) start
    (fun _ _ _ kept accepted => accepted.step laws kept) ops kept past _ later split
  obtain ⟨waits, rfl⟩ := decide_newConfirmations laws mem
  exact accepted waits

end Acceptance

/-! ## The in-memory gateway -/

/-- The terms of an order in the in-memory books. -/
def FakeBooks.terms (orderId : ℤ) (s : FakeBooks) : List LineTerms :=
  FakeOdoo.terms orderId s.toFakeOdoo

theorem fakeBooksGateway_laws (orderId : ℤ) :
    OrderLaws fakeBooksGateway.toOdooGateway orderId (FakeBooks.terms orderId) where
  read s := (fakeOdooGateway_laws orderId).read s.toFakeOdoo
  reads := fakeBooksGateway_reads _
  sets id approvalState riskScore locked s :=
    (fakeOdooGateway_laws orderId).sets id approvalState riskScore locked s.toFakeOdoo
  confirms id s := by
    refine Eq.trans ?_ ((fakeOdooGateway_laws orderId).confirms id s.toFakeOdoo)
    exact congrArg (FakeOdoo.terms orderId) (FakeBooks.confirm_fake id s).2

/-- The fresh service deal, with a record of the terms it is confirmed at. -/
def recordedService : DealWorld (Recorded FakeBooks) :=
  { db := serviceBooks.db, odoo := (serviceBooks.odoo, []) }

/-- The customer confirms the service deal before it is approved. -/
def acceptService {σ : Type} : List (LifecycleOp σ) :=
  [.evaluate { tables := goldTables, now := 1 },
    .confirmByCustomer 1 none 2,
    .decide 3 salesManager .approve none 3,
    .decide 4 financeOfficer .approve none 4]

/-- The last approval confirms what the customer confirmed. -/
theorem acceptService_confirms_accepted :
    lastConfirmedTerms (FakeBooks.terms 101)
        (history (LifecycleOp.apply (recordingBackOffice fakeBooksGateway (FakeBooks.terms 101)))
          (acceptService.take 3) recordedService) =
      some [{ lineId := 1001, productId := 107, qty := 1, priceUnit := 100000
              discountPct := 25 }] := by
  have untouched : ∀ op ∈ acceptService, ∀ w,
      KeepsAccepted fakeBooksGateway (FakeBooks.terms 101) w op := by
    simp [acceptService, KeepsAccepted, LifecycleOp.LeavesAlone]
  have kept := history_allowed
    (LifecycleOp.apply (recordingBackOffice fakeBooksGateway (FakeBooks.terms 101))) untouched
    recordedService
  have last := history_concat
    (LifecycleOp.apply (recordingBackOffice fakeBooksGateway (FakeBooks.terms 101)))
    (acceptService.take 3) (.decide 4 financeOfficer .approve none 4) recordedService
  refine acceptedTerms_run (fakeBooksGateway_laws 101) rfl acceptService
    (fun t mem => kept t mem t.1) _ _ _ _ _ _ _ [] last _ ?_
  decide +kernel

/-- The customer has asked for three, then confirms one; his request is accepted afterwards. -/
def reworkService : List (LifecycleOp (Recorded FakeBooks)) :=
  [.evaluate { tables := goldTables, now := 1 },
    .submitNegotiation 1 9
      { type := some "QTY_CHANGE", odooLineId := some 1001, requestedQty := some 3 } 2,
    .confirmByCustomer 1 none 3,
    .respondNegotiation 4 salesRep .accept none none goldTables 4,
    .decide 6 salesManager .approve none 5]

/-- The last approval confirms three where the customer confirmed one. -/
theorem reworkedService_confirms_unaccepted :
    lastConfirmedTerms (FakeBooks.terms 101)
        (history (LifecycleOp.apply (recordingBackOffice fakeBooksGateway (FakeBooks.terms 101)))
          reworkService recordedService) =
        some [{ lineId := 1001, productId := 107, qty := 1, priceUnit := 100000
                discountPct := 25 }] ∧
      newConfirmations
        (run (LifecycleOp.apply (recordingBackOffice fakeBooksGateway (FakeBooks.terms 101)))
          reworkService recordedService)
        ((LifecycleOp.decide 7 financeOfficer .approve none 6).apply
          (recordingBackOffice fakeBooksGateway (FakeBooks.terms 101))
          (run (LifecycleOp.apply (recordingBackOffice fakeBooksGateway (FakeBooks.terms 101)))
            reworkService recordedService)) =
        [[{ lineId := 1001, productId := 107, qty := 3, priceUnit := 100000
            discountPct := 25 }]] := by
  decide +kernel

end DealFlow
