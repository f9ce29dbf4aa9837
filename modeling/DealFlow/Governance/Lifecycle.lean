import DealFlow.Governance.LifecycleRuns
import DealFlow.Governance.Runs
import DealFlow.Odoo.FakeBooks

/-!
# The order of the lifecycle

A deal that is cancelled or expired should stay so, and one that has been confirmed should not fall
back (`Onward`).  Statuses are written without regard to this: a quotation is sent and a negotiation
answered whatever the status, a customer confirms a cancelled deal or one in fulfilment, and an
event cancels an expired one.

`KeepsOrder` says for each operation in which statuses it may go through.  A run moves the deal
onward throughout exactly when all its steps keep the order (`lifecycleOrder_run_iff`).
-/

namespace DealFlow

open Lib

/-- How far a deal is after its confirmation. -/
def DealStatus.rank : DealStatus → ℕ
  | .draft | .sent | .underNegotiation => 0
  | .confirmed => 1
  | .inFulfillment => 2
  | .fulfilled => 3
  | .invoiced => 4
  | .paid => 5
  | .cancelled | .expired => 6

/-- The statuses before confirmation. -/
def DealStatus.isOpen (status : DealStatus) : Bool :=
  status ∈ [.draft, .sent, .underNegotiation]

/-- A closed deal stays as it is, a confirmed one does not fall back. -/
structure Onward (before after : DealStatus) : Prop where
  closed : before ∈ [DealStatus.cancelled, .expired] → after = before
  forward : before.rank ≤ after.rank

instance (before after : DealStatus) : Decidable (Onward before after) :=
  decidable_of_iff
    ((before ∈ [DealStatus.cancelled, .expired] → after = before) ∧ before.rank ≤ after.rank)
    ⟨fun both => ⟨both.1, both.2⟩, fun onward => ⟨onward.closed, onward.forward⟩⟩

theorem Onward.refl (status : DealStatus) : Onward status status := ⟨fun _ => rfl, le_rfl⟩

theorem Onward.trans {a b c : DealStatus} (first : Onward a b) (second : Onward b c) :
    Onward a c := by
  refine ⟨fun closed => ?_, first.forward.trans second.forward⟩
  have same := first.closed closed
  exact (second.closed (same ▸ closed)).trans same

/-! ## Where each status may be taken up -/

theorem onward_sent_iff (status : DealStatus) : Onward status .sent ↔ status.isOpen = true := by
  cases status <;> decide

theorem onward_underNegotiation_iff (status : DealStatus) :
    Onward status .underNegotiation ↔ status.isOpen = true := by
  cases status <;> decide

theorem onward_confirmed_iff (status : DealStatus) :
    Onward status .confirmed ↔ status.isOpen = true ∨ status = .confirmed := by
  cases status <;> decide

theorem onward_cancelled_iff (status : DealStatus) :
    Onward status .cancelled ↔ status ≠ .expired := by
  cases status <;> decide

theorem onward_inFulfillment {status : DealStatus}
    (confirmed : status ∈ [DealStatus.confirmed, .inFulfillment]) :
    Onward status .inFulfillment := by
  revert confirmed
  cases status <;> decide

section Step

variable {σ : Type}

/-- The operation does not go through, or the deal is in a status from which it may. -/
def KeepsOrder (gateway : BackOfficeGateway σ) (w : DealWorld σ) : LifecycleOp σ → Prop
  | .send _ _ => w.db.deal.status.isOpen = true
  | .submitNegotiation customerPartnerId _ _ _ =>
      Negotiable w.db customerPartnerId → w.db.deal.status.isOpen = true
  | .respondNegotiation requestId _ action _ _ tables _ =>
      ∀ req status, openNegotiation w.db requestId = some req →
        answeredStatus gateway.toOdooGateway tables req w.toWorld action = some status →
        w.db.deal.status.isOpen = true
  | .confirmByCustomer customerPartnerId _ _ =>
      ReachesDeal w.db customerPartnerId → w.db.deal.approvalState = .approved →
        w.db.deal.status.isOpen = true
  | .decide requestId actor action _ _ =>
      ConfirmsByDecision gateway.toOdooGateway w.toWorld requestId actor action →
        w.db.deal.status.isOpen = true ∨ w.db.deal.status = .confirmed
  | .inboundEvent payload _ => Cancels w.db payload → w.db.deal.status ≠ .expired
  | .evaluate _ | .sync _ _ _ _ | .applyRecommendation _ _ _ _ _ | .applyFulfillment _ _ _
  | .recordPayment _ _ _ _ | .changePlans _ | .onOdoo _ => True

/-- What an answer moves a deal to is a status before confirmation. -/
theorem onward_answered_iff {gateway : OdooGateway σ} {tables : PolicyTables}
    {req : NegotiationRequest} {w : World σ} {action : NegotiationAction} {status : DealStatus}
    (answered : answeredStatus gateway tables req w action = some status) (before : DealStatus) :
    Onward before status ↔ before.isOpen = true := by
  cases action with
  | accept =>
      obtain ⟨ctx, -, rfl⟩ := Option.map_eq_some_iff.mp answered
      exact onward_sent_iff before
  | reject =>
      cases answered
      exact onward_sent_iff before
  | counter =>
      cases answered
      exact onward_underNegotiation_iff before
  | other name => cases answered

/-- A plan is applied to a confirmed deal only. -/
theorem CarriesOut.confirmed {gateway : BackOfficeGateway σ} {w : DealWorld σ} {planId : ℕ}
    (carries : CarriesOut gateway w planId) :
    w.db.deal.status ∈ [DealStatus.confirmed, .inFulfillment] := by
  rcases carries with ⟨plan, guarded, -⟩
  unfold guardPlan at guarded
  split at guarded
  · cases guarded
  · next confirmed => exact not_not.mp confirmed

/-- A move made on a condition is onward where it is so on that condition. -/
theorem onward_ite_iff {c P : Prop} [Decidable c] {before : DealStatus} {moved kept : Progress}
    (stays : Onward before kept.status) (moves : c → (Onward before moved.status ↔ P)) :
    Onward before (if c then moved else kept).status ↔ (c → P) := by
  by_cases passes : c
  · rw [if_pos passes, moves passes, forall_prop_of_true passes]
  · rw [if_neg passes]
    exact iff_of_true stays fun passed => absurd passed passes

/-- An operation moves the deal onward exactly when it keeps the order. -/
theorem LifecycleOp.onward_iff (gateway : BackOfficeGateway σ) (w : DealWorld σ)
    (op : LifecycleOp σ) :
    Onward w.db.deal.status (op.apply gateway w).db.deal.status ↔ KeepsOrder gateway w op := by
  have moved : (op.apply gateway w).db.deal.status = (op.progress gateway w).status :=
    congrArg Progress.status (op.apply_progress gateway w)
  rw [moved]
  have stays : Onward w.db.deal.status w.db.progress.status := .refl _
  cases op with
  | send currentUser now => exact onward_sent_iff _
  | submitNegotiation customerPartnerId actorUserId payload now =>
      exact onward_ite_iff stays fun _ => onward_underNegotiation_iff _
  | respondNegotiation requestId actor action responseMessage counterValue tables now =>
      unfold LifecycleOp.progress KeepsOrder
      dsimp only
      cases found : openNegotiation w.db requestId with
      | none => exact iff_of_true stays fun req status is => by cases is
      | some req =>
          rw [Option.bind_some]
          cases answered : answeredStatus gateway.toOdooGateway tables req w.toWorld action with
          | none =>
              refine iff_of_true stays fun req' status is answers => ?_
              obtain rfl : req = req' := Option.some.inj is
              cases answered.symm.trans answers
          | some status =>
              refine (onward_answered_iff answered _).trans ⟨fun isOpen _ _ _ _ => isOpen, ?_⟩
              exact fun keeps => keeps req status rfl answered
  | confirmByCustomer customerPartnerId comment now =>
      refine onward_ite_iff stays fun reaches => onward_ite_iff stays fun _ => ?_
      refine (onward_confirmed_iff _).trans (or_iff_left fun confirmed => ?_)
      -- a confirmed deal would not have been reached
      have unconfirmed := reaches.2
      rw [confirmed] at unconfirmed
      cases unconfirmed
  | decide requestId actor action reason now =>
      exact onward_ite_iff stays fun _ => onward_confirmed_iff _
  | applyFulfillment planId actor now =>
      refine (onward_ite_iff stays fun carries => ?_).trans (imp_true_iff _)
      exact iff_of_true (onward_inFulfillment carries.confirmed) trivial
  | inboundEvent payload now => exact onward_ite_iff stays fun _ => onward_cancelled_iff _
  | evaluate | sync | applyRecommendation | recordPayment | changePlans | onOdoo =>
      exact iff_of_true stays trivial

/-- Between any two moments of a run the deal moves onward, exactly when every step of the run keeps
the order. -/
theorem lifecycleOrder_run_iff (gateway : BackOfficeGateway σ) (w : DealWorld σ)
    (ops : List (LifecycleOp σ)) :
    (∀ earlier between later, ops = earlier ++ between ++ later →
        Onward (run (LifecycleOp.apply gateway) earlier w).db.deal.status
          (run (LifecycleOp.apply gateway) (earlier ++ between) w).db.deal.status) ↔
      ∀ t ∈ history (LifecycleOp.apply gateway) ops w, KeepsOrder gateway t.1 t.2 := by
  rw [run_related_iff (LifecycleOp.apply gateway)
    (R := fun w w' => Onward w.db.deal.status w'.db.deal.status) (fun w => .refl _)
    fun _ _ _ => Onward.trans]
  exact forall₂_congr fun t _ => t.2.onward_iff gateway t.1

end Step

/-- The fresh service deal, on a gateway with books. -/
def serviceBooks : DealWorld FakeBooks :=
  { db := serviceWorld.db, odoo := { toFakeOdoo := serviceOdoo } }

def salesRep : DealflowUser := { odooUserId := 4, role := .salesRep }

/-- The service deal is approved at 25 % and its customer confirms it. -/
def confirmService {σ : Type} : List (LifecycleOp σ) :=
  [.evaluate { tables := goldTables, now := 1 },
    .decide 3 salesManager .approve none 2,
    .decide 4 financeOfficer .approve none 3,
    .confirmByCustomer 1 none 4]

/-- Its order is cancelled in Odoo. -/
def cancelService {σ : Type} : List (LifecycleOp σ) :=
  [.inboundEvent
    { eventId := "evt_1", eventType := "sale.order.cancelled", orderId := some 101 } 5]

/-- Sending the quotation takes a confirmed deal back, and a cancelled one up again. -/
theorem sentService_falls_back :
    (run (LifecycleOp.apply fakeBooksGateway) confirmService serviceBooks).db.deal.status =
        .confirmed ∧
      ¬ Onward (run (LifecycleOp.apply fakeBooksGateway) confirmService serviceBooks).db.deal.status
        (run (LifecycleOp.apply fakeBooksGateway) (confirmService ++ [.send salesRep 6])
          serviceBooks).db.deal.status ∧
      (run (LifecycleOp.apply fakeBooksGateway) (confirmService ++ cancelService)
        serviceBooks).db.deal.status = .cancelled ∧
      ¬ Onward
        (run (LifecycleOp.apply fakeBooksGateway) (confirmService ++ cancelService)
          serviceBooks).db.deal.status
        (run (LifecycleOp.apply fakeBooksGateway)
          (confirmService ++ cancelService ++ [.send salesRep 6]) serviceBooks).db.deal.status := by
  decide +kernel

end DealFlow
