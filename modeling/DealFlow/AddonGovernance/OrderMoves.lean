import DealFlow.Addon.IntegrationService
import DealFlow.Addon.Negotiation
import DealFlow.AddonGovernance.LineCommands
import DealFlow.AddonGovernance.OpenNegotiations
import DealFlow.Lib.Run
import Mathlib.Logic.Relation

/-!
# How calls move orders

What the addon offers on orders, their lines and their negotiations are the operations of a run.

Whatever a call of the addon does to an order is a chain of three kinds of steps: values that the
call may write are written to it (`AddonCall.Writes`), it is put back to a new approval, or it is
confirmed.  `performAddon_moves` says so for every call; what holds of an order along such chains
holds along every run (`OrdersMove.forall`).
-/

namespace DealFlow.Addon

open Lib

/-! ## Calls on the addon -/

inductive AddonCall
  | createNegotiations (valsList : List NegotiationVals)
  | writeNegotiations (ids : List ℕ) (vals : NegotiationVals)
  | underReview (ids : List ℕ)
  | approve (ids : List ℕ) (reviewNote : Option String)
  | reject (ids : List ℕ) (reviewNote : Option String)
  | lock (ids : List ℕ)
  | unlock (actor : Option Actor) (ids : List ℕ)
  | evaluateGovernance (orderId : ℕ)
  | writeOrders (ids : List ℕ) (vals : SaleOrderVals)
  | writeLines (ids : List ℕ) (vals : LineVals)
  | applyApprovedChange (orderId : ℕ) (changes : ApprovedChanges)
  | adapterApplyApprovedChange (orderId : ℤ) (changes : ApprovedChanges)
  | confirmOrder (signing : Signing) (salesAdapter : Bool) (orderId : ℤ)
      (approvalToken : Option String)

structure AddonOp where
  env : Env
  call : AddonCall

/-- The service that a call of an environment goes to. -/
def AddonOp.service (op : AddonOp) (salesAdapter : Bool) : OdooIntegrationService where
  env := op.env
  salesAdapter := salesAdapter

section Calls

variable (base : BaseOdoo)

def performAddon (op : AddonOp) (db : Db) : Except OdooException Db :=
  match op.call with
  | .createNegotiations valsList => createNegotiations base op.env valsList db
  | .writeNegotiations ids vals => writeNegotiations base op.env ids vals db
  | .underReview ids => actionUnderReview base op.env ids db
  | .approve ids reviewNote => actionApprove base op.env ids reviewNote db
  | .reject ids reviewNote => actionReject base op.env ids reviewNote db
  | .lock ids => actionDealflowLock base op.env ids db
  | .unlock actor ids => actionDealflowUnlock base op.env actor ids db
  | .evaluateGovernance orderId => do
      let (_, db) ← actionDealflowEvaluateGovernance base op.env orderId db
      .ok db
  | .writeOrders ids vals => writeOrders base op.env ids vals db
  | .writeLines ids vals => writeLines base op.env ids vals db
  | .applyApprovedChange orderId changes =>
      actionDealflowApplyApprovedChange base op.env orderId changes db
  | .adapterApplyApprovedChange orderId changes =>
      (adapterApplyApprovedChange base op.env orderId changes db).mapError .integration
  | .confirmOrder signing salesAdapter orderId approvalToken =>
      (confirmOrder base signing (op.service salesAdapter) orderId approvalToken db).mapError
        .integration

def addonStep (op : AddonOp) (db : Db) : Db :=
  settle db (performAddon base op db)

end Calls

/-! ## Moves -/

inductive OrderStep (writes : SaleOrderVals → Prop) : SaleOrder → SaleOrder → Prop
  | write {order : SaleOrder} {vals : SaleOrderVals} (allowed : writes vals) :
      OrderStep writes order (order.assign vals)
  | putBack {order : SaleOrder} : OrderStep writes order order.askReapproval
  | confirm {order : SaleOrder} : OrderStep writes order { order with state := .sale }

/-- Every order of the one database has come from the one in the other by such steps. -/
def OrdersMove (writes : SaleOrderVals → Prop) (db after : Db) : Prop :=
  ∀ id order', after.orders.row id = some order' →
    ∃ order, db.orders.row id = some order ∧ Relation.ReflTransGen (OrderStep writes) order order'

/-- What a call may write to orders. -/
def AddonCall.Writes (call : AddonCall) (vals : SaleOrderVals) : Prop :=
  match call with
  | .createNegotiations _ => vals = governanceVals .pendingApproval true
  | .writeNegotiations _ _ => False
  | .underReview _ => False
  | .approve _ _ => vals = governanceVals .approved false
  | .reject _ _ => vals = governanceVals .rejected true
  | .lock _ => vals = { dealflowLocked := some true }
  | .unlock _ _ => vals = { dealflowLocked := some false }
  | .evaluateGovernance _ => vals.dealflowApprovalState = none ∧ vals.dealflowLocked ≠ some false
  | .writeOrders _ given => vals = given
  | .writeLines _ _ => False
  | .applyApprovedChange _ changes => ∃ now, vals = approvedOrderVals changes now
  | .adapterApplyApprovedChange _ changes => ∃ now, vals = approvedOrderVals changes now
  | .confirmOrder _ _ _ _ => False

section Moves

variable {base : BaseOdoo} {env : Env} {writes : SaleOrderVals → Prop} {db now after : Db}
  {ids : List ℕ}

theorem OrdersMove.of_orders (orders : after.orders = db.orders) : OrdersMove writes db after := by
  intro id order row
  rw [orders] at row
  exact ⟨order, row, .refl⟩

theorem OrdersMove.trans (first : OrdersMove writes db now) (second : OrdersMove writes now after) :
    OrdersMove writes db after := by
  intro id last row
  obtain ⟨middle, row, later⟩ := second id last row
  obtain ⟨order, row, earlier⟩ := first id middle row
  exact ⟨order, row, earlier.trans later⟩

/-- A change of some rows, each by a step. -/
theorem OrdersMove.modify {f : SaleOrder → SaleOrder} {orders : Table SaleOrder}
    (step : ∀ order, OrderStep writes order (f order)) (same : orders = db.orders.modify ids f)
    (into : after.orders = orders) : OrdersMove writes db after := by
  intro id order' row
  rw [into, same, Table.row_modify] at row
  split at row
  · obtain ⟨order, found, rfl⟩ := Option.map_eq_some_iff.mp row
    exact ⟨order, found, .single (step order)⟩
  · exact ⟨order', row, .refl⟩

theorem OrdersMove.reapprove {flagged : ℕ → Bool}
    (same : after.orders = Addon.reapprove flagged db.orders) : OrdersMove writes db after := by
  intro id order' row
  rw [same, row_reapprove] at row
  obtain ⟨order, found, rfl⟩ := Option.map_eq_some_iff.mp row
  refine ⟨order, found, ?_⟩
  split
  · exact .single .putBack
  · exact .refl

/-- What the steps keep of an order, they keep of all. -/
theorem OrdersMove.forall {P : SaleOrder → Prop} (moves : OrdersMove writes db after)
    (kept : ∀ a b, OrderStep writes a b → P a → P b)
    (before : ∀ id order, db.orders.row id = some order → P order) :
    ∀ id order, after.orders.row id = some order → P order := by
  intro id order' row
  obtain ⟨order, found, chain⟩ := moves id order' row
  clear row
  induction chain with
  | refl => exact before id order found
  | tail _ step ih => exact kept _ _ step ih

/-- A loop of moves. -/
theorem OrdersMove.loop {α : Type} {step : Db → α → Except OdooException Db} {l : List α}
    (ok : l.foldlM step db = .ok after)
    (each : ∀ now a next, step now a = .ok next → OrdersMove writes now next) :
    OrdersMove writes db after :=
  foldlM_ok (motive := fun _ now => OrdersMove writes db now) ok (.of_orders rfl)
    fun _ a _ now next done ih => ih.trans (each now a next done)

/-! ### The calls -/

theorem writeLines_moves {vals : LineVals} (ok : writeLines base env ids vals db = .ok after) :
    OrdersMove writes db after := by
  have orders : after.orders = reapprove
      (fun orderId => !env.skipReapproval && linesReapprove ids vals db.lines orderId)
      db.orders := by
    rw [writeLines_ok ok]
  exact .reapprove orders

theorem writeOrders_moves {vals : SaleOrderVals}
    (ok : writeOrders base env ids vals db = .ok after) (allowed : writes vals) :
    OrdersMove writes db after := by
  have assigned : OrdersMove writes db { db with orders := db.orders.modify ids (·.assign vals) } :=
    .modify (fun _ => .write allowed) rfl rfl
  have flagged : OrdersMove writes { db with orders := db.orders.modify ids (·.assign vals) }
      { db with
        orders := reapprove
          (fun orderId => !env.skipReapproval &&
            commandsReapprove base ids orderId vals.commands db.lines)
          (db.orders.modify ids (·.assign vals)) } :=
    .reapprove rfl
  rw [writeOrders_ok ok]
  exact (assigned.trans flagged).trans (.modify (fun _ => .putBack) rfl rfl)

theorem governOrder_moves {orderId : ℕ} {state : AddonApprovalState} {locked : Bool}
    (allowed : writes (governanceVals state locked)) :
    OrdersMove writes db (governOrder base env orderId state locked db) := by
  rw [governOrder_eq]
  split
  · exact .of_orders rfl
  · exact .modify (fun _ => .write allowed) rfl rfl

theorem governOrderOf_moves {id : ℕ} {state : AddonApprovalState} {locked : Bool}
    (allowed : writes (governanceVals state locked)) :
    OrdersMove writes db (governOrderOf base env id state locked db) := by
  unfold governOrderOf
  split
  · exact .of_orders rfl
  · exact governOrder_moves allowed

theorem foldl_governOrder_moves (entries : List (ℕ × NegotiationVals)) (db : Db) :
    OrdersMove (· = governanceVals .pendingApproval true) db
      (entries.foldl (fun db entry =>
        governOrder base env entry.1 .pendingApproval true db) db) := by
  induction entries generalizing db with
  | nil => exact .of_orders rfl
  | cons entry entries ih =>
      have first : OrdersMove (· = governanceVals .pendingApproval true) db
          (governOrder base env entry.1 .pendingApproval true db) := governOrder_moves rfl
      exact first.trans (ih _)

theorem createNegotiations_moves {valsList : List NegotiationVals}
    (ok : createNegotiations base env valsList db = .ok after) :
    OrdersMove (· = governanceVals .pendingApproval true) db after := by
  obtain ⟨checked, -, ok⟩ := bind_eq_ok.mp ok
  obtain ⟨created, loop, ok⟩ := bind_eq_ok.mp ok
  cases ok
  have inserted : OrdersMove (· = governanceVals .pendingApproval true) db created := by
    refine .loop loop fun now entry next step => ?_
    obtain ⟨rec, -, rfl⟩ := superCreateNegotiation_ok step
    exact .of_orders rfl
  exact inserted.trans (foldl_governOrder_moves checked created)

theorem actionApprove_moves {reviewNote : Option String}
    (ok : actionApprove base env ids reviewNote db = .ok after) :
    OrdersMove (· = governanceVals .approved false) db after := by
  obtain ⟨-, loop⟩ := require_bind_eq_ok.mp ok
  refine .loop loop fun now id next step => ?_
  obtain ⟨-, step⟩ := require_bind_eq_ok.mp step
  obtain ⟨written, wrote, step⟩ := bind_eq_ok.mp step
  cases step
  have orders : written.orders = now.orders := by rw [writeNegotiations_ok wrote]
  exact (OrdersMove.of_orders orders).trans (governOrderOf_moves rfl)

theorem actionReject_moves {reviewNote : Option String}
    (ok : actionReject base env ids reviewNote db = .ok after) :
    OrdersMove (· = governanceVals .rejected true) db after := by
  refine .loop ok fun now id next step => ?_
  obtain ⟨written, wrote, step⟩ := bind_eq_ok.mp step
  cases step
  have orders : written.orders = now.orders := by rw [writeNegotiations_ok wrote]
  exact (OrdersMove.of_orders orders).trans (governOrderOf_moves rfl)

theorem evaluateGovernance_moves {orderId : ℕ} {report : EvaluationReport}
    (ok : actionDealflowEvaluateGovernance base env orderId db = .ok (report, after)) :
    OrdersMove (AddonCall.evaluateGovernance orderId).Writes db after := by
  obtain ⟨scored, risk, ok⟩ := bind_eq_ok.mp ok
  obtain ⟨judged, health, ok⟩ := bind_eq_ok.mp ok
  obtain ⟨locked, lock, ok⟩ := bind_eq_ok.mp ok
  obtain ⟨stamped, stamp, ok⟩ := bind_eq_ok.mp ok
  cases ok
  have evaluated : OrdersMove (AddonCall.evaluateGovernance orderId).Writes db judged :=
    (writeOrders_moves risk ⟨rfl, nofun⟩).trans (writeOrders_moves health ⟨rfl, nofun⟩)
  refine (evaluated.trans ?_).trans (writeOrders_moves stamp ⟨rfl, nofun⟩)
  unfold lockUnhealthy at lock
  split at lock
  · exact writeOrders_moves lock ⟨rfl, nofun⟩
  · cases lock
    exact .of_orders rfl

theorem applyApprovedChange_moves {orderId : ℕ} {changes : ApprovedChanges}
    (ok : actionDealflowApplyApprovedChange base env orderId changes db = .ok after) :
    OrdersMove (AddonCall.applyApprovedChange orderId changes).Writes db after := by
  obtain ⟨-, ok⟩ := require_bind_eq_ok.mp ok
  obtain ⟨-, ok⟩ := require_bind_eq_ok.mp ok
  obtain ⟨priced, discounts, ok⟩ := bind_eq_ok.mp ok
  have orders : priced.orders = db.orders := by rw [applyLineDiscounts_ok rfl discounts]
  exact (OrdersMove.of_orders orders).trans (writeOrders_moves ok ⟨_, rfl⟩)

theorem adapterApplyApprovedChange_ok {orderId : ℤ} {changes : ApprovedChanges}
    (ok : adapterApplyApprovedChange base env orderId changes db = .ok after) :
    actionDealflowApplyApprovedChange base env orderId.toNat changes db = .ok after := by
  obtain ⟨-, ok⟩ := require_bind_eq_ok.mp ok
  obtain ⟨-, ok⟩ := require_bind_eq_ok.mp ok
  obtain ⟨-, -, ok⟩ := bind_eq_ok.mp ok
  obtain ⟨-, ok⟩ := require_bind_eq_ok.mp ok
  obtain ⟨-, ok⟩ := require_bind_eq_ok.mp ok
  obtain ⟨order, -, ok⟩ := bind_eq_ok.mp ok
  obtain ⟨-, ok⟩ := require_bind_eq_ok.mp ok
  exact mapError_eq_ok.mp ok

/-- A confirmation through the service is Odoo's own, in one environment or another. -/
theorem confirmOrder_ok {signing : Signing} {service : OdooIntegrationService} {orderId : ℤ}
    {approvalToken : Option String}
    (ok : confirmOrder base signing service orderId approvalToken db = .ok after) :
    ∃ env, superConfirm base env [orderId.toNat] db = .ok after := by
  unfold confirmOrder at ok
  split at ok
  · obtain ⟨-, ok⟩ := require_bind_eq_ok.mp ok
    obtain ⟨-, ok⟩ := require_bind_eq_ok.mp ok
    obtain ⟨order, -, ok⟩ := bind_eq_ok.mp ok
    obtain ⟨-, ok⟩ := require_bind_eq_ok.mp ok
    split at ok
    · obtain ⟨verified, -, ok⟩ := bind_eq_ok.mp ok
      obtain ⟨-, ok⟩ := require_bind_eq_ok.mp ok
      exact ⟨_, actionDealflowConfirm_ok (mapError_eq_ok.mp ok)⟩
    · obtain ⟨-, -, ok⟩ := bind_eq_ok.mp ok
      exact ⟨_, actionDealflowConfirm_ok (mapError_eq_ok.mp ok)⟩
  · obtain ⟨order, -, ok⟩ := bind_eq_ok.mp ok
    obtain ⟨tokenValid, -, ok⟩ := bind_eq_ok.mp ok
    obtain ⟨-, ok⟩ := require_bind_eq_ok.mp ok
    obtain ⟨-, ok⟩ := require_bind_eq_ok.mp ok
    obtain ⟨-, ok⟩ := require_bind_eq_ok.mp ok
    exact ⟨_, actionDealflowConfirm_ok (mapError_eq_ok.mp ok)⟩

theorem superConfirm_moves (ok : superConfirm base env ids db = .ok after) :
    OrdersMove writes db after := by
  refine .loop ok fun now id next step => ?_
  obtain ⟨-, step⟩ := require_bind_eq_ok.mp step
  obtain ⟨-, -, step⟩ := bind_eq_ok.mp step
  cases step
  exact .modify (fun _ => .confirm) rfl rfl

/-- Every call moves orders with what it may write. -/
theorem performAddon_moves {op : AddonOp} (ok : performAddon base op db = .ok after) :
    OrdersMove op.call.Writes db after := by
  obtain ⟨env, call⟩ := op
  cases call with
  | createNegotiations valsList => exact createNegotiations_moves ok
  | writeNegotiations ids vals =>
      refine .of_orders ?_
      rw [writeNegotiations_ok ok]
  | underReview ids => exact .of_orders (actionUnderReview_reviewed ok).1
  | approve ids reviewNote => exact actionApprove_moves ok
  | reject ids reviewNote => exact actionReject_moves ok
  | lock ids => exact .loop ok fun _ _ _ written => writeOrders_moves written rfl
  | unlock actor ids =>
      obtain ⟨-, loop⟩ := require_bind_eq_ok.mp ok
      exact .loop loop fun _ _ _ written => writeOrders_moves written rfl
  | evaluateGovernance orderId =>
      obtain ⟨⟨report, evaluated⟩, evaluation, same⟩ := bind_eq_ok.mp ok
      cases same
      exact evaluateGovernance_moves evaluation
  | writeOrders ids vals => exact writeOrders_moves ok rfl
  | writeLines ids vals => exact writeLines_moves ok
  | applyApprovedChange orderId changes => exact applyApprovedChange_moves ok
  | adapterApplyApprovedChange orderId changes =>
      exact applyApprovedChange_moves (adapterApplyApprovedChange_ok (mapError_eq_ok.mp ok))
  | confirmOrder signing salesAdapter orderId approvalToken =>
      obtain ⟨env, confirmed⟩ := confirmOrder_ok (mapError_eq_ok.mp ok)
      exact superConfirm_moves confirmed

end Moves

end DealFlow.Addon
