import DealFlow.Odoo.Interface

/-!
# The XML-RPC gateway and the addon's order

`XmlRpcOdooGateway` of `app/odoo/xmlrpc.py` against a `sale.order` of the `dealflow_odoo` addon
(`dealflow_odoo/models/sale_order.py`, `sale_order_line.py`).  Here are the governance fields of the
order and the guards the addon puts around them; `LiveOdoo` is the Odoo behind it, which answers the
reads and carries out the writes of base Odoo.

Odoo raises on a method the model does not define, which the gateway turns into
`OdooCapabilityMissing`, and on a selection value outside its selection.
-/

namespace DealFlow

/-- `APPROVAL_STATES` of `dealflow_odoo/constants.py`. -/
inductive AddonApprovalState
  | draft | pendingApproval | approved | rejected | reapprovalRequired
  deriving DecidableEq, Repr

def AddonApprovalState.value : AddonApprovalState → String
  | .draft => "draft"
  | .pendingApproval => "pending_approval"
  | .approved => "approved"
  | .rejected => "rejected"
  | .reapprovalRequired => "reapproval_required"

/-- The selection of `dealflow_approval_state`. -/
def approvalStates : List AddonApprovalState :=
  [.draft, .pendingApproval, .approved, .rejected, .reapprovalRequired]

/-- The governance fields of an addon order, with their defaults. -/
structure AddonOrder where
  dealflowRiskScore : ℚ := 0
  dealflowApprovalState : AddonApprovalState := .draft
  dealflowLocked : Bool := false
  deriving DecidableEq, Repr

/-- An addon order together with the rest of the Odoo database. -/
structure AddonOdoo (ρ : Type) where
  order : AddonOrder
  rest : ρ
  deriving DecidableEq, Repr

/-- Odoo below the addon, and what the addon's guards look at in it. -/
structure LiveOdoo (ρ : Type) where
  base : OdooGateway ρ
  /-- The user of the connection is a portal user. -/
  portalUser : ρ → Bool
  /-- It is a sales rep without more, and the order's discount is above the finance threshold. -/
  repOverThreshold : ρ → Bool
  /-- A discount of the order is above the rep's maximum or its category's ceiling. -/
  discountBreach : ρ → Bool
  /-- The approved discount the addon keeps on a line. -/
  approvedDiscount : ρ → ℤ → ℚ

/-- The values of a `write` on the governance fields. -/
structure GovernanceVals where
  approvalState : String
  riskScore : ℚ
  locked : Bool
  deriving DecidableEq, Repr

section Addon

variable {ρ : Type} (live : LiveOdoo ρ)

/-- A call that leaves the addon's fields alone. -/
def onRest {α : Type} (call : OdooCall ρ α) : OdooCall (AddonOdoo ρ) α := fun s =>
  ((call s.rest).1, { s with rest := (call s.rest).2 })

/-- `SaleOrder.write` on governance values: who may approve is checked before Odoo checks the
selection. -/
def writeGovernance (vals : GovernanceVals) : OdooCall (AddonOdoo ρ) Unit := fun s =>
  if vals.approvalState = AddonApprovalState.approved.value ∧ live.portalUser s.rest = true then
    (.error (.other
      "Privilege Escalation Blocked: Portal users cannot update order approval state."), s)
  else if vals.approvalState = AddonApprovalState.approved.value ∧
      live.repOverThreshold s.rest = true then
    (.error (.other ("Privilege Escalation Blocked: Sales Rep cannot approve order exceeding " ++
      "20.0% discount (Finance approval required).")), s)
  else
    match approvalStates.find? fun st => st.value = vals.approvalState with
    | none => (.error (.other
        s!"Wrong value for sale.order.dealflow_approval_state: {vals.approvalState}"), s)
    | some state =>
        (.ok (),
          { s with
            order :=
              { dealflowRiskScore := vals.riskScore
                dealflowApprovalState := state
                dealflowLocked := vals.locked } })

/-- `SaleOrder.action_dealflow_confirm`, which `action_confirm` calls. -/
def actionDealflowConfirm (orderId : ℤ) : OdooCall (AddonOdoo ρ) Unit := fun s =>
  if live.portalUser s.rest = true then
    (.error (.other
      "Privilege Escalation Blocked: Portal users cannot confirm sales orders directly."), s)
  else if s.order.dealflowApprovalState = .rejected then
    (.error (.other ("Confirmation Blocked: Quotation has been formally rejected by " ++
      "DealFlow governance.")), s)
  else if (s.order.dealflowLocked || live.discountBreach s.rest) = true ∧
      s.order.dealflowApprovalState ≠ .approved then
    (.error (.other "Order locked pending DealFlow approval"), s)
  else onRest (live.base.confirm orderId) s

/-- `SaleOrderLine.write` on quantity and discount: on an approved order a deviation from the
approved line takes the approval back. -/
def writeLine (orderId : ℤ) (c : LineChange) : OdooCall (AddonOdoo ρ) Unit := fun s =>
  if c.discount.any (fun d => d < 0 ∨ 100 < d) then
    (.error (.other "Discount must be between 0.0% and 100.0%."), s)
  else if c.qty.any (fun q => q ≤ 0) then
    (.error (.other "Order line quantity must be strictly positive."), s)
  else
    let deviates : Bool :=
      c.discount.any (fun d => d ≠ live.approvedDiscount s.rest c.lineId) || c.qty.isSome
    match onRest (live.base.applyLineChanges orderId [c]) s with
    | (.error e, s') => (.error e, s')
    | (.ok (), s') =>
        if s.order.dealflowApprovalState = .approved ∧ deviates = true then
          (.ok (),
            { s' with
              order :=
                { s'.order with
                  dealflowApprovalState := .reapprovalRequired
                  dealflowLocked := true } })
        else (.ok (), s')

/-- The arguments of a remote call on an order. -/
inductive RpcArgs
  | none
  | vals (vals : GovernanceVals)
  | changes (changes : List LineChange)
  deriving DecidableEq, Repr

/-- The order's methods among those the gateway asks for.  The addon defines no
`dealflow_set_governance`, `dealflow_confirm` or `dealflow_apply_line_changes`. -/
def saleOrderMethod (orderId : ℤ) : String → RpcArgs → Option (OdooCall (AddonOdoo ρ) Unit)
  | "write", .vals vals => some (writeGovernance live vals)
  | "action_confirm", .none => some (actionDealflowConfirm live orderId)
  | _, _ => none

/-- `XmlRpcOdooGateway.execute` on the order. -/
def execute (orderId : ℤ) (method : String) (args : RpcArgs) : OdooCall (AddonOdoo ρ) Unit :=
  match saleOrderMethod live orderId method args with
  | some call => call
  | none => fun s =>
      (.error (.capabilityMissing method
        s!"Odoo model 'sale.order' does not implement required method '{method}'."), s)

/-- `try ... except OdooCapabilityMissing`. -/
def withFallback {α : Type} (first fallback : OdooCall (AddonOdoo ρ) α) :
    OdooCall (AddonOdoo ρ) α := fun s =>
  match first s with
  | (.error (.capabilityMissing _ _), s') => fallback s'
  | result => result

/-- The writes of the fallback, one call a line; a change without values is skipped. -/
def writeLines (orderId : ℤ) : List LineChange → OdooCall (AddonOdoo ρ) Unit
  | [], s => (.ok (), s)
  | c :: cs, s =>
      if (c.qty.isSome || c.discount.isSome) = true ∧ c.lineId ≠ 0 then
        match writeLine live orderId c s with
        | (.error e, s') => (.error e, s')
        | (.ok (), s') => writeLines orderId cs s'
      else writeLines orderId cs s

/-- The production gateway. -/
def xmlRpcGateway : OdooGateway (AddonOdoo ρ) where
  getSaleOrder orderId := onRest (live.base.getSaleOrder orderId)
  getAvailability productIds := onRest (live.base.getAvailability productIds)
  applyLineChanges orderId changes :=
    withFallback (execute live orderId "dealflow_apply_line_changes" (.changes changes))
      (writeLines live orderId changes)
  addLine orderId productId qty discount :=
    onRest (live.base.addLine orderId productId qty discount)
  setGovernance orderId approvalState riskScore locked :=
    withFallback
      (execute live orderId "dealflow_set_governance" (.vals { approvalState, riskScore, locked }))
      (execute live orderId "write" (.vals { approvalState, riskScore, locked }))
  confirm orderId :=
    withFallback (execute live orderId "dealflow_confirm" .none)
      (execute live orderId "action_confirm" .none)

end Addon

end DealFlow
