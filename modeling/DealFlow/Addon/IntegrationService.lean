import DealFlow.Addon.SalesAdapter

/-!
# The integration service

`confirm_order` and `update_order` of `dealflow_odoo/services/integration_service.py`, with the
boundary that turns every exception into an error of the integration.  The audit log and the events
they dispatch are left out.
-/

namespace DealFlow.Addon

open Lib

/-- The service: its environment, and whether it works through the sales adapter, as it does where
that module could be imported. -/
structure OdooIntegrationService where
  env : Env
  salesAdapter : Bool := true
  deriving DecidableEq

/-- `_operation_boundary`. -/
def translateException : OdooException → DealFlowIntegrationError
  | .integration e => e
  | .validationError message => validationError message
  | .accessError message => authorizationError message
  | .missingError message => notFoundError message
  | .userError message =>
      if ["state", "status", "lock", "draft", "confirm", "approve", "cancel"].any
          (occursIn · message.toLower) then
        invalidStateError message
      else odooExecutionError message

section Methods

variable (base : BaseOdoo) (signing : Signing) (service : OdooIntegrationService)

/-- The states that need an approval token. -/
def awaitsApproval (state : AddonApprovalState) : Bool :=
  state = .pendingApproval || state = .rejected || state = .reapprovalRequired

def findOrderDirectly (orderId : ℤ) (db : Db) : Except DealFlowIntegrationError SaleOrder :=
  match db.browse orderId with
  | none => .error (notFoundError s!"Sale order {orderId} does not exist")
  | some order => .ok order

/-- `token_valid`; what the verifier itself raises becomes an error at the boundary. -/
def tokenValidity (orderId : ℤ) (approvalToken : Option String) :
    Except DealFlowIntegrationError Bool :=
  match givenToken approvalToken with
  | some token => (verifyApprovalToken signing (some token) orderId).mapError fun e =>
      odooExecutionError s!"Execution failed during confirm_order: {e.message}"
  | none => .ok false

/-- The governance guard of the service where it works without the adapter. -/
def directConfirmOrder (orderId : ℤ) (approvalToken : Option String) (db : Db) :
    Except DealFlowIntegrationError Db := do
  let order ← findOrderDirectly orderId db
  let tokenValid ← tokenValidity signing orderId approvalToken
  require ((givenToken approvalToken).isSome = true → tokenValid = true) (authorizationError
    ("Cryptographic verification failed: Invalid, expired, or forged approval token " ++
      s!"for order {orderId}."))
  require (order.dealflowLocked = true → tokenValid = true) (authorizationError
    (s!"Order {orderId} is locked and requires a valid DealFlow approval token " ++
      "before confirmation"))
  require (awaitsApproval order.dealflowApprovalState = true → tokenValid = true)
    (authorizationError
      (s!"Cannot confirm order {orderId} in approval state " ++
        s!"'{order.dealflowApprovalState.value}' without a valid DealFlow approval token"))
  (actionDealflowConfirm base service.env [orderId.toNat] db).mapError translateException

/-- `OdooIntegrationService.confirm_order`. -/
def confirmOrder (orderId : ℤ) (approvalToken : Option String) (db : Db) :
    Except DealFlowIntegrationError Db :=
  if service.salesAdapter then
    adapterConfirmOrder base signing service.env orderId approvalToken db
  else directConfirmOrder base signing service orderId approvalToken db

/-! ## Updates -/

/-- The update where the service works without the adapter; Odoo does not know a field `lines`. -/
def directUpdateOrder (orderId : ℤ) (values : OrderUpdate) (db : Db) :
    Except DealFlowIntegrationError Db := do
  let order ← findOrderDirectly orderId db
  require (order.state ≠ .sale ∧ order.state ≠ .done ∧ order.state ≠ .cancel) (invalidStateError
    s!"Cannot update order in state '{order.state.value}'")
  require (order.dealflowLocked = false) (invalidStateError
    s!"Order {orderId} is locked pending approval")
  require (values.lines = none) (odooExecutionError
    "Execution failed during update_order: Invalid field 'lines' on model 'sale.order'")
  (writeOrders base service.env [orderId.toNat] values.vals db).mapError translateException

/-- `OdooIntegrationService.update_order`. -/
def updateOrder (orderId : ℤ) (values : OrderUpdate) (db : Db) :
    Except DealFlowIntegrationError Db :=
  if service.salesAdapter then adapterUpdateOrder base service.env orderId values db
  else directUpdateOrder base service orderId values db

end Methods

end DealFlow.Addon
