import DealFlow.Addon.InventoryAdapter

/-!
# Applying a plan over the API

The three layers a fulfilment plan crosses: `apply_fulfillment` of
`dealflow_odoo/controllers/api.py` for a request that is authenticated,
`OdooIntegrationService.apply_fulfillment_plan` with the inventory adapter composed into it, and the
adapter on its own store, which may be handed a plan object or a dictionary.

The service passes neither a batch id nor the idempotent flag.  The stock event it dispatches after
an application, and its audit log, are left out.
-/

namespace DealFlow.Addon

open Lib

/-- A value as JSON carries it. -/
inductive JsonValue
  | null
  | bool (b : Bool)
  | number (x : ℚ)
  | string (s : String)
  | array (items : List JsonValue)
  | object (fields : List (String × JsonValue))
  deriving Repr

/-- What a caller hands over as the plan. -/
inductive PlanArgument
  | dto (plan : FulfillmentPlanDTO)
  | dict (fields : List (String × JsonValue))
  deriving Repr

/-! ## The dictionary form of a plan -/

def FulfillmentSplitItem.asdict (a : FulfillmentSplitItem) : JsonValue :=
  .object
    [("product_id", .number a.productId),
     ("warehouse_id", .number a.warehouseId),
     ("warehouse_name", .string a.warehouseName),
     ("quantity", .number a.quantity)]

def FulfillmentPlanDTO.asdict (plan : FulfillmentPlanDTO) : List (String × JsonValue) :=
  [("deal_id", plan.dealId.elim .null .string),
   ("order_id", .number plan.orderId),
   ("allocations", .array (plan.allocations.map (·.asdict))),
   ("notes", plan.notes.elim .null .string),
   ("batch_id", plan.batchId.elim .null .string),
   ("requested_qty", plan.requestedQty.elim .null .number)]

/-! ## The adapter -/

def orderIdError (orderId : ℤ) : DealFlowIntegrationError :=
  validationError s!"Invalid order_id: {orderId}. Must be a positive integer."

/-- The error of the type check, which only looks at what the plan is an instance of. -/
def planTypeError : DealFlowIntegrationError :=
  validationError "fulfillment_plan must be an instance of FulfillmentPlanDTO."

/-- `InventoryAdapter.apply_fulfillment_plan` with whatever it is handed.  The order id is checked
before the type of the plan. -/
def InventoryAdapter.applyPlanArgument (s : InventoryAdapter) (args : ApplyArgs) :
    PlanArgument → Except AdapterError ApplyResult × InventoryAdapter
  | .dto plan =>
      ((s.applyFulfillmentPlan args plan).1, (s.applyFulfillmentPlan args plan).2.2)
  | .dict _ =>
      if args.orderId ≤ 0 then (.error (.integration (orderIdError args.orderId)), s)
      else (.error (.integration planTypeError), s)

/-! ## The service -/

/-- The arguments of a call of the service besides the plan, with its clock and random token. -/
structure ServiceCall where
  orderId : ℤ
  now : ℤ
  uniqueToken : String
  deriving DecidableEq, Repr

def ServiceCall.args (call : ServiceCall) : ApplyArgs :=
  { orderId := call.orderId, now := call.now, uniqueToken := call.uniqueToken }

section Service

-- `str(err)` of an exception that is not the integration's
variable (exceptionText : AdapterError → String)

/-- `_operation_boundary` around a call of the adapter. -/
def adapterBoundary : AdapterError → DealFlowIntegrationError
  | .integration e => e
  | e => odooExecutionError s!"Execution failed during apply_fulfillment_plan: {exceptionText e}"

/-- `OdooIntegrationService.apply_fulfillment_plan`: the plan goes to the adapter as it came. -/
def serviceApplyPlan (adapter : InventoryAdapter) (call : ServiceCall) (plan : PlanArgument) :
    Except DealFlowIntegrationError ApplyResult × InventoryAdapter :=
  let applied := adapter.applyPlanArgument call.args plan
  (applied.1.mapError (adapterBoundary exceptionText), applied.2)

/-! ## The controller -/

inductive ApiResponse
  | success (result : ApplyResult)
  | failure (status : ℕ) (e : DealFlowIntegrationError)
  deriving DecidableEq, Repr

/-- `_handle_error`. -/
def errorStatus (e : DealFlowIntegrationError) : ℕ :=
  if e.code = "AUTHENTICATION_REQUIRED" then 401
  else if e.code = "VALIDATION_ERROR" then 400
  else if e.code = "AUTHORIZATION_ERROR" then 403
  else if e.code = "NOT_FOUND" then 404
  else if e.code = "INVALID_STATE" then 409
  else if e.code = "ODOO_FAILURE" then 500
  else 400

/-- `payload.get("plan", payload)`, where that is a dictionary. -/
def requestedPlan (payload : List (String × JsonValue)) : Option (List (String × JsonValue)) :=
  match payload.lookup "plan" with
  | none => some payload
  | some (.object fields) => some fields
  | some _ => none

/-- `apply_fulfillment`, for a payload with a dictionary as its plan. -/
def applyFulfillment (adapter : InventoryAdapter) (call : ServiceCall)
    (payload : List (String × JsonValue)) : Option (ApiResponse × InventoryAdapter) :=
  (requestedPlan payload).map fun plan =>
    match serviceApplyPlan exceptionText adapter call (.dict plan) with
    | (.ok result, adapter') => (.success result, adapter')
    | (.error e, adapter') => (.failure (errorStatus e) e, adapter')

end Service

end DealFlow.Addon
