import Mathlib.Data.Rat.Defs

/-!
# Shared types of the addon

`dealflow_odoo/schemas.py`: the errors of the integration, the customers and order lines of a deal's
context and the fulfilment plans its adapters exchange.  The `details` of an error, which nothing
reads back, are left out.
-/

namespace DealFlow.Addon

structure DealFlowIntegrationError where
  code : String
  message : String
  deriving DecidableEq, Repr

def validationError (message : String) : DealFlowIntegrationError :=
  { code := "VALIDATION_ERROR", message }

def authorizationError (message : String) : DealFlowIntegrationError :=
  { code := "AUTHORIZATION_ERROR", message }

def notFoundError (message : String) : DealFlowIntegrationError :=
  { code := "NOT_FOUND", message }

def invalidStateError (message : String) : DealFlowIntegrationError :=
  { code := "INVALID_STATE", message }

def odooExecutionError (message : String) : DealFlowIntegrationError :=
  { code := "ODOO_FAILURE", message }

structure CustomerDTO where
  id : ℕ
  name : String
  email : Option String := none
  phone : Option String := none
  creditLimit : ℚ := 0
  totalInvoiced : ℚ := 0
  isCompany : Bool := true
  street : Option String := none
  city : Option String := none
  country : Option String := none
  deriving DecidableEq, Repr

structure OrderLineDTO where
  id : ℕ
  productId : ℕ
  productName : String
  categoryName : String
  productUomQty : ℚ
  priceUnit : ℚ
  costPrice : ℚ
  discount : ℚ
  priceSubtotal : ℚ
  margin : ℚ
  marginPercent : ℚ
  isRecurring : Bool := false
  recurringInterval : Option String := none
  deriving DecidableEq, Repr

structure FulfillmentSplitItem where
  productId : ℤ
  warehouseId : ℤ
  warehouseName : String
  quantity : ℚ
  deriving DecidableEq, Repr

structure FulfillmentPlanDTO where
  dealId : Option String := none
  orderId : ℤ := 0
  allocations : List FulfillmentSplitItem := []
  notes : Option String := none
  batchId : Option String := none
  requestedQty : Option ℚ := none
  deriving DecidableEq, Repr

end DealFlow.Addon
