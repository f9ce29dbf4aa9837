import DealFlow.Models.Store
import Mathlib.Data.List.AList

/-!
# The Odoo gateway

The part of `app/odoo/interface.py` the governed operations use.  A gateway acts on a state `σ` of
the Odoo side, its own bookkeeping included; every call may change it, fail, or both.  Amounts are
floats in the source, here the decimal numbers they print as.

The two calls that come after the confirmation of an order, carrying out a fulfilment plan and
registering a payment, are those of a `BackOffice`.
-/

namespace DealFlow

inductive OdooError
  | capabilityMissing (methodName message : String)
  | other (message : String)
  deriving DecidableEq, Repr

/-- The text of the exception. -/
def OdooError.text : OdooError → String
  | .capabilityMissing _ message => message
  | .other message => message

structure RawOrderLine where
  id : ℤ
  productId : ℤ
  productName : String
  categoryId : ℤ
  productType : String
  qty : ℚ
  priceUnit : ℚ
  discountPct : ℚ
  unitCost : ℚ
  taxRatePct : ℚ
  isRecurring : Bool := false
  deriving DecidableEq, Repr

/-- The commitment date is the moment its text denotes; a text that is no date counts as none. -/
structure RawOrderHeader where
  id : ℤ
  name : String
  partnerId : ℤ
  partnerName : String
  state : String
  currency : String
  userId : ℤ
  teamId : Option ℤ
  companyId : ℤ
  commitmentDate : Option Timestamp := none
  deriving DecidableEq, Repr

structure RawOrder where
  header : RawOrderHeader
  lines : List RawOrderLine
  deriving DecidableEq, Repr

/-- Stock per product and warehouse; a product without an entry has the empty dictionary. -/
abbrev Availability := ℤ → AList fun _ : ℤ => ℤ

/-- A change to one order line; an absent field is left alone. -/
structure LineChange where
  lineId : ℤ
  qty : Option ℚ := none
  discount : Option ℚ := none
  deriving DecidableEq, Repr

/-- A call on the Odoo side. -/
abbrev OdooCall (σ α : Type) := σ → Except OdooError α × σ

structure OdooGateway (σ : Type) where
  getSaleOrder : ℤ → OdooCall σ RawOrder
  getAvailability : List ℤ → OdooCall σ Availability
  applyLineChanges : ℤ → List LineChange → OdooCall σ Unit
  addLine : ℤ → ℤ → ℚ → ℚ → OdooCall σ ℤ
  setGovernance : ℤ → String → ℚ → Bool → OdooCall σ Unit
  confirm : ℤ → OdooCall σ Unit

/-- The store of a deal together with the Odoo side. -/
structure World (σ : Type) where
  db : DealStore
  odoo : σ

/-! ## Recorded calls -/

/-- The calls that carry a governance decision to Odoo.  A confirmation is recorded with what was
seen of the order when it was called for. -/
inductive GatewayCall (V : Type)
  | setGovernance (orderId : ℤ) (approvalState : String) (riskScore : ℚ) (locked : Bool)
  | confirm (orderId : ℤ) (seen : V)
  deriving DecidableEq, Repr

/-- Run a call of the wrapped gateway, leaving the record alone. -/
def passThrough {σ V α : Type} (call : OdooCall σ α) : OdooCall (σ × List (GatewayCall V)) α :=
  fun s => ((call s.1).1, (call s.1).2, s.2)

/-- Run a call of the wrapped gateway and record it. -/
def recorded {σ V α : Type} (entry : σ → GatewayCall V) (call : OdooCall σ α) :
    OdooCall (σ × List (GatewayCall V)) α :=
  fun s => ((call s.1).1, (call s.1).2, s.2 ++ [entry s.1])

/-- A gateway that also keeps a record of its `set_governance` and `confirm` calls. -/
def recording {σ V : Type} (gateway : OdooGateway σ) (view : σ → V) :
    OdooGateway (σ × List (GatewayCall V)) where
  getSaleOrder orderId := passThrough (gateway.getSaleOrder orderId)
  getAvailability productIds := passThrough (gateway.getAvailability productIds)
  applyLineChanges orderId changes := passThrough (gateway.applyLineChanges orderId changes)
  addLine orderId productId qty discount :=
    passThrough (gateway.addLine orderId productId qty discount)
  setGovernance orderId approvalState riskScore locked :=
    recorded (fun _ => .setGovernance orderId approvalState riskScore locked)
      (gateway.setGovernance orderId approvalState riskScore locked)
  confirm orderId := recorded (fun s => .confirm orderId (view s)) (gateway.confirm orderId)

/-! ## What a call leaves alone -/

/-- The call does not change what `f` shows of the Odoo side. -/
def Keeps {σ α β : Type} (f : σ → β) (call : OdooCall σ α) : Prop :=
  ∀ s, f (call s).2 = f s

/-- A recorded call that leaves alone what `f` shows does so on the wrapped side too. -/
theorem keeps_passThrough {σ V α β : Type} {f : σ → β} {call : OdooCall σ α}
    (kept : Keeps f call) : Keeps (fun s : σ × List (GatewayCall V) => f s.1) (passThrough call) :=
  fun s => kept s.1

theorem keeps_recorded {σ V α β : Type} {f : σ → β} {call : OdooCall σ α} (kept : Keeps f call)
    (entry : σ → GatewayCall V) : Keeps (fun s => f s.1) (recorded entry call) :=
  fun s => kept s.1

/-! ## Fulfilment and payments -/

/-- What Odoo is asked to pick. -/
structure AllocationPayload where
  lineId : ℤ
  productId : ℤ
  warehouseId : ℤ
  qty : ℤ
  deriving DecidableEq, Repr

/-- The receipt of a payment; one on an invoice that is not there has no id. -/
structure PaymentRecord where
  id : Option ℤ
  invoiceId : ℤ
  amount : ℚ
  deriving DecidableEq, Repr

structure BackOfficeGateway (σ : Type) extends OdooGateway σ where
  /-- Returns the ids of the pickings. -/
  applyFulfillmentPlan : ℤ → List AllocationPayload → OdooCall σ (List ℤ)
  registerPayment : ℤ → ℚ → OdooCall σ PaymentRecord

/-- The gateway with a record of its `set_governance` and `confirm` calls. -/
def recordingBackOffice {σ V : Type} (gateway : BackOfficeGateway σ) (view : σ → V) :
    BackOfficeGateway (σ × List (GatewayCall V)) where
  toOdooGateway := recording gateway.toOdooGateway view
  applyFulfillmentPlan orderId allocations :=
    passThrough (gateway.applyFulfillmentPlan orderId allocations)
  registerPayment invoiceId amount := passThrough (gateway.registerPayment invoiceId amount)

end DealFlow
