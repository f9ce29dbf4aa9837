import DealFlow.Addon.Records
import DealFlow.Addon.Schemas
import DealFlow.Lib.Fallible
import DealFlow.Lib.Significant

/-!
# The ORM below the addon

What the addon's `write` overrides reach through `super`: Odoo's own `write`, `create` and `unlink`
on the records of the addon.  A dictionary of values is a structure of optional fields; of an
order's lines it holds the commands of a one-to-many field.

Odoo itself is a parameter.  It denies a call to a user without the rights, except in a superuser
environment, and it refuses what the sales app does not allow; what it says to either is up to it.
The one law is that the sales app has nothing against a write of the addon's own two fields.

A call that raises is rolled back.
-/

namespace DealFlow.Addon

open Lib

/-- The exceptions of Odoo, and the addon's own. -/
inductive OdooException
  | accessError (message : String)
  | missingError (message : String)
  | userError (message : String)
  | validationError (message : String)
  | integration (e : DealFlowIntegrationError)
  deriving DecidableEq, Repr

/-- The database after a call: one that raises changes nothing. -/
def settle {ε : Type} (db : Db) (result : Except ε Db) : Db :=
  match result with
  | .ok after => after
  | .error _ => db

/-! ## Values -/

structure LineVals where
  orderId : Option ℕ := none
  displayType : Option Bool := none
  name : Option String := none
  productId : Option (Option Product) := none
  productUomQty : Option ℚ := none
  priceUnit : Option ℚ := none
  discount : Option ℚ := none
  purchasePrice : Option ℚ := none
  dealflowApprovedDiscount : Option ℚ := none
  dealflowIsRecurring : Option Bool := none
  dealflowRecurringInterval : Option (Option RecurringInterval) := none
  deriving DecidableEq, Repr

/-- The commands of a one-to-many field, `(0, 0, vals)` to `(6, 0, ids)`. -/
inductive Command
  | create (vals : LineVals)
  | update (id : ℕ) (vals : LineVals)
  | delete (id : ℕ)
  | unlink (id : ℕ)
  | link (id : ℕ)
  /-- `(5, 0, 0)`, or `(5,)`. -/
  | clear (short : Bool)
  | set (ids : List ℕ)
  deriving DecidableEq, Repr

/-- The value of `order_line`: commands in a list, or in a sequence of another type. -/
structure OrderLineValue where
  isList : Bool := true
  commands : List Command
  deriving DecidableEq, Repr

structure SaleOrderVals where
  state : Option OrderState := none
  paymentTermId : Option (Option ℕ) := none
  note : Option String := none
  termsType : Option String := none
  validityDate : Option (Option ℤ) := none
  pricelistId : Option (Option ℕ) := none
  dealflowDealId : Option (Option String) := none
  dealflowRiskScore : Option ℚ := none
  dealflowApprovalState : Option AddonApprovalState := none
  dealflowHealthStatus : Option OrderHealth := none
  dealflowLastEvaluatedAt : Option (Option ℤ) := none
  dealflowLocked : Option Bool := none
  orderLine : Option OrderLineValue := none
  deriving DecidableEq, Repr

structure NegotiationVals where
  saleOrderId : Option ℕ := none
  requestedDiscount : Option ℚ := none
  status : Option NegotiationStatus := none
  originalAmount : Option ℚ := none
  proposedAmount : Option ℚ := none
  submittedAt : Option ℤ := none
  reviewedBy : Option (Option ℕ) := none
  reviewNote : Option (Option String) := none
  deriving DecidableEq, Repr

/-- The value that puts an order into a state of approval and sets its lock. -/
def governanceVals (state : AddonApprovalState) (locked : Bool) : SaleOrderVals :=
  { dealflowApprovalState := some state, dealflowLocked := some locked }

/-! ## Odoo -/

/-- The calls that Odoo may deny or refuse. -/
inductive OrmCall
  | readOrder (id : ℕ)
  | writeOrders (ids : List ℕ) (vals : SaleOrderVals)
  | confirmOrder (id : ℕ)
  | writeLines (ids : List ℕ) (vals : LineVals)
  | createLine (vals : LineVals)
  | deleteLines (ids : List ℕ)
  | writeNegotiations (ids : List ℕ) (vals : NegotiationVals)
  | createNegotiation (vals : NegotiationVals)
  deriving DecidableEq, Repr

structure BaseOdoo where
  /-- Access rights and record rules. -/
  denies : Env → OrmCall → Db → Bool
  refuses : OrmCall → Db → Option String
  /-- The unit price and the discount that the sales app puts on a line where none is written. -/
  recompute : LineVals → SaleOrderLine → ℚ × ℚ
  amountUntaxed : List SaleOrderLine → ℚ
  amountTotal : List SaleOrderLine → ℚ
  refuses_governance : ∀ ids state locked db,
    refuses (.writeOrders ids (governanceVals state locked)) db = none

/-- An Odoo that denies and refuses nothing, without pricelists and taxes. -/
def openOdoo : BaseOdoo where
  denies _ _ _ := false
  refuses _ _ := none
  recompute _ line := (line.priceUnit, line.discount)
  amountUntaxed lines := (lines.map fun line => line.gross * (1 - line.discount / 100)).sum
  amountTotal lines := (lines.map fun line => line.gross * (1 - line.discount / 100)).sum
  refuses_governance _ _ _ _ := rfl

section Odoo

variable (base : BaseOdoo) (env : Env)

def BaseOdoo.check (call : OrmCall) (db : Db) : Except OdooException Unit :=
  if !env.su && base.denies env call db then
    .error (.accessError "You are not allowed to perform this operation.")
  else
    match base.refuses call db with
    | some message => .error (.userError message)
    | none => .ok ()

def missing (model : String) : OdooException :=
  .missingError s!"Record does not exist or has been deleted. ({model})"

/-! ## Order lines -/

/-- A line with values written to it. -/
def SaleOrderLine.assign (line : SaleOrderLine) (vals : LineVals) : SaleOrderLine :=
  let computed := base.recompute vals line
  let written : SaleOrderLine :=
    { line with
      orderId := vals.orderId.getD line.orderId
      displayType := vals.displayType.getD line.displayType
      name := vals.name.getD line.name
      productId := vals.productId.getD line.productId
      productUomQty := vals.productUomQty.getD line.productUomQty
      priceUnit := vals.priceUnit.getD computed.1
      discount := vals.discount.getD computed.2
      purchasePrice := vals.purchasePrice.getD line.purchasePrice
      dealflowApprovedDiscount :=
        vals.dealflowApprovedDiscount.getD line.dealflowApprovedDiscount
      dealflowIsRecurring := vals.dealflowIsRecurring.getD line.dealflowIsRecurring
      dealflowRecurringInterval :=
        vals.dealflowRecurringInterval.getD line.dealflowRecurringInterval }
  if vals.productId.isSome then written.computeCostPrice else written

/-- `_check_dealflow_line_constraints`. -/
def SaleOrderLine.checkConstraints (line : SaleOrderLine) : Except OdooException Unit := do
  require (0 ≤ line.discount ∧ line.discount ≤ 100) (.validationError
    s!"Discount must be between 0.0% and 100.0%. Received: {floatText line.discount}%.")
  require (line.displayType = true ∨ 0 < line.productUomQty) (.validationError
    s!"Order line quantity must be strictly positive. Received: {floatText line.productUomQty}.")

/-- The constraints run where a field they name is written. -/
def checkWritten (vals : LineVals) (ids : List ℕ) (lines : Table SaleOrderLine) :
    Except OdooException Unit :=
  if vals.discount.isSome || vals.productUomQty.isSome then
    ids.forM fun id =>
      match lines.row id with
      | some line => line.checkConstraints
      | none => .ok ()
  else .ok ()

/-- `super().write` of `sale.order.line`. -/
def superWriteLines (ids : List ℕ) (vals : LineVals) (db : Db) : Except OdooException Db := do
  require (∀ id ∈ ids, (db.lines.row id).isSome = true) (missing "sale.order.line")
  base.check env (.writeLines ids vals) db
  let lines := db.lines.modify ids (·.assign base vals)
  checkWritten vals ids lines
  .ok { db with lines }

/-- A new line of an order: the values over the defaults. -/
def newLine (orderId : ℕ) (vals : LineVals) : SaleOrderLine :=
  ({ orderId } : SaleOrderLine).assign base { vals with orderId := some orderId }

def superCreateLine (orderId : ℕ) (vals : LineVals) (db : Db) : Except OdooException Db := do
  base.check env (.createLine { vals with orderId := some orderId }) db
  (newLine base orderId vals).checkConstraints
  .ok { db with lines := db.lines.insert (newLine base orderId vals) }

def superDeleteLines (ids : List ℕ) (db : Db) : Except OdooException Db := do
  require (∀ id ∈ ids, (db.lines.row id).isSome = true) (missing "sale.order.line")
  base.check env (.deleteLines ids) db
  .ok { db with lines := db.lines.erase ids }

/-! ## Orders -/

/-- An order with values written to it, its lines apart. -/
def SaleOrder.assign (order : SaleOrder) (vals : SaleOrderVals) : SaleOrder :=
  { order with
    state := vals.state.getD order.state
    paymentTermId := vals.paymentTermId.getD order.paymentTermId
    note := vals.note.getD order.note
    termsType := vals.termsType.getD order.termsType
    validityDate := vals.validityDate.getD order.validityDate
    pricelistId := vals.pricelistId.getD order.pricelistId
    dealflowDealId := vals.dealflowDealId.getD order.dealflowDealId
    dealflowRiskScore := vals.dealflowRiskScore.getD order.dealflowRiskScore
    dealflowApprovalState := vals.dealflowApprovalState.getD order.dealflowApprovalState
    dealflowHealthStatus := vals.dealflowHealthStatus.getD order.dealflowHealthStatus
    dealflowLastEvaluatedAt := vals.dealflowLastEvaluatedAt.getD order.dealflowLastEvaluatedAt
    dealflowLocked := vals.dealflowLocked.getD order.dealflowLocked }

/-- `super().write` of `sale.order`, but for the lines. -/
def superWriteFields (ids : List ℕ) (vals : SaleOrderVals) (db : Db) : Except OdooException Db := do
  require (∀ id ∈ ids, (db.orders.row id).isSome = true) (missing "sale.order")
  base.check env (.writeOrders ids vals) db
  .ok { db with orders := db.orders.modify ids (·.assign vals) }

/-- `super().action_confirm()`. -/
def superConfirm (ids : List ℕ) (db : Db) : Except OdooException Db :=
  ids.foldlM (fun db id => do
    require ((db.orders.row id).isSome = true) (missing "sale.order")
    base.check env (.confirmOrder id) db
    .ok { db with orders := db.orders.modify [id] fun order => { order with state := .sale } }) db

/-! ## Negotiations -/

def DealFlowNegotiation.assign (negotiation : DealFlowNegotiation) (vals : NegotiationVals) :
    DealFlowNegotiation :=
  { saleOrderId := vals.saleOrderId.getD negotiation.saleOrderId
    requestedDiscount := vals.requestedDiscount.getD negotiation.requestedDiscount
    status := vals.status.getD negotiation.status
    originalAmount := vals.originalAmount.getD negotiation.originalAmount
    proposedAmount := vals.proposedAmount.getD negotiation.proposedAmount
    submittedAt := vals.submittedAt.getD negotiation.submittedAt
    reviewedBy := vals.reviewedBy.getD negotiation.reviewedBy
    reviewNote := vals.reviewNote.getD negotiation.reviewNote }

@[simp] theorem DealFlowNegotiation.assign_status (rec : DealFlowNegotiation)
    (vals : NegotiationVals) : (rec.assign vals).status = vals.status.getD rec.status := rfl

@[simp] theorem DealFlowNegotiation.assign_requestedDiscount (rec : DealFlowNegotiation)
    (vals : NegotiationVals) :
    (rec.assign vals).requestedDiscount = vals.requestedDiscount.getD rec.requestedDiscount := rfl

/-- `_check_requested_discount`. -/
def checkRequestedDiscount (requested : Option ℚ) : Except OdooException Unit :=
  match requested with
  | none => .ok ()
  | some discount =>
      require (0 ≤ discount ∧ discount ≤ 100) (.validationError
        s!"Requested discount must be between 0.0% and 100.0%. Received: {floatText discount}%")

/-- `super().write` of `dealflow.negotiation`. -/
def superWriteNegotiations (ids : List ℕ) (vals : NegotiationVals) (db : Db) :
    Except OdooException Db := do
  require (∀ id ∈ ids, (db.negotiations.row id).isSome = true) (missing "dealflow.negotiation")
  base.check env (.writeNegotiations ids vals) db
  checkRequestedDiscount vals.requestedDiscount
  .ok { db with negotiations := db.negotiations.modify ids (·.assign vals) }

/-! ## What a call leaves behind -/

variable {base} {env} {db after : Db} {ids : List ℕ}

theorem superWriteLines_ok {vals : LineVals}
    (ok : superWriteLines base env ids vals db = .ok after) :
    after = { db with lines := db.lines.modify ids (·.assign base vals) } := by
  obtain ⟨-, ok⟩ := require_bind_eq_ok.mp ok
  obtain ⟨-, -, ok⟩ := bind_eq_ok.mp ok
  obtain ⟨-, -, ok⟩ := bind_eq_ok.mp ok
  exact (Except.ok.inj ok).symm

theorem superCreateLine_ok {orderId : ℕ} {vals : LineVals}
    (ok : superCreateLine base env orderId vals db = .ok after) :
    after = { db with lines := db.lines.insert (newLine base orderId vals) } := by
  obtain ⟨-, -, ok⟩ := bind_eq_ok.mp ok
  obtain ⟨-, -, ok⟩ := bind_eq_ok.mp ok
  exact (Except.ok.inj ok).symm

theorem superDeleteLines_ok (ok : superDeleteLines base env ids db = .ok after) :
    after = { db with lines := db.lines.erase ids } := by
  obtain ⟨-, ok⟩ := require_bind_eq_ok.mp ok
  obtain ⟨-, -, ok⟩ := bind_eq_ok.mp ok
  exact (Except.ok.inj ok).symm

theorem superWriteFields_ok {vals : SaleOrderVals}
    (ok : superWriteFields base env ids vals db = .ok after) :
    after = { db with orders := db.orders.modify ids (·.assign vals) } := by
  obtain ⟨-, ok⟩ := require_bind_eq_ok.mp ok
  obtain ⟨-, -, ok⟩ := bind_eq_ok.mp ok
  exact (Except.ok.inj ok).symm

theorem superWriteNegotiations_ok_iff {vals : NegotiationVals} :
    superWriteNegotiations base env ids vals db = .ok after ↔
      (∀ id ∈ ids, (db.negotiations.row id).isSome = true) ∧
        base.check env (.writeNegotiations ids vals) db = .ok () ∧
        checkRequestedDiscount vals.requestedDiscount = .ok () ∧
        after = { db with negotiations := db.negotiations.modify ids (·.assign vals) } := by
  unfold superWriteNegotiations
  rw [require_bind_eq_ok]
  refine and_congr_right fun _ => ⟨fun ok => ?_, ?_⟩
  · obtain ⟨⟨⟩, allowed, ok⟩ := bind_eq_ok.mp ok
    obtain ⟨⟨⟩, checked, ok⟩ := bind_eq_ok.mp ok
    exact ⟨allowed, checked, (Except.ok.inj ok).symm⟩
  · rintro ⟨allowed, checked, rfl⟩
    rw [allowed, checked]
    rfl

/-- In a superuser environment the governance fields of an order are written. -/
theorem settle_superWriteFields {orderId : ℕ} {state : AddonApprovalState} {locked : Bool}
    (su : env.su = true) :
    settle db (superWriteFields base env [orderId] (governanceVals state locked) db) =
      { db with
        orders := db.orders.modify [orderId] (·.assign (governanceVals state locked)) } := by
  have passed : base.check env (.writeOrders [orderId] (governanceVals state locked)) db =
      .ok () := by
    unfold BaseOdoo.check
    rw [su, base.refuses_governance]
    rfl
  unfold superWriteFields require
  rw [passed]
  split
  · rfl
  · next absent =>
      have row : db.orders.row orderId = none := by
        rw [List.forall_mem_singleton] at absent
        exact Option.not_isSome_iff_eq_none.mp absent
      rw [Table.modify_of_none row]
      rfl

end Odoo

end DealFlow.Addon
