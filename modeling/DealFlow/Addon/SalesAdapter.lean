import DealFlow.Addon.SaleOrderGovernance

/-!
# The sales adapter

The writing methods of `dealflow_odoo/services/sales_adapter.py`.  Of what they return only the
database is kept.
-/

namespace DealFlow.Addon

open Lib

/-- `needle in text`. -/
def occursIn (needle text : String) : Bool :=
  text.toList.tails.any fun rest => needle.toList.isPrefixOf rest

/-- The message of an exception, as it prints. -/
def OdooException.message : OdooException → String
  | .accessError message => message
  | .missingError message => message
  | .userError message => message
  | .validationError message => message
  | .integration e => e.message

/-- The order of a positive id. -/
def Db.browse (db : Db) (orderId : ℤ) : Option SaleOrder :=
  if 0 < orderId then db.orders.row orderId.toNat else none

theorem browse_eq_some_iff {db : Db} {orderId : ℤ} {order : SaleOrder} :
    db.browse orderId = some order ↔
      0 < orderId ∧ db.orders.row orderId.toNat = some order := by
  unfold Db.browse
  split
  · next positive => exact (and_iff_right positive).symm
  · next notPositive => exact iff_of_false nofun fun both => notPositive both.1

section Methods

variable (base : BaseOdoo) (signing : Signing) (env : Env)

def checkOrderId (orderId : ℤ) : Except DealFlowIntegrationError Unit :=
  require (0 < orderId) (validationError
    s!"Invalid order_id '{orderId}'. Must be a positive integer.")

def findOrder (orderId : ℤ) (db : Db) : Except DealFlowIntegrationError SaleOrder :=
  match db.browse orderId with
  | none => .error (notFoundError s!"Sale order with ID {orderId} not found.")
  | some order => .ok order

/-! ## Values -/

/-- An entry of `lines` in the values of an order. -/
structure LineUpdate where
  id : Option ℕ := none
  vals : LineVals := {}
  deriving DecidableEq, Repr

/-- The values of `update_order`: those of the order, and `lines`, which is no field of it. -/
structure OrderUpdate where
  vals : SaleOrderVals := {}
  lines : Option (List LineUpdate) := none
  deriving DecidableEq, Repr

/-- The discount and the quantity among the values of a line. -/
def checkLineValues (vals : LineVals) : Except DealFlowIntegrationError Unit := do
  vals.discount.toList.forM fun d => require (0 ≤ d ∧ d ≤ 100) (validationError
    s!"Discount must be between 0.0% and 100.0%. Received: {floatText d}%.")
  vals.productUomQty.toList.forM fun q => require (0 < q) (validationError
    s!"Quantity must be strictly positive. Received: {floatText q}.")

/-- An exception of a write, as the adapter raises it. -/
def updateFailure : OdooException → DealFlowIntegrationError
  | .integration e => e
  | e => validationError s!"Odoo validation failure during update_order: {e.message}"

/-- `line.write` where the line is on the order. -/
def updateLine (orderId : ℕ) (db : Db) (update : LineUpdate) : Except OdooException Db :=
  match update.id with
  | none => .ok db
  | some lineId =>
      if (db.lines.row lineId).map (·.orderId) = some orderId then
        writeLines base env [lineId] update.vals db
      else .ok db

/-- `clean_values`: what is left of the values without `lines`. -/
def writeOwnValues (orderId : ℕ) (vals : SaleOrderVals) (db : Db) : Except OdooException Db :=
  if vals = {} then .ok db else writeOrders base env [orderId] vals db

/-- The writes of `update_order`: the order's own values, then those of its lines. -/
def writeUpdate (orderId : ℕ) (values : OrderUpdate) (db : Db) : Except OdooException Db := do
  let db ← writeOwnValues base env orderId values.vals db
  (values.lines.getD []).foldlM (updateLine base env orderId) db

/-- `SalesAdapter.update_order`. -/
def adapterUpdateOrder (orderId : ℤ) (values : OrderUpdate) (db : Db) :
    Except DealFlowIntegrationError Db := do
  checkOrderId orderId
  require (values ≠ {}) (validationError "Values must be a non-empty dictionary.")
  (values.lines.getD []).forM fun update => checkLineValues update.vals
  (values.vals.listedCommands.filterMap (·.lineData)).forM checkLineValues
  let order ← findOrder orderId db
  require (order.state ≠ .cancel) (invalidStateError
    s!"Cannot update cancelled sale order {orderId}.")
  (writeUpdate base env orderId.toNat values db).mapError updateFailure

/-! ## Negotiated terms -/

/-- What a customer asks for.  A key of a dictionary of line discounts is `none` where it is not the
text of a number. -/
structure NegotiatedTerms where
  requestedDiscount : Option ℚ := none
  targetLineDiscounts : Option (List (Option ℕ × ℚ)) := none
  lineDiscounts : Option (List (Option ℕ × ℚ)) := none
  requestedTerms : Option String := none
  customerNote : Option String := none
  paymentTermId : Option (Option ℕ) := none
  deriving DecidableEq, Repr

/-- `target_line_discounts or line_discounts`. -/
def NegotiatedTerms.targetDiscounts (terms : NegotiatedTerms) : Option (List (Option ℕ × ℚ)) :=
  (terms.targetLineDiscounts.filter (· ≠ [])).or terms.lineDiscounts

/-- `customer_note or requested_terms`, where that is not empty. -/
def NegotiatedTerms.noteText (terms : NegotiatedTerms) : Option String :=
  (terms.customerNote.filter (· ≠ "")).or (terms.requestedTerms.filter (· ≠ ""))

/-- `line.write` of a discount that is asked for, where the line is on the order. -/
def writeRequestedDiscount (orderId : ℕ) (db : Db) (lineId : ℕ) (discount : ℚ) :
    Except OdooException Db :=
  if (db.lines.row lineId).map (·.orderId) = some orderId then
    writeLines base env [lineId] { discount := some discount } db
  else .ok db

/-- An entry of the dictionary of line discounts. -/
def writeTargetDiscount (orderId : ℕ) (db : Db) (target : Option ℕ × ℚ) :
    Except OdooException Db :=
  match target.1 with
  | none => .ok db
  | some lineId => writeRequestedDiscount base env orderId db lineId target.2

/-- The discounts that are asked for, on single lines or else on all that are priced. -/
def writeRequestedDiscounts (orderId : ℕ) (terms : NegotiatedTerms) (db : Db) :
    Except OdooException Db :=
  match terms.targetDiscounts, terms.requestedDiscount with
  | some targets, _ => targets.foldlM (writeTargetDiscount base env orderId) db
  | none, some discount => (db.pricedLines orderId).foldlM (fun db entry =>
      writeRequestedDiscount base env orderId db entry.1 discount) db
  | none, none => .ok db

/-- The order's note with what the customer wrote below it. -/
def negotiatedNote (note text : String) : String :=
  String.ofList (strip s!"{note}\n[DealFlow Negotiation Request]: {text}".toList)

def negotiatedOrderVals (terms : NegotiatedTerms) (note : String) : SaleOrderVals :=
  { governanceVals .pendingApproval true with
    note := terms.noteText.map (negotiatedNote note)
    paymentTermId := terms.paymentTermId }

/-- The writes of `update_negotiated_terms`: the lines, then the order. -/
def writeNegotiatedTerms (orderId : ℕ) (terms : NegotiatedTerms) (db : Db) :
    Except OdooException Db := do
  let db ← writeRequestedDiscounts base env orderId terms db
  let note := ((db.orders.row orderId).map (·.note)).getD ""
  writeOrders base env [orderId] (negotiatedOrderVals terms note) db

def negotiationFailure : OdooException → DealFlowIntegrationError
  | .integration e => e
  | e => odooExecutionError s!"Failed to update negotiated terms: {e.message}"

/-- `SalesAdapter.update_negotiated_terms`. -/
def adapterUpdateNegotiatedTerms (orderId : ℤ) (terms : NegotiatedTerms) (db : Db) :
    Except DealFlowIntegrationError Db := do
  checkOrderId orderId
  terms.requestedDiscount.toList.forM fun d => require (0 ≤ d ∧ d ≤ 100) (validationError
    s!"Requested discount must be between 0.0% and 100.0%. Received: {floatText d}%.")
  (terms.targetDiscounts.getD []).forM fun entry => require (0 ≤ entry.2 ∧ entry.2 ≤ 100)
    (validationError
      s!"Target line discount must be between 0.0% and 100.0%. Received: {floatText entry.2}%.")
  let order ← findOrder orderId db
  require (order.state = .draft ∨ order.state = .sent) (invalidStateError
    (s!"Cannot negotiate order {orderId} in state '{order.state.value}'. " ++
      "Only draft/sent orders are negotiable."))
  (writeNegotiatedTerms base env orderId.toNat terms db).mapError negotiationFailure

/-! ## Approved changes -/

/-- The discounts of the changes that the adapter looks at. -/
def ApprovedChanges.adapterDiscounts (changes : ApprovedChanges) : List ℚ :=
  changes.discount.toList ++ (changes.targetLineDiscounts.getD []).map (·.2) ++
    (changes.lineDiscounts.getD []).map (·.2) ++ (changes.lines.getD []).filterMap (·.discount)

/-- An exception of the order's method, as the adapter raises it. -/
def applyFailure : OdooException → DealFlowIntegrationError
  | .integration e => e
  | e => odooExecutionError s!"Failed to apply approved changes: {e.message}"

/-- `SalesAdapter.apply_approved_change`. -/
def adapterApplyApprovedChange (orderId : ℤ) (changes : ApprovedChanges) (db : Db) :
    Except DealFlowIntegrationError Db := do
  checkOrderId orderId
  require (changes ≠ {}) (validationError "Changes must be a non-empty dictionary.")
  changes.adapterDiscounts.forM fun d => require (0 ≤ d ∧ d ≤ 100) (validationError
    s!"Approved discount must be between 0.0% and 100.0%. Received: {floatText d}%.")
  require (env.user.isPortal = false) (authorizationError
    "Privilege Escalation Blocked: Portal users cannot apply approved changes.")
  require (env.user.isSalesRep = false ∨ env.user.isFinanceOrAdmin = true ∨
      ∀ d ∈ changes.adapterDiscounts, d ≤ defaultFinanceDiscountThreshold) (authorizationError
    "Privilege Escalation Blocked: Sales Rep cannot approve discounts exceeding 20.0%.")
  let order ← findOrder orderId db
  require (order.state = .draft ∨ order.state = .sent) (invalidStateError
    s!"Cannot apply approved changes to order in state '{order.state.value}'.")
  (actionDealflowApplyApprovedChange base env orderId.toNat changes db).mapError applyFailure

/-! ## Confirmation -/

/-- `category_breaches`: the category, the discount and the ceiling of each line above it. -/
def adapterBreaches (lines : List (ℕ × SaleOrderLine)) : List (String × ℚ × ℚ) :=
  lines.filterMap fun entry =>
    if entry.2.ceiling < entry.2.discount then
      some (entry.2.categoryName, entry.2.discount, entry.2.ceiling)
    else none

def breachDescription : List (String × ℚ × ℚ) → String
  | [] => ""
  | (category, discount, ceiling) :: _ =>
      s!" (Category breach: {category} {floatText discount}% > {floatText ceiling}%)"

/-- `order.name or order_id`. -/
def SaleOrder.label (order : SaleOrder) (orderId : ℕ) : String :=
  if order.name ≠ "" then order.name else toString orderId

/-- What the adapter checks without a token: the rejection, the lock, then the discounts. -/
def adapterGate (db : Db) (orderId : ℕ) (order : SaleOrder) :
    Except DealFlowIntegrationError Unit := do
  let blended := db.blendedDiscount orderId
  let breaches := adapterBreaches (db.pricedLines orderId)
  require (order.dealflowApprovalState ≠ .rejected) (authorizationError
    (s!"Order {order.label orderId} has been formally rejected by DealFlow governance " ++
      "and cannot be confirmed."))
  require (¬ (order.dealflowLocked = true ∧ order.dealflowApprovalState ≠ .approved))
    (authorizationError s!"Order {order.label orderId} is locked pending DealFlow approval.")
  require (¬ ((exceedsThreshold blended (db.pricedLines orderId) = true ∨ breaches ≠ []) ∧
      order.dealflowApprovalState ≠ .approved)) (authorizationError
    (s!"Order {order.label orderId} blended discount ({floatText blended}%) exceeds " ++
      s!"policy ceiling (10.0%){breachDescription breaches} without DealFlow approval."))

/-- An exception of the confirmation, as the adapter raises it. -/
def confirmFailure : OdooException → DealFlowIntegrationError
  | .integration e => e
  | e =>
      if occursIn "DealFlow approval" e.message || occursIn "locked" e.message.toLower then
        authorizationError e.message
      else invalidStateError s!"Odoo confirmation error: {e.message}"

/-- `if approval_token`: neither `None` nor the empty string. -/
def givenToken (approvalToken : Option String) : Option String :=
  approvalToken.filter (· ≠ "")

/-- `SalesAdapter.confirm_order`, with `bypass_check` at its default. -/
def adapterConfirmOrder (orderId : ℤ) (approvalToken : Option String) (db : Db) :
    Except DealFlowIntegrationError Db := do
  checkOrderId orderId
  require (env.user.isPortal = false) (authorizationError
    "Privilege Escalation Blocked: Portal users cannot confirm sales orders directly.")
  let order ← findOrder orderId db
  require (order.state = .draft ∨ order.state = .sent) (invalidStateError
    s!"Sale order {orderId} is in state '{order.state.value}', cannot be confirmed.")
  match givenToken approvalToken with
  | some token => do
      let verified ← (verifyApprovalToken signing (some token) orderId).mapError fun e =>
        odooExecutionError s!"Failed to confirm order {orderId}: {e.message}"
      require (verified = true) (authorizationError
        ("Cryptographic verification failed: Invalid, expired, or forged approval token " ++
          s!"for order {orderId}."))
      (actionDealflowConfirm base env.withBypassCheck [orderId.toNat] db).mapError confirmFailure
  | none => do
      adapterGate db orderId.toNat order
      (actionDealflowConfirm base env [orderId.toNat] db).mapError confirmFailure

/-! ## Unlocking and evaluating -/

/-- Whom the adapter lets unlock.  It asks whether there is an actor, not whether it counts as
true. -/
def Actor.mayUnlockByAdapter : Actor → Bool
  | .empty => false
  | actor => actor.mayUnlock

/-- `SalesAdapter.unlock_order`.  What the message prints of the actor is left out. -/
def adapterUnlockOrder (orderId : ℤ) (actor : Option Actor) (db : Db) :
    Except OdooException Db := do
  (checkOrderId orderId).mapError .integration
  let _ ← (findOrder orderId db).mapError .integration
  let target := actor.getD (.user env.user)
  require (target.mayUnlockByAdapter = true) (.integration (authorizationError
    "Actor is not authorized to unlock DealFlow orders. Manager or Finance role required."))
  actionDealflowUnlock base env (some target) [orderId.toNat] db

/-- `SalesAdapter.evaluate_deal_governance`. -/
def adapterEvaluateDealGovernance (orderId : ℤ) (db : Db) :
    Except OdooException (EvaluationReport × Db) := do
  (checkOrderId orderId).mapError .integration
  let _ ← (findOrder orderId db).mapError .integration
  actionDealflowEvaluateGovernance base env orderId.toNat db

end Methods

end DealFlow.Addon
