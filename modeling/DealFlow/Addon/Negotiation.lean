import DealFlow.Addon.SaleOrder

/-!
# The addon's negotiations

`create`, `write` and the workflow actions of `dealflow_odoo/models/dealflow_negotiation.py`.  The
reference, the texts of the customer and the chatter are left out.

Each of them writes the lock and the approval state of the order in a superuser environment, and
goes on where that write raises.
-/

namespace DealFlow.Addon

open Lib

section Methods

variable (base : BaseOdoo) (env : Env)

/-- `order.sudo().write` of the approval state and the lock, in a `try` that catches everything. -/
def governOrder (orderId : ℕ) (state : AddonApprovalState) (locked : Bool) (db : Db) : Db :=
  settle db (writeOrders base env.sudo [orderId] (governanceVals state locked) db)

/-! ## Creating -/

/-- The customer of a portal user is the one of the order, or related to it. -/
def mayNegotiate (user : User) (order : SaleOrder) : Bool :=
  let own := user.partner
  let other := order.partner
  own.id = other.id ||
    (own.commercialPartnerId.isSome && own.commercialPartnerId = other.commercialPartnerId) ||
    own.id ∈ other.childIds || other.id ∈ own.childIds

/-- An amount that is given and not zero. -/
def givenAmount (amount : Option ℚ) : Option ℚ :=
  amount.filter (· ≠ 0)

/-- The values of a new negotiation with the amounts filled in. -/
def populateAmounts (amountTotal : ℚ) (vals : NegotiationVals) : NegotiationVals :=
  let original := (givenAmount vals.originalAmount).getD amountTotal
  let proposed :=
    match givenAmount vals.proposedAmount, vals.requestedDiscount with
    | some amount, _ => some amount
    | none, some requested => some (original * max 0 (1 - requested / 100))
    | none, none => vals.proposedAmount
  { vals with originalAmount := some original, proposedAmount := proposed }

/-- The checks of one dictionary of values, and the values it is created with. -/
def checkedNegotiationVals (db : Db) (vals : NegotiationVals) :
    Except OdooException (ℕ × NegotiationVals) :=
  match vals.saleOrderId.filter (· ≠ 0) with
  | none => .error (.validationError
      "A valid sale_order_id is required to create a negotiation request.")
  | some orderId =>
      match db.orders.row orderId with
      | none => .error (.validationError s!"Target quotation (ID: {orderId}) does not exist.")
      | some order => do
          base.check env (.readOrder orderId) db
          require (¬ ((env.user.hasGroup .portal = true ∨
              env.user.hasGroup .dealflowPortal = true) ∧
              mayNegotiate env.user order = false)) (.accessError
            ("Authorization Violation: You are not authorized to negotiate on quotation " ++
              s!"{order.name}."))
          .ok (orderId, populateAmounts (base.amountTotal ((db.orderLine orderId).map (·.2))) vals)

/-- `super().create` of one record on an order. -/
def superCreateNegotiation (db : Db) (orderId : ℕ) (vals : NegotiationVals) :
    Except OdooException Db := do
  base.check env (.createNegotiation vals) db
  checkRequestedDiscount (some (vals.requestedDiscount.getD 0))
  let defaults : DealFlowNegotiation := { saleOrderId := orderId, submittedAt := env.now }
  .ok { db with
    negotiations := db.negotiations.insert
      (defaults.assign { vals with saleOrderId := some orderId }) }

/-- `DealFlowNegotiation.create`. -/
def createNegotiations (valsList : List NegotiationVals) (db : Db) : Except OdooException Db := do
  let checked ← valsList.mapM (checkedNegotiationVals base env db)
  let created ← checked.foldlM (fun db entry =>
    superCreateNegotiation base env db entry.1 entry.2) db
  .ok (checked.foldl (fun db entry =>
    governOrder base env entry.1 .pendingApproval true db) created)

/-! ## Writing -/

/-- Who may write a status, with the records as they are before the write. -/
def checkStatusWriter (status : Option NegotiationStatus) (records : List DealFlowNegotiation) :
    Except OdooException Unit :=
  match status with
  | none => .ok ()
  | some status => do
      require (env.user.isPortal = false) (.accessError
        "Privilege Escalation Blocked: Portal users cannot modify negotiation status.")
      if status = .approved then do
        require (env.user.isManager = true) (.accessError
          "Privilege Escalation Blocked: Sales Reps cannot directly approve negotiations.")
        require (env.user.isFinanceOrAdmin = true ∨
            ∀ rec ∈ records, rec.requestedDiscount ≤ defaultFinanceDiscountThreshold) (.accessError
          ("Privilege Escalation Blocked: Approval for discount exceeding 20.0% requires " ++
            "Finance approval."))
      else .ok ()

/-- `immutable_fields` are among the keys. -/
def NegotiationVals.touchesTerms (vals : NegotiationVals) : Bool :=
  vals.requestedDiscount.isSome || vals.originalAmount.isSome || vals.proposedAmount.isSome ||
    vals.saleOrderId.isSome

/-- `DealFlowNegotiation.write`. -/
def writeNegotiations (ids : List ℕ) (vals : NegotiationVals) (db : Db) :
    Except OdooException Db := do
  let records := ids.filterMap db.negotiations.row
  checkStatusWriter env vals.status records
  require (vals.touchesTerms = true → ∀ rec ∈ records, rec.status.decided = false)
    (.validationError ("Integrity Violation: Cannot modify financial terms of an approved or " ++
      "rejected negotiation."))
  superWriteNegotiations base env ids vals db

/-! ## The workflow -/

/-- `action_under_review`. -/
def actionUnderReview (ids : List ℕ) (db : Db) : Except OdooException Db :=
  ids.foldlM (fun db id =>
    writeNegotiations base env [id]
      { status := some .underReview, reviewedBy := some (some env.user.id) } db) db

/-- The values of a decision; an empty note is not written. -/
def decisionVals (env : Env) (status : NegotiationStatus) (reviewNote : Option String) :
    NegotiationVals :=
  { status := some status
    reviewedBy := some (some env.user.id)
    reviewNote := (reviewNote.filter (· ≠ "")).map some }

/-- `record.sale_order_id` after the decision was written. -/
def governOrderOf (id : ℕ) (state : AddonApprovalState) (locked : Bool) (db : Db) : Db :=
  match db.negotiations.row id with
  | none => db
  | some rec => governOrder base env rec.saleOrderId state locked db

/-- One record of `action_approve`. -/
def approveRecord (reviewNote : Option String) (db : Db) (id : ℕ) : Except OdooException Db := do
  require (env.user.isFinanceOrAdmin = true ∨
      ∀ rec ∈ db.negotiations.row id, rec.requestedDiscount ≤ defaultFinanceDiscountThreshold)
    (.accessError ("Privilege Escalation Blocked: Approval for discount exceeding 20.0% " ++
      "requires DealFlow Finance approval."))
  let db ← writeNegotiations base env [id] (decisionVals env .approved reviewNote) db
  .ok (governOrderOf base env id .approved false db)

/-- `action_approve`. -/
def actionApprove (ids : List ℕ) (reviewNote : Option String) (db : Db) :
    Except OdooException Db := do
  require (env.user.isPortal = false) (.accessError
    "Privilege Escalation Blocked: Portal users cannot approve negotiations.")
  ids.foldlM (approveRecord base env reviewNote) db

/-- One record of `action_reject`. -/
def rejectRecord (reviewNote : Option String) (db : Db) (id : ℕ) : Except OdooException Db := do
  let db ← writeNegotiations base env [id] (decisionVals env .rejected reviewNote) db
  .ok (governOrderOf base env id .rejected true db)

/-- `action_reject`. -/
def actionReject (ids : List ℕ) (reviewNote : Option String) (db : Db) : Except OdooException Db :=
  ids.foldlM (rejectRecord base env reviewNote) db

/-! ## What a call leaves behind -/

variable {base} {env}

theorem writeNegotiations_ok_iff {ids : List ℕ} {vals : NegotiationVals} {db after : Db} :
    writeNegotiations base env ids vals db = .ok after ↔
      checkStatusWriter env vals.status (ids.filterMap db.negotiations.row) = .ok () ∧
        (vals.touchesTerms = true →
          ∀ rec ∈ ids.filterMap db.negotiations.row, rec.status.decided = false) ∧
        superWriteNegotiations base env ids vals db = .ok after := by
  unfold writeNegotiations
  dsimp only
  constructor
  · intro ok
    obtain ⟨⟨⟩, status, ok⟩ := bind_eq_ok.mp ok
    exact ⟨status, require_bind_eq_ok.mp ok⟩
  · rintro ⟨status, terms, ok⟩
    rw [status]
    exact require_bind_eq_ok.mpr ⟨terms, ok⟩

theorem writeNegotiations_ok {ids : List ℕ} {vals : NegotiationVals} {db after : Db}
    (ok : writeNegotiations base env ids vals db = .ok after) :
    after = { db with negotiations := db.negotiations.modify ids (·.assign vals) } := by
  obtain ⟨-, -, written⟩ := writeNegotiations_ok_iff.mp ok
  exact (superWriteNegotiations_ok_iff.mp written).2.2.2

/-- Who may write the status `approved`. -/
theorem checkStatusWriter_approved_iff {records : List DealFlowNegotiation} {u : Unit} :
    checkStatusWriter env (some .approved) records = .ok u ↔
      env.user.isPortal = false ∧ env.user.isManager = true ∧
        (env.user.isFinanceOrAdmin = true ∨
          ∀ rec ∈ records, rec.requestedDiscount ≤ defaultFinanceDiscountThreshold) := by
  unfold checkStatusWriter
  dsimp only
  rw [require_bind_eq_ok, if_pos rfl, require_bind_eq_ok, require_eq_ok]

theorem checkStatusWriter_internal {status : NegotiationStatus} {records : List DealFlowNegotiation}
    {u : Unit} (ok : checkStatusWriter env (some status) records = .ok u) :
    env.user.isPortal = false :=
  (require_bind_eq_ok.mp ok).1

/-- What the actions do to an order: the two fields are written, but for an approval that the
user may not give. -/
theorem governOrder_eq (orderId : ℕ) (state : AddonApprovalState) (locked : Bool) (db : Db) :
    governOrder base env orderId state locked db =
      if state = .approved ∧ ¬ MayApprove env.user [orderId] db then db
      else { db with
        orders := db.orders.modify [orderId] (·.assign (governanceVals state locked)) } := by
  unfold governOrder
  rw [writeOrders_fields rfl rfl]
  by_cases refused : state = .approved ∧ ¬ MayApprove env.user [orderId] db
  · rw [if_pos refused]
    cases checked : checkApprover env.sudo [orderId] (governanceVals state locked) db with
    | error e => rfl
    | ok u =>
        exact absurd (checkApprover_ok_iff.mp checked (congrArg some refused.1)) refused.2
  · have checked : checkApprover env.sudo [orderId] (governanceVals state locked) db = .ok () :=
      checkApprover_ok_iff.mpr fun approves =>
        not_not.mp fun may => refused ⟨Option.some.inj approves, may⟩
    rw [if_neg refused, checked]
    exact settle_superWriteFields rfl

@[simp] theorem governOrder_negotiations (orderId : ℕ) (state : AddonApprovalState) (locked : Bool)
    (db : Db) : (governOrder base env orderId state locked db).negotiations = db.negotiations := by
  rw [governOrder_eq]
  split <;> rfl

@[simp] theorem governOrder_lines (orderId : ℕ) (state : AddonApprovalState) (locked : Bool)
    (db : Db) : (governOrder base env orderId state locked db).lines = db.lines := by
  rw [governOrder_eq]
  split <;> rfl

@[simp] theorem governOrderOf_negotiations (id : ℕ) (state : AddonApprovalState) (locked : Bool)
    (db : Db) : (governOrderOf base env id state locked db).negotiations = db.negotiations := by
  unfold governOrderOf
  split
  · rfl
  · exact governOrder_negotiations ..

end Methods

end DealFlow.Addon
