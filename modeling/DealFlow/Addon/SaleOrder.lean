import DealFlow.Addon.Orm

/-!
# The addon's order and its lines

`write` of `dealflow_odoo/models/sale_order_line.py`, and `write` and the lock of
`dealflow_odoo/models/sale_order.py`.  What they post to the chatter is left out.
-/

namespace DealFlow.Addon

open Lib

section Write

variable (base : BaseOdoo) (env : Env)

/-- `order.with_context(dealflow_skip_reapproval=True).write` of the state that asks for a new
approval: with that context and neither an approval nor lines in the values, Odoo's own write. -/
def requireReapproval (db : Db) (orderId : ℕ) : Except OdooException Db :=
  superWriteFields base env.withSkipReapproval [orderId]
    (governanceVals .reapprovalRequired true) db

/-- A discount outside its bounds. -/
def checkDiscountBounds (discount : Option ℚ) : Except OdooException Unit :=
  match discount with
  | none => .ok ()
  | some discount =>
      require (0 ≤ discount ∧ discount ≤ 100) (.validationError
        s!"Discount must be between 0.0% and 100.0%. Received: {floatText discount}%.")

/-- A quantity that is not positive, on lines that have one. -/
def checkLineQuantity (quantity : Option ℚ) (lines : List (Option SaleOrderLine)) :
    Except OdooException Unit :=
  match quantity with
  | none => .ok ()
  | some quantity =>
      require (0 < quantity ∨ ∀ line ∈ lines, (line.map (·.displayType)).getD false = true)
        (.validationError
          s!"Order line quantity must be strictly positive. Received: {floatText quantity}.")

/-- The values change a line whose order is approved: the discount to another than the approved one,
or else the price or the quantity. -/
def LineVals.reapproves (vals : LineVals) (line : SaleOrderLine) : Bool :=
  vals.discount.any (· ≠ line.dealflowApprovedDiscount) ||
    vals.priceUnit.isSome || vals.productUomQty.isSome

/-- `orders_to_reapprove`: an order for each of the lines that calls for it. -/
def lineOrdersToReapprove (ids : List ℕ) (vals : LineVals) (db : Db) : List ℕ :=
  ids.filterMap fun id => do
    let line ← db.lines.row id
    let order ← db.orders.row line.orderId
    if order.dealflowApprovalState = .approved && vals.reapproves line then some line.orderId
    else none

/-- `SaleOrderLine.write`. -/
def writeLines (ids : List ℕ) (vals : LineVals) (db : Db) : Except OdooException Db := do
  checkDiscountBounds vals.discount
  checkLineQuantity vals.productUomQty (ids.map db.lines.row)
  if env.skipReapproval then superWriteLines base env ids vals db
  else
    let written ← superWriteLines base env ids vals db
    (lineOrdersToReapprove ids vals db).foldlM (requireReapproval base env) written

end Write

/-! ## The order -/

section Methods

variable (base : BaseOdoo) (env : Env)

/-! ### Writing -/

/-- The commands of a one-to-many field on several orders: lines are created on each of them and
linked to the last, and what a command takes away is deleted. -/
def applyCommand (ids : List ℕ) (db : Db) : Command → Except OdooException Db
  | .create vals => ids.foldlM (fun db id => superCreateLine base env id vals db) db
  | .update id vals => writeLines base env [id] vals db
  | .delete id => superDeleteLines base env [id] db
  | .unlink id => superDeleteLines base env [id] db
  | .link id =>
      match ids.getLast? with
      | none => .ok db
      | some last =>
          if (db.lines.row id).map (·.orderId) = some last then .ok db
          else writeLines base env [id] { orderId := some last } db
  | .clear _ =>
      superDeleteLines base env
        ((db.lines.entries.filter fun entry => entry.2.orderId ∈ ids).map (·.1)) db
  | .set kept => do
      let db ← superDeleteLines base env
        ((db.lines.entries.filter fun entry =>
          entry.2.orderId ∈ ids ∧ entry.1 ∉ kept).map (·.1)) db
      match ids.getLast? with
      | none => .ok db
      | some last => writeLines base env kept { orderId := some last } db

def SaleOrderVals.commands (vals : SaleOrderVals) : List Command :=
  (vals.orderLine.map (·.commands)).getD []

/-- The commands that `write` looks into: those of a list. -/
def SaleOrderVals.listedCommands (vals : SaleOrderVals) : List Command :=
  (vals.orderLine.map fun value => if value.isList then value.commands else []).getD []

/-- `super().write` of `sale.order`: the order's own fields first, then the commands. -/
def superWriteOrders (ids : List ℕ) (vals : SaleOrderVals) (db : Db) : Except OdooException Db := do
  let written ← superWriteFields base env ids vals db
  vals.commands.foldlM (applyCommand base env ids) written

/-- The values a command carries. -/
def Command.lineData : Command → Option LineVals
  | .create vals => some vals
  | .update _ vals => some vals
  | _ => none

def checkCommandBounds (command : Command) : Except OdooException Unit :=
  match command.lineData with
  | none => .ok ()
  | some lineData => do
      checkDiscountBounds lineData.discount
      match lineData.productUomQty with
      | none => .ok ()
      | some quantity =>
          require (0 < quantity) (.validationError
            s!"Quantity must be strictly positive. Received: {floatText quantity}.")

/-- Who may write the state `approved`: no portal user, and a sales rep only up to the threshold. -/
def checkApprover (ids : List ℕ) (vals : SaleOrderVals) (db : Db) : Except OdooException Unit :=
  if vals.dealflowApprovalState = some .approved then do
    require (env.user.isPortal = false) (.accessError
      "Privilege Escalation Blocked: Portal users cannot update order approval state.")
    if env.user.isSalesRep && !env.user.isFinanceOrAdmin then
      require (∀ id ∈ ids, db.blendedDiscount id ≤ defaultFinanceDiscountThreshold) (.accessError
        ("Privilege Escalation Blocked: Sales Rep cannot approve order exceeding " ++
          "20.0% discount (Finance approval required)."))
    else .ok ()
  else .ok ()

/-- `terms_fields` are among the keys. -/
def SaleOrderVals.termsModified (vals : SaleOrderVals) : Bool :=
  vals.paymentTermId.isSome || vals.note.isSome || vals.termsType.isSome ||
    vals.validityDate.isSome || vals.pricelistId.isSome

/-- The commands that count as a change of the lines. -/
def Command.modifiesLines : Command → Bool
  | .delete _ => true
  | .unlink _ => true
  | .clear short => !short
  | .create vals =>
      vals.discount.isSome || vals.priceUnit.isSome || vals.productUomQty.isSome
  | .update _ vals =>
      vals.discount.isSome || vals.priceUnit.isSome || vals.productUomQty.isSome
  | .link _ => false
  | .set _ => false

/-- `orders_to_reapprove` of an order's write. -/
def ordersToReapprove (ids : List ℕ) (vals : SaleOrderVals) (db : Db) : List ℕ :=
  if vals.termsModified || vals.listedCommands.any (·.modifiesLines) then
    ids.filter fun id => db.approvalState id = some .approved
  else []

/-- `SaleOrder.write`. -/
def writeOrders (ids : List ℕ) (vals : SaleOrderVals) (db : Db) : Except OdooException Db := do
  vals.listedCommands.forM checkCommandBounds
  checkApprover env ids vals db
  if env.skipReapproval then superWriteOrders base env ids vals db
  else
    let written ← superWriteOrders base env ids vals db
    (ordersToReapprove ids vals db).foldlM (requireReapproval base env) written

/-- Whom the guard lets write the state `approved`. -/
def MayApprove (user : User) (ids : List ℕ) (db : Db) : Prop :=
  user.isPortal = false ∧
    (user.isSalesRep = true → user.isFinanceOrAdmin = false →
      ∀ id ∈ ids, db.blendedDiscount id ≤ defaultFinanceDiscountThreshold)

instance (user : User) (ids : List ℕ) (db : Db) : Decidable (MayApprove user ids db) :=
  inferInstanceAs (Decidable (_ ∧ _))

section Lemmas

variable {base env} {ids : List ℕ} {vals : SaleOrderVals} {db : Db}

theorem checkApprover_ok_iff {u : Unit} :
    checkApprover env ids vals db = .ok u ↔
      (vals.dealflowApprovalState = some .approved → MayApprove env.user ids db) := by
  unfold checkApprover
  split
  · next approves =>
      rw [require_bind_eq_ok, forall_prop_of_true approves]
      refine and_congr_right fun _ => ?_
      cases rep : env.user.isSalesRep
      · exact iff_of_true rfl nofun
      · cases finance : env.user.isFinanceOrAdmin
        · exact require_eq_ok.trans ⟨fun below _ _ => below, fun below => below rfl rfl⟩
        · exact iff_of_true rfl fun _ => nofun
  · next other => exact iff_of_true rfl fun approves => absurd approves other

/-- A write of fields that changes no terms is the guard and Odoo's own write. -/
theorem writeOrders_fields (noLines : vals.orderLine = none)
    (noTerms : vals.termsModified = false) :
    writeOrders base env ids vals db =
      (checkApprover env ids vals db >>= fun _ => superWriteFields base env ids vals db) := by
  have noCommands : vals.commands = [] := by
    unfold SaleOrderVals.commands
    rw [noLines]
    rfl
  have noListed : vals.listedCommands = [] := by
    unfold SaleOrderVals.listedCommands
    rw [noLines]
    rfl
  have fields : superWriteOrders base env ids vals db = superWriteFields base env ids vals db := by
    unfold superWriteOrders
    rw [noCommands]
    exact bind_pure (superWriteFields base env ids vals db)
  have none : ordersToReapprove ids vals db = [] := by
    unfold ordersToReapprove
    rw [noTerms, noListed]
    rfl
  unfold writeOrders
  rw [noListed, none, fields]
  change (checkApprover env ids vals db >>= fun _ => _) = _
  refine congrArg _ (funext fun _ => ?_)
  split
  · rfl
  · exact bind_pure (superWriteFields base env ids vals db)

/-- Where it does not approve either, it is Odoo's own. -/
theorem writeOrders_plain (noLines : vals.orderLine = none)
    (noApproval : vals.dealflowApprovalState ≠ some .approved)
    (noTerms : vals.termsModified = false) :
    writeOrders base env ids vals db = superWriteFields base env ids vals db := by
  rw [writeOrders_fields noLines noTerms,
    checkApprover_ok_iff (u := ()) |>.mpr fun approves => absurd approves noApproval]
  rfl

end Lemmas

/-! ### The lock -/

def actionDealflowLock (ids : List ℕ) (db : Db) : Except OdooException Db :=
  ids.foldlM (fun db id => writeOrders base env [id] { dealflowLocked := some true } db) db

/-- Who asks for an unlock: a user, a dictionary with a role, or the name of one. -/
inductive Actor
  | user (user : User)
  | dict (role : String)
  | name (role : String)
  /-- An empty dictionary or name, which counts as false. -/
  | empty
  | other
  deriving DecidableEq

def managerRoles : List String := ["manager", "sales_manager", "finance", "admin"]

def Actor.mayUnlock : Actor → Bool
  | .user u => u.isManager
  | .dict role => role ∈ managerRoles
  | .name role => role.toLower ∈ managerRoles
  | .empty => true
  | .other => false

def actionDealflowUnlock (actor : Option Actor) (ids : List ℕ) (db : Db) :
    Except OdooException Db := do
  require ((actor.getD (.user env.user)).mayUnlock = true) (.integration (authorizationError
    ("Permission denied: Actor is not authorized to unlock DealFlow orders. " ++
      "Manager or Finance role required.")))
  ids.foldlM (fun db id => writeOrders base env [id] { dealflowLocked := some false } db) db

end Methods

end DealFlow.Addon
