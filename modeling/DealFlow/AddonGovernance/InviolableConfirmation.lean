import DealFlow.AddonGovernance.Gates
import DealFlow.AddonGovernance.OrderMoves

/-!
# The inviolable confirmation

`confirm_order` states that an order that needs an approval is confirmed with that approval or with
a token only.  The service's own guard says so; the sales adapter, to which the service turns where
it can, asks for the lock but not for the state.  So an order that waits for its approval, has been
unlocked and has discounts a rep may give is confirmed (`confirmOrder_ok_iff`), and nothing else
slips through, along any run of the addon (`inviolableConfirmation_run_iff`).

Only an unlock and a write of lock or state can take the lock off such an order: without them every
confirmation of a run is held (`confirmationHeld_while_locked`).
-/

namespace DealFlow.Addon

open Lib

/-! ## What is held back -/

/-- The order is locked, or in a state that needs an approval. -/
def SaleOrder.held (order : SaleOrder) : Bool :=
  order.dealflowLocked || awaitsApproval order.dealflowApprovalState

section Confirmation

variable (base : BaseOdoo)

/-- A confirmation of a held order that is not approved, with no token that verifies for it. -/
structure Unauthorized (db : Db) (signing : Signing) (orderId : ℤ) (approvalToken : Option String)
    (order : SaleOrder) : Prop where
  found : db.browse orderId = some order
  held : order.held = true
  notApproved : order.dealflowApprovalState ≠ .approved
  unverified : verifyApprovalToken signing approvalToken orderId ≠ .ok true

/-- A confirmation raises where it is unauthorized, and the order stays in its state. -/
def ConfirmationHeld (db : Db) (op : AddonOp) : Prop :=
  ∀ signing salesAdapter orderId approvalToken order,
    op.call = .confirmOrder signing salesAdapter orderId approvalToken →
      Unauthorized db signing orderId approvalToken order →
        (∃ e, confirmOrder base signing (op.service salesAdapter) orderId approvalToken db =
          .error e) ∧
        ((addonStep base op db).browse orderId).map (·.state) = some order.state

/-- What the adapter does not ask for: an order without its lock that waits for its approval, with
discounts a rep may give, is confirmed without a token. -/
structure SlipsThrough (db : Db) (env : Env) (salesAdapter : Bool) (orderId : ℤ)
    (approvalToken : Option String) (order : SaleOrder) : Prop where
  adapter : salesAdapter = true
  noToken : givenToken approvalToken = none
  unlocked : order.dealflowLocked = false
  waits : order.dealflowApprovalState ≠ .rejected
  discounts : WithinRepDiscount db orderId.toNat
  internal : env.user.isPortal = false
  quotation : order.state = .draft ∨ order.state = .sent
  allowed : base.check env (.confirmOrder orderId.toNat) db = .ok ()

variable {base} {db after : Db} {env : Env} {signing : Signing} {orderId : ℤ}
  {approvalToken : Option String} {order : SaleOrder}

/-- A token that is given and does not verify. -/
theorem Unauthorized.given (u : Unauthorized db signing orderId approvalToken order)
    {token : String} (given : givenToken approvalToken = some token) :
    verifyApprovalToken signing (some token) orderId ≠ .ok true := by
  rw [← (Option.filter_eq_some_iff.mp given).1]
  exact u.unverified

/-- The service's own guard. -/
theorem directConfirmOrder_unauthorized {service : OdooIntegrationService}
    (u : Unauthorized db signing orderId approvalToken order) :
    directConfirmOrder base signing service orderId approvalToken db ≠ .ok after := by
  intro ok
  unfold directConfirmOrder findOrderDirectly at ok
  rw [u.found] at ok
  obtain ⟨found, same, ok⟩ := bind_eq_ok.mp ok
  cases same
  obtain ⟨tokenValid, checked, ok⟩ := bind_eq_ok.mp ok
  obtain ⟨-, ok⟩ := require_bind_eq_ok.mp ok
  obtain ⟨locked, ok⟩ := require_bind_eq_ok.mp ok
  obtain ⟨waits, -⟩ := require_bind_eq_ok.mp ok
  have invalid : tokenValid = false := by
    unfold tokenValidity at checked
    cases token : givenToken approvalToken with
    | none =>
        rw [token] at checked
        exact (Except.ok.inj checked).symm
    | some text =>
        rw [token] at checked
        refine Bool.eq_false_iff.mpr fun valid => u.given token ?_
        exact valid ▸ mapError_eq_ok.mp checked
  rw [invalid] at locked waits
  rcases Bool.or_eq_true_iff.mp u.held with isLocked | isWaiting
  · exact nomatch locked isLocked
  · exact nomatch waits isWaiting

theorem superConfirm_one_ok {orderId : ℕ} (row : db.orders.row orderId = some order) :
    (∃ after, superConfirm base env [orderId] db = .ok after) ↔
      base.check env (.confirmOrder orderId) db = .ok () := by
  have present : (db.orders.row orderId).isSome = true := by
    rw [row]
    rfl
  unfold superConfirm
  rw [List.foldlM_cons]
  constructor
  · rintro ⟨after, ok⟩
    obtain ⟨confirmed, ok, -⟩ := bind_eq_ok.mp ok
    obtain ⟨-, ok⟩ := require_bind_eq_ok.mp ok
    obtain ⟨⟨⟩, allowed, -⟩ := bind_eq_ok.mp ok
    exact allowed
  · intro allowed
    exact ⟨_, bind_eq_ok.mpr ⟨_, require_bind_eq_ok.mpr
      ⟨present, bind_eq_ok.mpr ⟨(), allowed, rfl⟩⟩, rfl⟩⟩

/-- What the adapter confirms without authority slips through. -/
theorem adapterConfirmOrder_slips (u : Unauthorized db signing orderId approvalToken order)
    (ok : adapterConfirmOrder base signing env orderId approvalToken db = .ok after) :
    SlipsThrough base db env true orderId approvalToken order := by
  obtain ⟨-, row⟩ := browse_eq_some_iff.mp u.found
  unfold adapterConfirmOrder findOrder at ok
  rw [u.found] at ok
  obtain ⟨-, ok⟩ := require_bind_eq_ok.mp ok
  obtain ⟨internal, ok⟩ := require_bind_eq_ok.mp ok
  obtain ⟨quotation, ok⟩ := require_bind_eq_ok.mp ok
  cases given : givenToken approvalToken with
  | some token =>
      rw [given] at ok
      obtain ⟨verified, returned, ok⟩ := bind_eq_ok.mp ok
      have accepted := (require_bind_eq_ok.mp ok).1
      exact absurd (accepted ▸ mapError_eq_ok.mp returned) (u.given given)
  | none =>
      rw [given] at ok
      obtain ⟨⟨⟩, gate, ok⟩ := bind_eq_ok.mp ok
      obtain ⟨notRejected, rest⟩ := require_bind_eq_ok.mp gate
      have notLocked := (require_bind_eq_ok.mp rest).1
      have unlocked : order.dealflowLocked = false :=
        Bool.eq_false_iff.mpr fun locked => notLocked ⟨locked, u.notApproved⟩
      have confirmed := actionDealflowConfirm_ok (mapError_eq_ok.mp ok)
      exact
        { adapter := rfl
          noToken := given
          unlocked := unlocked
          waits := notRejected
          discounts := (adapterGate_ok_iff unlocked u.notApproved notRejected).mp gate
          internal := internal
          quotation := quotation
          allowed := (superConfirm_one_ok row).mp ⟨after, confirmed⟩ }

/-- What slips through is confirmed. -/
theorem SlipsThrough.confirmed {salesAdapter : Bool}
    (slips : SlipsThrough base db env salesAdapter orderId approvalToken order)
    (u : Unauthorized db signing orderId approvalToken order) :
    ∃ after, adapterConfirmOrder base signing env orderId approvalToken db = .ok after := by
  obtain ⟨positive, row⟩ := browse_eq_some_iff.mp u.found
  obtain ⟨after, confirmed⟩ := (superConfirm_one_ok row).mpr slips.allowed
  have gate : adapterGate db orderId.toNat order = .ok () :=
    (adapterGate_ok_iff slips.unlocked u.notApproved slips.waits).mpr slips.discounts
  have own : confirmGate db orderId.toNat = .ok () :=
    (confirmGate_ok_iff row slips.unlocked u.notApproved slips.waits).mpr slips.discounts
  have action : actionDealflowConfirm base env [orderId.toNat] db = .ok after := by
    refine require_bind_eq_ok.mpr ⟨slips.internal, ?_⟩
    split
    · exact confirmed
    · exact bind_eq_ok.mpr ⟨(), bind_eq_ok.mpr ⟨(), own, rfl⟩, confirmed⟩
  refine ⟨after, ?_⟩
  unfold adapterConfirmOrder findOrder
  rw [u.found, slips.noToken]
  exact require_bind_eq_ok.mpr ⟨positive, require_bind_eq_ok.mpr ⟨slips.internal,
    require_bind_eq_ok.mpr ⟨slips.quotation, bind_eq_ok.mpr ⟨(), gate, mapError_eq_ok.mpr action⟩⟩⟩⟩

/-- An unauthorized confirmation comes to its end exactly where it slips through. -/
theorem confirmOrder_ok_iff {salesAdapter : Bool}
    (u : Unauthorized db signing orderId approvalToken order) :
    (∃ after, confirmOrder base signing { env, salesAdapter } orderId approvalToken db =
        .ok after) ↔
      SlipsThrough base db env salesAdapter orderId approvalToken order := by
  unfold confirmOrder
  cases salesAdapter with
  | false =>
      exact iff_of_false (fun ⟨_, ok⟩ => directConfirmOrder_unauthorized u ok)
        fun slips => nomatch slips.adapter
  | true => exact ⟨fun ⟨_, ok⟩ => adapterConfirmOrder_slips u ok, fun slips => slips.confirmed u⟩

theorem confirmationHeld_iff {op : AddonOp} :
    ConfirmationHeld base db op ↔
      ∀ signing salesAdapter orderId approvalToken order,
        op.call = .confirmOrder signing salesAdapter orderId approvalToken →
          Unauthorized db signing orderId approvalToken order →
            ¬ SlipsThrough base db op.env salesAdapter orderId approvalToken order := by
  refine forall₅_congr fun signing salesAdapter orderId approvalToken order =>
    forall₂_congr fun call u => ?_
  rw [← confirmOrder_ok_iff u]
  change (∃ e, confirmOrder base signing (op.service salesAdapter) orderId approvalToken db =
    .error e) ∧ _ ↔ ¬ ∃ after, confirmOrder base signing (op.service salesAdapter) orderId
      approvalToken db = .ok after
  unfold addonStep performAddon
  rw [call]
  dsimp only
  cases confirmOrder base signing (op.service salesAdapter) orderId approvalToken db with
  | error e =>
      refine iff_of_true ⟨⟨e, rfl⟩, ?_⟩ nofun
      exact congrArg (Option.map _) u.found
  | ok after => exact iff_of_false (fun ⟨⟨e, eq⟩, _⟩ => nomatch eq) fun none => none ⟨after, rfl⟩

/-- Along a run of the addon every confirmation is held that ought to be, exactly where none finds
an order that slips through. -/
theorem inviolableConfirmation_run_iff (base : BaseOdoo) (ops : List AddonOp) (db : Db) :
    (∀ t ∈ history (addonStep base) ops db, ConfirmationHeld base t.1 t.2) ↔
      ∀ t ∈ history (addonStep base) ops db,
        ∀ signing salesAdapter orderId approvalToken order,
          t.2.call = .confirmOrder signing salesAdapter orderId approvalToken →
            Unauthorized t.1 signing orderId approvalToken order →
              ¬ SlipsThrough base t.1 t.2.env salesAdapter orderId approvalToken order :=
  forall₂_congr fun _ _ => confirmationHeld_iff

/-! ## While the lock follows the state -/

/-- An order that waits for its approval is locked. -/
def SaleOrder.LockedWhileWaiting (order : SaleOrder) : Prop :=
  awaitsApproval order.dealflowApprovalState = true → order.dealflowLocked = true

def WaitingLocked (db : Db) : Prop :=
  ∀ id order, db.orders.row id = some order → order.LockedWhileWaiting

/-- The values that leave a waiting order its lock, and lock an order they let wait. -/
def SaleOrderVals.KeepsLock (vals : SaleOrderVals) : Prop :=
  match vals.dealflowApprovalState with
  | none => vals.dealflowLocked ≠ some false
  | some state => awaitsApproval state = true → vals.dealflowLocked = some true

/-- Neither an unlock nor a write that takes the lock off an order that waits. -/
def AddonCall.KeepsLock : AddonCall → Prop
  | .unlock _ _ => False
  | .writeOrders _ vals => vals.KeepsLock
  | _ => True

theorem SaleOrderVals.KeepsLock.assign {vals : SaleOrderVals} (keeps : vals.KeepsLock)
    {order : SaleOrder} (locked : order.LockedWhileWaiting) :
    (order.assign vals).LockedWhileWaiting := by
  unfold SaleOrderVals.KeepsLock at keeps
  intro waits
  change awaitsApproval (vals.dealflowApprovalState.getD _) = true at waits
  change vals.dealflowLocked.getD order.dealflowLocked = true
  cases state : vals.dealflowApprovalState with
  | none =>
      rw [state] at keeps waits
      cases lock : vals.dealflowLocked with
      | none => exact locked waits
      | some value =>
          cases value with
          | false => exact absurd lock keeps
          | true => rfl
  | some value =>
      rw [state] at keeps waits
      rw [keeps waits]
      rfl

/-- What the other calls write keeps the lock. -/
theorem AddonCall.KeepsLock.writes {call : AddonCall} (keeps : call.KeepsLock)
    {vals : SaleOrderVals} (written : call.Writes vals) : vals.KeepsLock := by
  cases call with
  | createNegotiations valsList => exact written ▸ fun _ => rfl
  | writeNegotiations ids vals => exact written.elim
  | underReview ids => exact written.elim
  | approve ids reviewNote => exact written ▸ nofun
  | reject ids reviewNote => exact written ▸ fun _ => rfl
  | lock ids => exact written ▸ nofun
  | unlock actor ids => exact keeps.elim
  | evaluateGovernance orderId =>
      unfold SaleOrderVals.KeepsLock
      rw [written.1]
      exact written.2
  | writeOrders ids given => exact written ▸ keeps
  | writeLines ids vals => exact written.elim
  | applyApprovedChange orderId changes =>
      obtain ⟨now, rfl⟩ := written
      exact nofun
  | adapterApplyApprovedChange orderId changes =>
      obtain ⟨now, rfl⟩ := written
      exact nofun
  | confirmOrder signing salesAdapter orderId approvalToken => exact written.elim

theorem WaitingLocked.step {op : AddonOp} (locked : WaitingLocked db)
    (keeps : op.call.KeepsLock) : WaitingLocked (addonStep base op db) := by
  unfold addonStep
  cases performed : performAddon base op db with
  | error e => exact locked
  | ok after =>
      refine (performAddon_moves performed).forall (P := SaleOrder.LockedWhileWaiting) ?_ locked
      intro a b step before
      cases step with
      | write allowed => exact (keeps.writes allowed).assign before
      | putBack => exact fun _ => rfl
      | confirm => exact before

theorem WaitingLocked.confirmationHeld (locked : WaitingLocked db) (op : AddonOp) :
    ConfirmationHeld base db op := by
  refine confirmationHeld_iff.mpr fun signing salesAdapter orderId token order _ u slips => ?_
  have row := (browse_eq_some_iff.mp u.found).2
  have waits : awaitsApproval order.dealflowApprovalState = true := by
    have held := u.held
    unfold SaleOrder.held at held
    rwa [slips.unlocked, Bool.false_or] at held
  exact nomatch slips.unlocked.symm.trans (locked _ order row waits)

/-- Along a run without unlocks, whose writes keep the lock, every confirmation is held. -/
theorem confirmationHeld_while_locked (base : BaseOdoo) {db : Db} (locked : WaitingLocked db)
    (ops : List AddonOp) (keep : ∀ op ∈ ops, op.call.KeepsLock) :
    ∀ t ∈ history (addonStep base) ops db, ConfirmationHeld base t.1 t.2 := by
  have kept := (run_guarded WaitingLocked (fun _ op => op.call.KeepsLock) locked
    (fun _ _ keeps locked => locked.step keeps) ops
    (history_allowed (addonStep base) keep db)).1
  exact fun t mem => (kept t mem).confirmationHeld t.2

end Confirmation

/-- A draft order with a service line at five percent. -/
def serviceQuote : Db where
  orders := Table.empty.insert { name := "S00001", partner := { id := 3 } }
  lines := Table.empty.insert
    { orderId := 1, productId := some { id := 2, categName := some "Service" }, priceUnit := 100,
      discount := 5 }
  negotiations := Table.empty

def sampleSigning : Signing where
  currentTime := 0
  secret := "key"
  hmac _ _ := ""
  hexadecimal _ _ := rfl

/-- A negotiation is opened, a manager takes the lock off, and the rep confirms. -/
def unlockedOps : List AddonOp :=
  [{ env := salesRep,
     call := .createNegotiations [{ saleOrderId := some 1, requestedDiscount := some 5 }] },
    { env := { user := Group.dealflowSalesManager.member 5 }, call := .unlock none [1] },
    { env := salesRep, call := .confirmOrder sampleSigning true 1 none }]

theorem inviolableConfirmation_fails :
    ¬ ∀ t ∈ history (addonStep openOdoo) unlockedOps serviceQuote,
      ConfirmationHeld openOdoo t.1 t.2 := by
  intro held
  have last := held _ (List.mem_cons_of_mem _ (List.mem_cons_of_mem _ List.mem_cons_self))
  obtain ⟨⟨e, raised⟩, -⟩ := last sampleSigning true 1 none
    { name := "S00001", partner := { id := 3 }, dealflowApprovalState := .pendingApproval } rfl
    { found := by decide +kernel
      held := rfl
      notApproved := nofun
      unverified := by decide +kernel }
  have confirmed : (confirmOrder openOdoo sampleSigning { env := salesRep } 1 none
      (run (addonStep openOdoo) (unlockedOps.take 2) serviceQuote)).toOption.isSome = true := by
    decide +kernel
  change confirmOrder openOdoo sampleSigning { env := salesRep } 1 none
    (run (addonStep openOdoo) (unlockedOps.take 2) serviceQuote) = .error e at raised
  rw [raised] at confirmed
  cases confirmed

end DealFlow.Addon
