import DealFlow.AddonGovernance.OrderMoves

/-!
# Who approves an order

An order becomes approved by the approval of a negotiation, by an approved change, through the
sales adapter or on the order, and by a write of the state; no other call may write it
(`OrdersMove.approved`).  All four ask `SaleOrder.write` in the end, which stops portal users, and
sales reps above the threshold of finance.  It looks at the discount before the line commands of
the same write, and at no internal user outside the reps.  Those are the ways round the threshold
(`Escalates`), and without them every approval of a run has its authority (`approvalAuthority_run`).
-/

namespace DealFlow.Addon

open Lib

/-! ## Approvals -/

/-- An order that was not approved is so after the call. -/
def BecomesApproved (db after : Db) (orderId : ℕ) : Prop :=
  db.approvalState orderId ≠ some .approved ∧ after.approvalState orderId = some .approved

/-- The order is there and not approved. -/
def Unapproved (db : Db) (orderId : ℕ) : Prop :=
  ∃ state, db.approvalState orderId = some state ∧ state ≠ .approved

/-- A call that may not write the approval makes no order approved. -/
theorem OrdersMove.approved {writes : SaleOrderVals → Prop} {db after : Db} {orderId : ℕ}
    (moves : OrdersMove writes db after)
    (other : ∀ vals, writes vals → vals.dealflowApprovalState ≠ some .approved)
    (approved : after.approvalState orderId = some .approved) :
    db.approvalState orderId = some .approved := by
  obtain ⟨order', row, state⟩ := Option.map_eq_some_iff.mp approved
  obtain ⟨order, found, chain⟩ := moves orderId order' row
  have before : order.dealflowApprovalState = .approved := by
    clear row
    induction chain with
    | refl => exact state
    | tail _ step ih =>
        refine ih ?_
        cases step with
        | @write vals allowed =>
            change vals.dealflowApprovalState.getD _ = .approved at state
            cases given : vals.dealflowApprovalState with
            | none => rwa [given] at state
            | some value =>
                rw [given, Option.getD_some] at state
                exact absurd (given.trans (congrArg some state)) (other vals allowed)
        | putBack => cases state
        | confirm => exact state
  unfold Db.approvalState
  rw [found, Option.map_some, before]

section Calls

variable {base : BaseOdoo} {env : Env} {db after : Db} {ids : List ℕ} {orderId : ℕ}

/-- A write makes an order approved. -/
theorem writeOrders_becomes_iff {vals : SaleOrderVals}
    (ok : writeOrders base env ids vals db = .ok after) :
    BecomesApproved db after orderId ↔
      Unapproved db orderId ∧ vals.dealflowApprovalState = some .approved ∧ orderId ∈ ids ∧
        (env.skipReapproval = false →
          commandsReapprove base ids orderId vals.commands db.lines = false) := by
  unfold BecomesApproved Unapproved
  rw [writeOrders_approved_iff ok]
  constructor
  · rintro ⟨before, written, kept⟩
    have approves : vals.dealflowApprovalState = some .approved := by
      by_contra other
      have moves : OrdersMove (· = vals) db after := writeOrders_moves ok rfl
      refine before (moves.approved (fun _ same => same ▸ other) ?_)
      exact (writeOrders_approved_iff ok).mpr ⟨written, kept⟩
    unfold writtenState at written
    split at written
    · next mem =>
        obtain ⟨state, row, -⟩ := Option.map_eq_some_iff.mp written
        refine ⟨⟨state, row, fun approved => before ?_⟩, approves, mem, fun skip => (kept skip).1⟩
        rw [row, approved]
    · exact absurd written before
  · rintro ⟨⟨state, row, open'⟩, approves, mem, kept⟩
    have before : db.approvalState orderId ≠ some .approved := by
      rw [row]
      exact fun approved => open' (Option.some.inj approved)
    refine ⟨before, ?_, fun skip => ⟨kept skip, fun put => ?_⟩⟩
    · unfold writtenState
      rw [if_pos mem, row, approves]
      rfl
    · unfold ordersToReapprove at put
      split at put
      · exact before (of_decide_eq_true (List.mem_filter.mp put).2)
      · exact List.not_mem_nil put

theorem writeOrders_mayApprove {vals : SaleOrderVals}
    (ok : writeOrders base env ids vals db = .ok after)
    (approves : vals.dealflowApprovalState = some .approved) : MayApprove env.user ids db := by
  obtain ⟨-, -, ok⟩ := bind_eq_ok.mp ok
  obtain ⟨u, checked, -⟩ := bind_eq_ok.mp ok
  exact checkApprover_ok_iff.mp checked approves

/-- What an approved change does: the order is approved, by whom `SaleOrder.write` lets with the
lines as they are by then. -/
theorem applyApprovedChange_ok {changes : ApprovedChanges}
    (ok : actionDealflowApplyApprovedChange base env orderId changes db = .ok after) :
    MayApprove env.user [orderId] { db with lines := discountsApplied base orderId changes db } ∧
      after.lines = discountsApplied base orderId changes db ∧
      ∀ other, BecomesApproved db after other ↔ Unapproved db other ∧ other = orderId := by
  obtain ⟨-, ok⟩ := require_bind_eq_ok.mp ok
  obtain ⟨-, ok⟩ := require_bind_eq_ok.mp ok
  obtain ⟨priced, discounts, ok⟩ := bind_eq_ok.mp ok
  have priced := applyLineDiscounts_ok rfl discounts
  subst priced
  have written : writeOrders base env.withSkipReapproval [orderId]
      (approvedOrderVals changes env.now)
      { db with lines := discountsApplied base orderId changes db } = .ok after := ok
  have may := writeOrders_mayApprove written rfl
  refine ⟨may, writeOrders_lines written, fun other => ?_⟩
  refine (writeOrders_becomes_iff written).trans ?_
  refine and_congr_right fun _ => ⟨fun rest => List.mem_singleton.mp rest.2.1, fun same => ?_⟩
  exact ⟨rfl, List.mem_singleton.mpr same, nofun⟩

/-! ## Authority -/

variable (base) in
/-- Who approves an order is no portal user, and is in the finance or admin group where the order's
discount is above the threshold in the end. -/
def ApprovalAuthorized (db : Db) (op : AddonOp) : Prop :=
  ∀ orderId, BecomesApproved db (addonStep base op db) orderId →
    op.env.user.isPortal = false ∧
      (defaultFinanceDiscountThreshold < (addonStep base op db).blendedDiscount orderId →
        op.env.user.isFinanceOrAdmin = true)

/-- An internal user without the authority, and an order to approve that is above the threshold with
these lines. -/
structure AboveAuthority (db : Db) (user : User) (lines : Table SaleOrderLine) (orderId : ℕ) :
    Prop where
  internal : user.isPortal = false
  notFinance : user.isFinanceOrAdmin = false
  unapproved : Unapproved db orderId
  above : defaultFinanceDiscountThreshold < ({ db with lines } : Db).blendedDiscount orderId

variable (base db env) in
/-- The ways round the threshold.

* A write approves an order, with line commands that leave it above the threshold (none of them
  asks for a new approval); before them the user may approve it.
* An approved change leaves an order above the threshold, and the user is outside the sales reps. -/
inductive Escalates : AddonCall → ℕ → Prop
  | write {ids : List ℕ} {vals : SaleOrderVals} {orderId : ℕ}
      (approves : vals.dealflowApprovalState = some .approved) (mem : orderId ∈ ids)
      (may : MayApprove env.user ids db)
      (kept : env.skipReapproval = false →
        commandsReapprove base ids orderId vals.commands db.lines = false)
      (excess : AboveAuthority db env.user (commandsAfter base ids vals.commands db.lines)
        orderId) :
      Escalates (.writeOrders ids vals) orderId
  | apply {orderId : ℕ} {changes : ApprovedChanges} (outsider : env.user.isSalesRep = false)
      (excess : AboveAuthority db env.user (discountsApplied base orderId changes db) orderId) :
      Escalates (.applyApprovedChange orderId changes) orderId
  | adapter {orderId : ℤ} {changes : ApprovedChanges} (outsider : env.user.isSalesRep = false)
      (excess : AboveAuthority db env.user (discountsApplied base orderId.toNat changes db)
        orderId.toNat) :
      Escalates (.adapterApplyApprovedChange orderId changes) orderId.toNat

theorem MayApprove.below {user : User} (may : MayApprove user ids db) (rep : user.isSalesRep = true)
    (mem : orderId ∈ ids) (above : defaultFinanceDiscountThreshold < db.blendedDiscount orderId) :
    user.isFinanceOrAdmin = true := by
  by_contra notFinance
  exact (may.2 rep (Bool.eq_false_iff.mpr notFinance) orderId mem).not_gt above

/-- An approval of negotiations has its authority: who may approve them is a sales rep, and the
order is asked with the lines it keeps. -/
theorem actionApprove_authorized {reviewNote : Option String}
    (ok : actionApprove base env ids reviewNote db = .ok after)
    (becomes : BecomesApproved db after orderId) :
    env.user.isPortal = false ∧
      (defaultFinanceDiscountThreshold < after.blendedDiscount orderId →
        env.user.isFinanceOrAdmin = true) := by
  have decided := actionApprove_decided ok
  have governed : Touches db ids orderId ∧ MayGovern env.user db .approved orderId := by
    by_contra not
    refine becomes.1 ?_
    unfold Db.approvalState
    rw [← decided.governed.others orderId not]
    exact becomes.2
  obtain ⟨⟨id, mem, -⟩, may⟩ := governed
  obtain ⟨internal, manager⟩ := decided.may id mem
  refine ⟨internal, fun above => ?_⟩
  rw [blendedDiscount_congr decided.reviewed.lines db] at above
  have rep := User.isManager_isSalesRep (manager rfl).1
  exact (may rfl).below rep (List.mem_singleton_self _) above

theorem writeOrders_authorized {vals : SaleOrderVals}
    (ok : writeOrders base env ids vals db = .ok after)
    (not : ¬ Escalates base env db (.writeOrders ids vals) orderId)
    (becomes : BecomesApproved db after orderId) :
    env.user.isPortal = false ∧
      (defaultFinanceDiscountThreshold < after.blendedDiscount orderId →
        env.user.isFinanceOrAdmin = true) := by
  obtain ⟨unapproved, approves, mem, kept⟩ := (writeOrders_becomes_iff ok).mp becomes
  have may := writeOrders_mayApprove ok approves
  refine ⟨may.1, fun above => ?_⟩
  by_contra notFinance
  rw [blendedDiscount_congr (writeOrders_lines ok) db] at above
  exact not (.write approves mem may kept
    ⟨may.1, Bool.eq_false_iff.mpr notFinance, unapproved, above⟩)

theorem applyApprovedChange_authorized {changes : ApprovedChanges} {other : ℕ}
    (ok : actionDealflowApplyApprovedChange base env orderId changes db = .ok after)
    (not : env.user.isSalesRep = false →
      ¬ AboveAuthority db env.user (discountsApplied base orderId changes db) orderId)
    (becomes : BecomesApproved db after other) :
    env.user.isPortal = false ∧
      (defaultFinanceDiscountThreshold < after.blendedDiscount other →
        env.user.isFinanceOrAdmin = true) := by
  obtain ⟨may, lines, iff⟩ := applyApprovedChange_ok ok
  obtain ⟨unapproved, rfl⟩ := (iff other).mp becomes
  refine ⟨may.1, fun above => ?_⟩
  rw [blendedDiscount_congr lines db] at above
  by_contra notFinance
  have notFinance := Bool.eq_false_iff.mpr notFinance
  cases rep : env.user.isSalesRep with
  | false => exact not rep ⟨may.1, notFinance, unapproved, above⟩
  | true =>
      have finance := may.below rep (List.mem_singleton_self _) above
      exact nomatch notFinance.symm.trans finance

/-- Every call approves with authority, unless it escalates. -/
theorem approvalAuthorized {op : AddonOp}
    (none : ∀ orderId, ¬ Escalates base op.env db op.call orderId) :
    ApprovalAuthorized base db op := by
  intro orderId becomes
  unfold addonStep at becomes ⊢
  cases performed : performAddon base op db with
  | error e =>
      rw [performed] at becomes
      exact absurd becomes.2 becomes.1
  | ok after =>
      rw [performed] at becomes
      change BecomesApproved db after orderId at becomes
      change _ ∧ (defaultFinanceDiscountThreshold < after.blendedDiscount orderId → _)
      have silent : ¬ ∀ vals, op.call.Writes vals → vals.dealflowApprovalState ≠ some .approved :=
        fun other => becomes.1 ((performAddon_moves performed).approved other becomes.2)
      obtain ⟨env, call⟩ := op
      cases call with
      | createNegotiations valsList => exact absurd (fun _ same => same ▸ nofun) silent
      | writeNegotiations ids vals => exact absurd (fun _ => False.elim) silent
      | underReview ids => exact absurd (fun _ => False.elim) silent
      | approve ids reviewNote => exact actionApprove_authorized performed becomes
      | reject ids reviewNote => exact absurd (fun _ same => same ▸ nofun) silent
      | lock ids => exact absurd (fun _ same => same ▸ nofun) silent
      | unlock actor ids => exact absurd (fun _ same => same ▸ nofun) silent
      | evaluateGovernance id => exact absurd (fun _ none => none.1 ▸ nofun) silent
      | writeOrders ids vals => exact writeOrders_authorized performed (none orderId) becomes
      | writeLines ids vals => exact absurd (fun _ => False.elim) silent
      | applyApprovedChange id changes =>
          exact applyApprovedChange_authorized performed
            (fun outsider excess => none id (.apply outsider excess)) becomes
      | adapterApplyApprovedChange id changes =>
          exact applyApprovedChange_authorized
            (adapterApplyApprovedChange_ok (mapError_eq_ok.mp performed))
            (fun outsider excess => none id.toNat (.adapter outsider excess)) becomes
      | confirmOrder signing salesAdapter id approvalToken =>
          exact absurd (fun _ => False.elim) silent

/-- Along a run of the addon every approval has its authority, where no call escalates. -/
theorem approvalAuthority_run (base : BaseOdoo) (ops : List AddonOp) (db : Db)
    (none : ∀ t ∈ history (addonStep base) ops db,
      ∀ orderId, ¬ Escalates base t.2.env t.1 t.2.call orderId) :
    ∀ t ∈ history (addonStep base) ops db, ApprovalAuthorized base t.1 t.2 :=
  fun t mem => approvalAuthorized (none t mem)

/-- A call that escalates and goes through approves without authority. -/
theorem Escalates.unauthorized {op : AddonOp}
    (escalates : Escalates base op.env db op.call orderId)
    (ok : performAddon base op db = .ok after) : ¬ ApprovalAuthorized base db op := by
  intro authorized
  have unfolded := authorized orderId
  unfold addonStep at unfolded
  rw [ok] at unfolded
  change BecomesApproved db after orderId → _ ∧
    (defaultFinanceDiscountThreshold < after.blendedDiscount orderId → _) at unfolded
  have applied : ∀ {id : ℕ} {changes : ApprovedChanges},
      actionDealflowApplyApprovedChange base op.env id changes db = .ok after → id = orderId →
        ¬ AboveAuthority db op.env.user (discountsApplied base id changes db) id := by
    rintro id changes ok rfl excess
    obtain ⟨-, lines, iff⟩ := applyApprovedChange_ok ok
    have finance := (unfolded ((iff id).mpr ⟨excess.unapproved, rfl⟩)).2
      ((blendedDiscount_congr lines db id).symm ▸ excess.above)
    exact nomatch excess.notFinance.symm.trans finance
  obtain ⟨env, call⟩ := op
  cases escalates with
  | @write ids vals _ approves mem may kept excess =>
      have becomes := (writeOrders_becomes_iff ok).mpr ⟨excess.unapproved, approves, mem, kept⟩
      have finance := (unfolded becomes).2
        ((blendedDiscount_congr (writeOrders_lines ok) db orderId).symm ▸ excess.above)
      exact nomatch excess.notFinance.symm.trans finance
  | apply outsider excess => exact applied ok rfl excess
  | adapter outsider excess =>
      exact applied (adapterApplyApprovedChange_ok (mapError_eq_ok.mp ok)) rfl excess

end Calls

/-- The write that approves the order together with a new line at fifty percent. -/
def approveWithLine (group : Group) : AddonOp where
  env := { user := group.member 7 }
  call := .writeOrders [1]
    { dealflowApprovalState := some .approved
      orderLine := some
        { commands := [.create { priceUnit := some 100, discount := some 50 }] } }

/-- A user of the finance group may write it. -/
theorem financeApproval_run :
    ApprovalAuthorized openOdoo freshQuote (approveWithLine .dealflowFinance) := by
  refine approvalAuthority_run openOdoo [approveWithLine .dealflowFinance] freshQuote ?_
    (freshQuote, approveWithLine .dealflowFinance) List.mem_cons_self
  intro t mem orderId escalates
  rw [List.mem_singleton.mp mem] at escalates
  cases escalates with
  | write approves mem may kept excess => exact absurd excess.notFinance (by decide)

/-- A sales rep may not, but nothing stops it: the order has no discount before the write. -/
theorem approvalAuthority_fails :
    ¬ ∀ t ∈ history (addonStep openOdoo) [approveWithLine .dealflowSalesRep] freshQuote,
      ApprovalAuthorized openOdoo t.1 t.2 := by
  intro authorized
  have becomes : BecomesApproved freshQuote
      (addonStep openOdoo (approveWithLine .dealflowSalesRep) freshQuote) 1 :=
    ⟨by decide +kernel, by decide +kernel⟩
  have finance := (authorized _ List.mem_cons_self 1 becomes).2 (by decide +kernel)
  exact absurd finance (by decide)

end DealFlow.Addon
