import DealFlow.Addon.SaleOrderGovernance

/-!
# What a write leaves behind

A write of an order takes a list of commands on its lines, and each of them may write lines in turn,
which puts the orders of those lines back to a new approval.  Two functions of the lines say what
comes of it: `commandsAfter`, the lines in the end, and `commandsReapprove`, the orders whose new
approval the commands ask for on their way.

`writeLines_ok`, `applyCommand_ok` and `writeOrders_ok` are the whole effect of the three calls in
these terms, and `writeOrders_approved_iff` says which orders are approved after a write.  The line
discounts of an approved change are told likewise, by `discountsApplied`.
-/

namespace DealFlow.Addon

open Lib

/-! ## Asking for a new approval -/

/-- An order put back to a new approval. -/
def SaleOrder.askReapproval (order : SaleOrder) : SaleOrder :=
  order.assign (governanceVals .reapprovalRequired true)

/-- Of the orders, those that are approved and flagged are put back. -/
def reapprove (flagged : ℕ → Bool) (orders : Table SaleOrder) : Table SaleOrder :=
  orders.rewrite fun id order =>
    some (if flagged id = true ∧ order.dealflowApprovalState = .approved then order.askReapproval
      else order)

theorem row_reapprove (flagged : ℕ → Bool) (orders : Table SaleOrder) (id : ℕ) :
    (reapprove flagged orders).row id = (orders.row id).map fun order =>
      if flagged id = true ∧ order.dealflowApprovalState = .approved then order.askReapproval
      else order := by
  change (orders.row id).bind _ = _
  cases orders.row id <;> rfl

theorem reapprove_none (orders : Table SaleOrder) : reapprove (fun _ => false) orders = orders := by
  refine Table.ext (funext fun id => ?_) rfl
  rw [row_reapprove]
  cases orders.row id <;> rfl

theorem reapprove_reapprove (first second : ℕ → Bool) (orders : Table SaleOrder) :
    reapprove second (reapprove first orders) =
      reapprove (fun id => first id || second id) orders := by
  refine Table.ext (funext fun id => ?_) rfl
  rw [row_reapprove, row_reapprove, row_reapprove, Option.map_map]
  refine congrArg (fun f => Option.map f _) (funext fun order => ?_)
  have notAgain : ¬ (second id = true ∧
      order.askReapproval.dealflowApprovalState = .approved) := fun both => nomatch both.2
  rw [Function.comp_apply]
  by_cases approved : order.dealflowApprovalState = .approved
  · cases first id with
    | false => rfl
    | true => simp only [approved, and_true, if_true, Bool.true_or, if_neg notAgain]
  · simp only [approved, and_false, if_false]

section Reapproval

variable {base : BaseOdoo} {env : Env} {ids : List ℕ} {db after : Db}

theorem requireReapproval_ok {orderIds : List ℕ}
    (ok : orderIds.foldlM (requireReapproval base env) db = .ok after) :
    after = { db with orders := db.orders.modify orderIds (·.askReapproval) } := by
  refine foldlM_ok (motive := fun done now =>
    now = { db with orders := db.orders.modify done (·.askReapproval) }) ok ?_ ?_
  · have same : db.orders.modify [] (·.askReapproval) = db.orders :=
      Table.ext (funext fun id => by rw [Table.row_modify, if_neg List.not_mem_nil]) rfl
    rw [same]
  · rintro done id - now next step rfl
    rw [superWriteFields_ok step]
    refine congrArg (Db.mk · _ _) (Table.ext (funext fun other => ?_) rfl)
    rw [Table.row_modify, Table.row_modify, Table.row_modify]
    simp only [List.mem_append]
    by_cases before : other ∈ done <;> by_cases here : other ∈ [id] <;>
      simp only [before, here, if_true, if_false, or_true, or_false, Option.map_map]
    · rfl
    · rfl

/-- The write asks for a new approval of the order, were it approved. -/
def linesReapprove (ids : List ℕ) (vals : LineVals) (lines : Table SaleOrderLine) (orderId : ℕ) :
    Bool :=
  ids.any fun id => (lines.row id).any fun line => line.orderId = orderId && vals.reapproves line

theorem mem_lineOrdersToReapprove {vals : LineVals} {orderId : ℕ} :
    orderId ∈ lineOrdersToReapprove ids vals db ↔
      linesReapprove ids vals db.lines orderId = true ∧
        db.approvalState orderId = some .approved := by
  unfold lineOrdersToReapprove linesReapprove Db.approvalState
  rw [List.mem_filterMap, List.any_eq_true]
  constructor
  · rintro ⟨id, mem, found⟩
    obtain ⟨line, row, found⟩ := Option.bind_eq_some_iff.mp found
    obtain ⟨order, orderRow, found⟩ := Option.bind_eq_some_iff.mp found
    split at found
    · next both =>
        cases found
        obtain ⟨approved, flagged⟩ := Bool.and_eq_true_iff.mp both
        refine ⟨⟨id, mem, ?_⟩, ?_⟩
        · rw [row, Option.any_some, decide_eq_true rfl, flagged]
          rfl
        · rw [orderRow]
          exact congrArg some (of_decide_eq_true approved)
    · cases found
  · rintro ⟨⟨id, mem, flagged⟩, approved⟩
    obtain ⟨order, orderRow, approved⟩ := Option.map_eq_some_iff.mp approved
    obtain ⟨line, row, flagged⟩ := Option.any_eq_true _ _ |>.mp flagged
    obtain ⟨on, flagged⟩ := Bool.and_eq_true_iff.mp flagged
    have on : line.orderId = orderId := of_decide_eq_true on
    refine ⟨id, mem, Option.bind_eq_some_iff.mpr ⟨line, row, ?_⟩⟩
    refine Option.bind_eq_some_iff.mpr ⟨order, on ▸ orderRow, ?_⟩
    rw [flagged, approved, on]
    rfl

/-- What a write of lines does. -/
theorem writeLines_ok {vals : LineVals} (ok : writeLines base env ids vals db = .ok after) :
    after =
      { db with
        lines := db.lines.modify ids (·.assign base vals)
        orders := reapprove
          (fun orderId => !env.skipReapproval && linesReapprove ids vals db.lines orderId)
          db.orders } := by
  obtain ⟨-, -, ok⟩ := bind_eq_ok.mp ok
  obtain ⟨-, -, ok⟩ := bind_eq_ok.mp ok
  split at ok
  · next skip =>
      rw [superWriteLines_ok ok, skip]
      exact congrArg (Db.mk · _ _) (reapprove_none db.orders).symm
  · next noSkip =>
      obtain ⟨written, wrote, ok⟩ := bind_eq_ok.mp ok
      rw [requireReapproval_ok ok, superWriteLines_ok wrote, Bool.eq_false_iff.mpr noSkip]
      refine congrArg (Db.mk · _ _) (Table.ext (funext fun id => ?_) rfl)
      rw [Table.row_modify, row_reapprove]
      cases row : db.orders.row id with
      | none => split <;> rfl
      | some order =>
          have flagged : id ∈ lineOrdersToReapprove ids vals db ↔
              linesReapprove ids vals db.lines id = true ∧
                order.dealflowApprovalState = .approved := by
            rw [mem_lineOrdersToReapprove]
            unfold Db.approvalState
            rw [row, Option.map_some, Option.some.injEq]
          simp only [flagged, Bool.not_false, Bool.true_and, Option.map_some]
          split <;> rfl

/-- An order is approved after a write of lines where it was and the write does not ask for a new
approval. -/
theorem writeLines_approved_iff {vals : LineVals} {orderId : ℕ}
    (ok : writeLines base env ids vals db = .ok after) :
    after.approvalState orderId = some .approved ↔
      db.approvalState orderId = some .approved ∧
        (env.skipReapproval = false → linesReapprove ids vals db.lines orderId = false) := by
  rw [writeLines_ok ok]
  unfold Db.approvalState
  rw [row_reapprove]
  cases db.orders.row orderId with
  | none => exact iff_of_false nofun fun both => nomatch both.1
  | some order =>
      rw [Option.map_some, Option.map_some, Option.map_some, Option.some.injEq, Option.some.injEq]
      split
      · next flagged =>
          obtain ⟨noSkip, flagged⟩ := Bool.and_eq_true_iff.mp flagged.1
          refine iff_of_false nofun fun both => ?_
          exact nomatch flagged.symm.trans (both.2 (Bool.not_eq_true' _ ▸ noSkip))
      · next notFlagged =>
          refine ⟨fun approved => ⟨approved, fun noSkip => ?_⟩, And.left⟩
          refine Bool.eq_false_iff.mpr fun flagged => notFlagged ⟨?_, approved⟩
          rw [noSkip, flagged]
          rfl

end Reapproval

/-! ## Commands -/

section Commands

variable (base : BaseOdoo) (ids : List ℕ)

/-- Lines moved to an order. -/
def moveLines (moved : List ℕ) (orderId : ℕ) (lines : Table SaleOrderLine) : Table SaleOrderLine :=
  lines.modify moved (·.assign base { orderId := some orderId })

/-- The lines after a command on the orders. -/
def Command.after (command : Command) (lines : Table SaleOrderLine) : Table SaleOrderLine :=
  match command with
  | .create vals => ids.foldl (fun lines id => lines.insert (newLine base id vals)) lines
  | .update id vals => lines.modify [id] (·.assign base vals)
  | .delete id => lines.erase [id]
  | .unlink id => lines.erase [id]
  | .link id =>
      match ids.getLast? with
      | none => lines
      | some last =>
          if (lines.row id).map (·.orderId) = some last then lines
          else moveLines base [id] last lines
  | .clear _ =>
      lines.erase ((lines.entries.filter fun entry => entry.2.orderId ∈ ids).map (·.1))
  | .set kept =>
      let rest := lines.erase
        ((lines.entries.filter fun entry => entry.2.orderId ∈ ids ∧ entry.1 ∉ kept).map (·.1))
      match ids.getLast? with
      | none => rest
      | some last => moveLines base kept last rest

/-- The command's own write asks for a new approval of the order, were it approved. -/
def Command.reapproves (lines : Table SaleOrderLine) (orderId : ℕ) : Command → Bool
  | .update id vals => linesReapprove [id] vals lines orderId
  | _ => false

def commandsAfter : List Command → Table SaleOrderLine → Table SaleOrderLine
  | [], lines => lines
  | command :: commands, lines => commandsAfter commands (command.after base ids lines)

/-- One of the commands asks for a new approval of the order, on the lines it finds. -/
def commandsReapprove (orderId : ℕ) : List Command → Table SaleOrderLine → Bool
  | [], _ => false
  | command :: commands, lines =>
      command.reapproves lines orderId ||
        commandsReapprove orderId commands (command.after base ids lines)

variable {base} {ids} {env : Env} {db after : Db}

/-- Moving a line asks for nothing. -/
theorem linesReapprove_move (moved : List ℕ) (last orderId : ℕ) (lines : Table SaleOrderLine) :
    linesReapprove moved { orderId := some last } lines orderId = false := by
  refine List.any_eq_false.mpr fun id _ => ?_
  cases lines.row id with
  | none => exact nofun
  | some line =>
      rw [Option.any_some]
      exact fun both => nomatch (Bool.and_eq_true_iff.mp both).2

theorem moveLines_ok {moved : List ℕ} {last : ℕ}
    (ok : writeLines base env moved { orderId := some last } db = .ok after) :
    after = { db with lines := moveLines base moved last db.lines } := by
  rw [writeLines_ok ok]
  simp only [linesReapprove_move, Bool.and_false, reapprove_none]
  rfl

/-- What a command does. -/
theorem applyCommand_ok {command : Command}
    (ok : applyCommand base env ids db command = .ok after) :
    after =
      { db with
        lines := command.after base ids db.lines
        orders := reapprove
          (fun orderId => !env.skipReapproval && command.reapproves db.lines orderId)
          db.orders } := by
  cases command with
  | create vals =>
      have created := foldlM_ok_image (f := fun db id => superCreateLine base env id vals db)
        (g := fun lines id => lines.insert (newLine base id vals))
        (fun lines => { db with lines }) (fun _ _ _ step => superCreateLine_ok step) ok
      rw [created]
      simp only [Command.reapproves, Bool.and_false, reapprove_none]
      rfl
  | update id vals => exact writeLines_ok ok
  | delete id =>
      rw [superDeleteLines_ok ok]
      simp only [Command.reapproves, Bool.and_false, reapprove_none]
      rfl
  | unlink id =>
      rw [superDeleteLines_ok ok]
      simp only [Command.reapproves, Bool.and_false, reapprove_none]
      rfl
  | link id =>
      simp only [Command.reapproves, Bool.and_false, reapprove_none]
      unfold applyCommand at ok
      unfold Command.after
      cases last : ids.getLast? with
      | none =>
          rw [last] at ok
          cases ok
          rfl
      | some last =>
          simp only [last] at ok ⊢
          split at ok
          · next here =>
              cases ok
              rw [if_pos here]
          · next elsewhere => rw [moveLines_ok ok, if_neg elsewhere]
  | clear short =>
      rw [superDeleteLines_ok ok]
      simp only [Command.reapproves, Bool.and_false, reapprove_none]
      rfl
  | set kept =>
      simp only [Command.reapproves, Bool.and_false, reapprove_none]
      obtain ⟨rest, deleted, ok⟩ := bind_eq_ok.mp ok
      unfold Command.after
      cases last : ids.getLast? with
      | none =>
          simp only [last] at ok ⊢
          cases ok
          exact superDeleteLines_ok deleted
      | some last =>
          simp only [last] at ok ⊢
          rw [moveLines_ok ok, superDeleteLines_ok deleted]

theorem commands_ok {commands : List Command}
    (ok : commands.foldlM (applyCommand base env ids) db = .ok after) :
    after =
      { db with
        lines := commandsAfter base ids commands db.lines
        orders := reapprove (fun orderId => !env.skipReapproval &&
          commandsReapprove base ids orderId commands db.lines) db.orders } := by
  induction commands generalizing db with
  | nil =>
      cases ok
      simp only [commandsReapprove, Bool.and_false, reapprove_none]
      rfl
  | cons command commands ih =>
      rw [List.foldlM_cons] at ok
      obtain ⟨now, first, rest⟩ := bind_eq_ok.mp ok
      rw [ih rest, applyCommand_ok first, reapprove_reapprove]
      simp only [commandsReapprove, Bool.and_or_distrib_left]
      rfl

/-! ## The order -/

/-- The orders that a write itself puts back. -/
def putBack (env : Env) (ids : List ℕ) (vals : SaleOrderVals) (db : Db) : List ℕ :=
  if env.skipReapproval then [] else ordersToReapprove ids vals db

/-- What a write of orders does. -/
theorem writeOrders_ok {vals : SaleOrderVals} (ok : writeOrders base env ids vals db = .ok after) :
    after =
      { db with
        lines := commandsAfter base ids vals.commands db.lines
        orders := (reapprove (fun orderId => !env.skipReapproval &&
            commandsReapprove base ids orderId vals.commands db.lines)
          (db.orders.modify ids (·.assign vals))).modify (putBack env ids vals db)
            (·.askReapproval) } := by
  have fields : ∀ {written : Db}, superWriteOrders base env ids vals db = .ok written →
      written =
        { db with
          lines := commandsAfter base ids vals.commands db.lines
          orders := reapprove (fun orderId => !env.skipReapproval &&
              commandsReapprove base ids orderId vals.commands db.lines)
            (db.orders.modify ids (·.assign vals)) } := by
    intro written ok
    obtain ⟨assigned, fields, commands⟩ := bind_eq_ok.mp ok
    rw [commands_ok commands, superWriteFields_ok fields]
  obtain ⟨-, -, ok⟩ := bind_eq_ok.mp ok
  obtain ⟨-, -, ok⟩ := bind_eq_ok.mp ok
  unfold putBack
  split at ok
  · next skip =>
      rw [fields ok, if_pos skip]
      refine congrArg (Db.mk · _ _) (Table.ext (funext fun id => ?_) rfl)
      rw [Table.row_modify, if_neg List.not_mem_nil]
  · next noSkip =>
      obtain ⟨written, wrote, ok⟩ := bind_eq_ok.mp ok
      rw [requireReapproval_ok ok, fields wrote, if_neg noSkip]

/-- The state that a write gives an order. -/
def writtenState (ids : List ℕ) (vals : SaleOrderVals) (db : Db) (orderId : ℕ) :
    Option AddonApprovalState :=
  if orderId ∈ ids then (db.approvalState orderId).map (vals.dealflowApprovalState.getD ·)
  else db.approvalState orderId

theorem writeOrders_lines {vals : SaleOrderVals}
    (ok : writeOrders base env ids vals db = .ok after) :
    after.lines = commandsAfter base ids vals.commands db.lines := by
  rw [writeOrders_ok ok]

/-- An order is approved after a write where it is written or stays so, no command asks for a new
approval and the write itself does not. -/
theorem writeOrders_approved_iff {vals : SaleOrderVals} {orderId : ℕ}
    (ok : writeOrders base env ids vals db = .ok after) :
    after.approvalState orderId = some .approved ↔
      writtenState ids vals db orderId = some .approved ∧
        (env.skipReapproval = false →
          commandsReapprove base ids orderId vals.commands db.lines = false ∧
            orderId ∉ ordersToReapprove ids vals db) := by
  have state : writtenState ids vals db orderId =
      ((db.orders.modify ids (·.assign vals)).row orderId).map (·.dealflowApprovalState) := by
    unfold writtenState Db.approvalState
    rw [Table.row_modify]
    split
    · rw [Option.map_map, Option.map_map]
      rfl
    · rfl
  rw [writeOrders_ok ok, state]
  unfold Db.approvalState putBack
  rw [Table.row_modify, row_reapprove]
  cases (db.orders.modify ids (·.assign vals)).row orderId with
  | none =>
      simp only [Option.map_none, ite_self]
      exact iff_of_false nofun fun both => nomatch both.1
  | some order =>
      have back : ∀ order : SaleOrder,
          (some order.askReapproval).map (·.dealflowApprovalState) ≠ some .approved :=
        fun _ => nofun
      cases skip : env.skipReapproval with
      | true => simp
      | false =>
          simp only [Bool.not_false, Bool.true_and, Bool.false_eq_true, if_false, forall_const]
          split
          · next put => exact iff_of_false (back _) fun both => both.2.2 put
          · next notPut =>
              rw [Option.map_some]
              split
              · next flagged =>
                  exact iff_of_false (back _) fun both => nomatch flagged.1.symm.trans both.2.1
              · next notFlagged =>
                  refine ⟨fun approved => ⟨approved, ?_, notPut⟩, And.left⟩
                  refine Bool.eq_false_iff.mpr fun flagged => notFlagged ⟨flagged, ?_⟩
                  exact Option.some.inj approved

end Commands

/-! ## Approved changes -/

section Apply

variable (base : BaseOdoo) (orderId : ℕ)

/-- A line of the order gets a discount together with its approval. -/
def approveDiscount (lines : Table SaleOrderLine) (lineId : ℕ) (discount : ℚ) :
    Table SaleOrderLine :=
  if (lines.row lineId).map (·.orderId) = some orderId then
    lines.modify [lineId]
      (·.assign base { discount := some discount, dealflowApprovedDiscount := some discount })
  else lines

/-- The lines after an approved change. -/
def discountsApplied (changes : ApprovedChanges) (db : Db) : Table SaleOrderLine :=
  let lines := changes.chosenLineDiscounts.foldl (fun lines entry =>
    match entry.1 with
    | none => lines
    | some lineId => approveDiscount base orderId lines lineId entry.2) db.lines
  let lines := (changes.lines.getD []).foldl (fun lines item =>
    match item.target, item.discount with
    | some lineId, some discount => approveDiscount base orderId lines lineId discount
    | _, _ => lines) lines
  match changes.discount with
  | none => lines
  | some discount =>
      if changes.chosenLineDiscounts = [] ∧ changes.lines = none then
        (({ db with lines } : Db).pricedLines orderId).foldl (fun lines entry =>
          approveDiscount base orderId lines entry.1 discount) lines
      else lines

variable {base} {orderId} {env : Env} {db after : Db}

theorem writeApprovedDiscount_ok (skip : env.skipReapproval = true) {lineId : ℕ} {discount : ℚ}
    (ok : writeApprovedDiscount base env orderId db lineId discount = .ok after) :
    after = { db with lines := approveDiscount base orderId db.lines lineId discount } := by
  unfold writeApprovedDiscount at ok
  unfold approveDiscount
  split at ok
  · next here =>
      rw [writeLines_ok ok, skip, if_pos here]
      exact congrArg (Db.mk · _ _) (reapprove_none db.orders)
  · next elsewhere =>
      cases ok
      rw [if_neg elsewhere]

theorem applyLineDiscounts_ok (skip : env.skipReapproval = true) {changes : ApprovedChanges}
    (ok : applyLineDiscounts base env orderId changes db = .ok after) :
    after = { db with lines := discountsApplied base orderId changes db } := by
  obtain ⟨first, chosen, ok⟩ := bind_eq_ok.mp ok
  obtain ⟨second, listed, ok⟩ := bind_eq_ok.mp ok
  have chosen := foldlM_ok_image (c := db.lines)
    (g := fun lines entry =>
      match entry.1 with
      | none => lines
      | some lineId => approveDiscount base orderId lines lineId entry.2)
    (fun lines => { db with lines }) (by
      intro lines entry next step
      cases id : entry.1 with
      | none =>
          rw [id] at step
          exact (Except.ok.inj step).symm
      | some lineId =>
          rw [id] at step
          exact writeApprovedDiscount_ok skip step) chosen
  subst chosen
  have listed := foldlM_ok_image
    (g := fun lines item =>
      match item.target, item.discount with
      | some lineId, some discount => approveDiscount base orderId lines lineId discount
      | _, _ => lines)
    (fun lines => { db with lines }) (by
      intro lines item next step
      cases target : item.target <;> cases discount : item.discount <;>
        rw [target, discount] at step
      · exact (Except.ok.inj step).symm
      · exact (Except.ok.inj step).symm
      · exact (Except.ok.inj step).symm
      · exact writeApprovedDiscount_ok skip step) listed
  subst listed
  unfold discountsApplied
  dsimp only
  cases given : changes.discount with
  | none =>
      rw [given] at ok
      exact (Except.ok.inj ok).symm
  | some discount =>
      rw [given] at ok
      dsimp only at ok ⊢
      split at ok
      · next fallback =>
          rw [if_pos fallback]
          exact foldlM_ok_image
            (g := fun lines entry => approveDiscount base orderId lines entry.1 discount)
            (fun lines => { db with lines })
            (fun _ _ _ step => writeApprovedDiscount_ok skip step) ok
      · next notFallback =>
          rw [if_neg notFallback]
          exact (Except.ok.inj ok).symm

end Apply

end DealFlow.Addon
