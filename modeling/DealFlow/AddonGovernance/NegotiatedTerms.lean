import DealFlow.AddonGovernance.InviolableConfirmation

/-!
# What a customer asks for waits for a verdict

`update_negotiated_terms` puts the discounts a customer asks for on the lines of a quotation before
anyone has approved them (`negotiatedTerms_written`), and locks it.  From then on the order is
confirmed in no run of whatever calls, of the addon and of the sales adapter, unless one of them is
a `Verdict` on it: an approval, an unlock, a write of its state or its lock, or a confirmation with
a token or in a context that bypasses the check.
-/

namespace DealFlow.Addon

open Lib

/-! ## The discounts that are asked for -/

/-- The discount of a line after a list of writes. -/
def askedDiscount (asked : List (Option ℕ × ℚ)) (lineId : ℕ) (discount : ℚ) : ℚ :=
  asked.foldl (fun discount entry => if entry.1 = some lineId then entry.2 else discount) discount

/-- What becomes of the discount of a line. -/
def NegotiatedTerms.discountOf (terms : NegotiatedTerms) (lineId : ℕ) (line : SaleOrderLine) : ℚ :=
  match terms.targetDiscounts with
  | some targets => askedDiscount targets lineId line.discount
  | none =>
      if line.displayType then line.discount else terms.requestedDiscount.getD line.discount

/-- Some lines of an order have got another discount.  The order may have been put back to a new
approval for it. -/
structure Discounted (db : Db) (orderId : ℕ) (discount : ℕ → ℚ → ℚ) (after : Db) : Prop where
  lines : ∀ id line, db.lines.row id = some line → line.orderId = orderId →
    ∃ line', after.lines.row id = some line' ∧ line'.orderId = orderId ∧
      line'.discount = discount id line.discount
  otherLines : ∀ id, (∀ line, db.lines.row id = some line → line.orderId ≠ orderId) →
    after.lines.row id = db.lines.row id
  order : after.orders.row orderId = db.orders.row orderId ∨
    after.orders.row orderId = (db.orders.row orderId).map (·.askReapproval)
  otherOrders : ∀ id, id ≠ orderId → after.orders.row id = db.orders.row id

section Discounts

variable {base : BaseOdoo} {env : Env} {db now after : Db} {orderId lineId : ℕ}

theorem Discounted.refl (db : Db) (orderId : ℕ) :
    Discounted db orderId (fun _ discount => discount) db where
  lines _ line row on := ⟨line, row, on, rfl⟩
  otherLines _ _ := rfl
  order := Or.inl rfl
  otherOrders _ _ := rfl

theorem Discounted.trans {f g : ℕ → ℚ → ℚ} (first : Discounted db orderId f now)
    (second : Discounted now orderId g after) :
    Discounted db orderId (fun id discount => g id (f id discount)) after where
  lines id line row on := by
    obtain ⟨middle, middleRow, middleOn, middleDiscount⟩ := first.lines id line row on
    obtain ⟨last, lastRow, lastOn, lastDiscount⟩ := second.lines id middle middleRow middleOn
    exact ⟨last, lastRow, lastOn, by rw [lastDiscount, middleDiscount]⟩
  otherLines id elsewhere := by
    have same := first.otherLines id elsewhere
    rw [← same] at elsewhere
    rw [second.otherLines id elsewhere, same]
  order := by
    have again : ((db.orders.row orderId).map (·.askReapproval)).map (·.askReapproval) =
        (db.orders.row orderId).map (·.askReapproval) := by
      rw [Option.map_map]
      rfl
    rcases first.order with same | put <;> rcases second.order with same' | put'
    · exact Or.inl (same'.trans same)
    · exact Or.inr (put'.trans (congrArg _ same))
    · exact Or.inr (same'.trans put)
    · exact Or.inr (put'.trans ((congrArg _ put).trans again))
  otherOrders id other := (second.otherOrders id other).trans (first.otherOrders id other)

/-- A write of lines of one order asks for no new approval of another. -/
theorem linesReapprove_other {vals : LineVals} {lines : Table SaleOrderLine} {id : ℕ}
    (on : (lines.row lineId).map (·.orderId) = some orderId) (other : id ≠ orderId) :
    linesReapprove [lineId] vals lines id = false := by
  refine List.any_eq_false.mpr fun member mem flagged => ?_
  rw [List.mem_singleton.mp mem] at flagged
  obtain ⟨line, row, here⟩ := Option.any_eq_true _ _ |>.mp flagged
  have same : line.orderId = id := of_decide_eq_true (Bool.and_eq_true_iff.mp here).1
  rw [row, Option.map_some, Option.some.injEq] at on
  exact other (same.symm.trans on)

theorem row_reapprove_cases (flagged : ℕ → Bool) (orders : Table SaleOrder) (id : ℕ) :
    (reapprove flagged orders).row id = orders.row id ∨
      (reapprove flagged orders).row id = (orders.row id).map (·.askReapproval) := by
  rw [row_reapprove]
  cases orders.row id with
  | none => exact Or.inl rfl
  | some order =>
      rw [Option.map_some]
      split
      · exact Or.inr rfl
      · exact Or.inl rfl

theorem writeRequestedDiscount_ok {discount : ℚ}
    (ok : writeRequestedDiscount base env orderId db lineId discount = .ok after) :
    Discounted db orderId (fun id old => if id = lineId then discount else old) after := by
  unfold writeRequestedDiscount at ok
  split at ok
  · next on =>
      rw [writeLines_ok ok]
      constructor
      case lines =>
        intro id line row onOrder
        change ∃ line', (db.lines.modify [lineId] _).row id = some line' ∧ _
        rw [Table.row_modify]
        by_cases here : id = lineId
        · rw [if_pos (List.mem_singleton.mpr here), if_pos here, row, Option.map_some]
          exact ⟨_, rfl, onOrder, rfl⟩
        · rw [if_neg (mt List.mem_singleton.mp here), if_neg here]
          exact ⟨line, row, onOrder, rfl⟩
      case otherLines =>
        intro id elsewhere
        change (db.lines.modify [lineId] _).row id = _
        rw [Table.row_modify]
        refine if_neg fun mem => ?_
        obtain ⟨line, row, same⟩ := Option.map_eq_some_iff.mp on
        rw [List.mem_singleton.mp mem] at elsewhere
        exact elsewhere line row same
      case order => exact row_reapprove_cases _ db.orders orderId
      case otherOrders =>
        intro id other
        change (reapprove _ db.orders).row id = _
        rw [row_reapprove, linesReapprove_other on other, Bool.and_false]
        cases db.orders.row id <;> rfl
  · next off =>
      cases ok
      constructor
      case lines =>
        intro id line row onOrder
        refine ⟨line, row, onOrder, (if_neg ?_).symm⟩
        rintro rfl
        rw [row, Option.map_some, onOrder] at off
        exact off rfl
      case otherLines => exact fun _ _ => rfl
      case order => exact Or.inl rfl
      case otherOrders => exact fun _ _ => rfl

/-- The loop over what is asked for. -/
theorem writeDiscounts_ok {asked : List (Option ℕ × ℚ)}
    (ok : asked.foldlM (writeTargetDiscount base env orderId) db = .ok after) :
    Discounted db orderId (askedDiscount asked) after := by
  refine foldlM_ok (motive := fun done now => Discounted db orderId (askedDiscount done) now)
    ok (.refl db orderId) fun done entry _ now next step before => ?_
  have written : Discounted now orderId
      (fun id old => if entry.1 = some id then entry.2 else old) next := by
    unfold writeTargetDiscount at step
    cases key : entry.1 with
    | none =>
        rw [key] at step
        cases step
        exact .refl now orderId
    | some lineId =>
        rw [key] at step
        have same : (fun (id : ℕ) (old : ℚ) => if some lineId = some id then entry.2 else old) =
            fun id old => if id = lineId then entry.2 else old := by
          funext id old
          simp only [Option.some.injEq, eq_comm]
        rw [same]
        exact writeRequestedDiscount_ok step
  have folded : askedDiscount (done ++ [entry]) = fun id discount =>
      if entry.1 = some id then entry.2 else askedDiscount done id discount := by
    funext id discount
    unfold askedDiscount
    rw [List.foldl_append]
    rfl
  rw [folded]
  exact before.trans written

/-- One discount for a list of lines. -/
theorem askedDiscount_all (ids : List ℕ) (discount old : ℚ) (id : ℕ) :
    askedDiscount (ids.map fun id => (some id, discount)) id old =
      if id ∈ ids then discount else old := by
  unfold askedDiscount
  induction ids generalizing old with
  | nil => rfl
  | cons first ids ih =>
      rw [List.map_cons, List.foldl_cons, ih]
      by_cases later : id ∈ ids
      · rw [if_pos later, if_pos (List.mem_cons_of_mem first later)]
      · rw [if_neg later]
        simp only [List.mem_cons, later, or_false, Option.some.injEq, eq_comm]

theorem mem_pricedLines {line : SaleOrderLine} (row : db.lines.row lineId = some line)
    (on : line.orderId = orderId) :
    lineId ∈ (db.pricedLines orderId).map Prod.fst ↔ line.displayType = false := by
  have listed : ∀ {entry : ℕ × SaleOrderLine}, entry ∈ db.pricedLines orderId ↔
      db.lines.row entry.1 = some entry.2 ∧ entry.2.orderId = orderId ∧
        entry.2.displayType = false := by
    intro entry
    unfold Db.pricedLines Db.orderLine
    rw [List.mem_filter, List.mem_filter, Table.mem_entries, decide_eq_true_iff, Bool.not_eq_true',
      and_assoc]
  constructor
  · intro mem
    obtain ⟨entry, inside, rfl⟩ := List.mem_map.mp mem
    obtain ⟨found, -, priced⟩ := listed.mp inside
    cases row.symm.trans found
    exact priced
  · intro priced
    exact List.mem_map.mpr ⟨(lineId, line), listed.mpr ⟨row, on, priced⟩, rfl⟩

/-- What the first half of `update_negotiated_terms` does to the lines. -/
theorem writeRequestedDiscounts_ok {terms : NegotiatedTerms}
    (ok : writeRequestedDiscounts base env orderId terms db = .ok after) :
    ∃ discount, Discounted db orderId discount after ∧
      ∀ id line, db.lines.row id = some line → line.orderId = orderId →
        discount id line.discount = terms.discountOf id line := by
  unfold writeRequestedDiscounts at ok
  unfold NegotiatedTerms.discountOf
  cases targeted : terms.targetDiscounts with
  | some targets =>
      rw [targeted] at ok
      exact ⟨_, writeDiscounts_ok ok, fun _ _ _ _ => rfl⟩
  | none =>
      rw [targeted] at ok
      cases requested : terms.requestedDiscount with
      | none =>
          rw [requested] at ok
          cases ok
          refine ⟨_, .refl db orderId, fun id line _ _ => ?_⟩
          exact (ite_self line.discount).symm
      | some asked =>
          rw [requested] at ok
          have loop : (((db.pricedLines orderId).map Prod.fst).map fun id =>
              (some id, asked)).foldlM (writeTargetDiscount base env orderId) db = .ok after := by
            rw [List.map_map, List.foldlM_map]
            exact ok
          refine ⟨_, writeDiscounts_ok loop, fun id line row on => ?_⟩
          rw [askedDiscount_all]
          change _ = if line.displayType = true then line.discount else asked
          simp only [mem_pricedLines row on]
          cases line.displayType <;> rfl

end Discounts

/-! ## What the call leaves behind -/

/-- The order waits: locked and not approved, and not confirmed. -/
structure SaleOrder.Waits (order : SaleOrder) : Prop where
  open_ : order.state ≠ .sale ∧ order.state ≠ .done
  locked : order.dealflowLocked = true
  notApproved : order.dealflowApprovalState ≠ .approved

/-- The lines of a quotation have the discounts that are asked for, and the order waits; no other
order and no line of another has changed. -/
structure TermsWritten (db : Db) (orderId : ℕ) (terms : NegotiatedTerms) (after : Db) : Prop where
  lines : ∀ id line, db.lines.row id = some line → line.orderId = orderId →
    ∃ line', after.lines.row id = some line' ∧ line'.orderId = orderId ∧
      line'.discount = terms.discountOf id line
  otherLines : ∀ id, (∀ line, db.lines.row id = some line → line.orderId ≠ orderId) →
    after.lines.row id = db.lines.row id
  order : ∃ before order, db.orders.row orderId = some before ∧
    after.orders.row orderId = some order ∧ order.state = before.state ∧ order.Waits
  otherOrders : ∀ id, id ≠ orderId → after.orders.row id = db.orders.row id

section Written

variable {base : BaseOdoo} {env : Env} {db now after : Db}

/-- A write of values without lines, on one order. -/
theorem writeOrders_one {id : ℕ} {vals : SaleOrderVals} (noLines : vals.orderLine = none)
    (ok : writeOrders base env [id] vals db = .ok after) :
    after.lines = db.lines ∧ (∀ other, other ≠ id → after.orders.row other = db.orders.row other) ∧
      ((after.orders.row id) = (db.orders.row id).map (·.assign vals) ∨
        after.orders.row id = (db.orders.row id).map (·.assign vals |>.askReapproval)) := by
  have noCommands : vals.commands = [] := by
    unfold SaleOrderVals.commands
    rw [noLines]
    rfl
  have rows : ∀ other, after.orders.row other =
      if other ∈ putBack env [id] vals db then
        ((db.orders.modify [id] (·.assign vals)).row other).map (·.askReapproval)
      else (db.orders.modify [id] (·.assign vals)).row other := by
    intro other
    rw [writeOrders_ok ok, noCommands]
    simp only [commandsReapprove, Bool.and_false, reapprove_none]
    rw [Table.row_modify]
  refine ⟨?_, ?_, ?_⟩
  · rw [writeOrders_lines ok, noCommands]
    rfl
  · intro other differs
    have notPut : other ∉ putBack env [id] vals db := by
      intro mem
      unfold putBack ordersToReapprove at mem
      split at mem
      · cases mem
      · split at mem
        · exact differs (List.mem_singleton.mp (List.mem_filter.mp mem).1)
        · cases mem
    rw [rows other, if_neg notPut, Table.row_modify, if_neg (mt List.mem_singleton.mp differs)]
  · have assigned : (db.orders.modify [id] (·.assign vals)).row id =
        (db.orders.row id).map (·.assign vals) := by
      rw [Table.row_modify, if_pos (List.mem_singleton_self id)]
    rw [rows id, assigned]
    split
    · rw [Option.map_map]
      exact Or.inr rfl
    · exact Or.inl rfl

theorem findOrder_ok {orderId : ℤ} {order : SaleOrder} (ok : findOrder orderId db = .ok order) :
    db.browse orderId = some order := by
  unfold findOrder at ok
  cases found : db.browse orderId with
  | none =>
      rw [found] at ok
      cases ok
  | some other =>
      rw [found] at ok
      cases ok
      rfl

theorem negotiatedTerms_written {orderId : ℤ} {terms : NegotiatedTerms}
    (ok : adapterUpdateNegotiatedTerms base env orderId terms db = .ok after) :
    TermsWritten db orderId.toNat terms after := by
  obtain ⟨⟨⟩, -, ok⟩ := bind_eq_ok.mp ok
  obtain ⟨⟨⟩, -, ok⟩ := bind_eq_ok.mp ok
  obtain ⟨⟨⟩, -, ok⟩ := bind_eq_ok.mp ok
  obtain ⟨before, found, ok⟩ := bind_eq_ok.mp ok
  obtain ⟨quotation, ok⟩ := require_bind_eq_ok.mp ok
  obtain ⟨priced, discounts, written⟩ := bind_eq_ok.mp (mapError_eq_ok.mp ok)
  obtain ⟨-, row⟩ := browse_eq_some_iff.mp (findOrder_ok found)
  obtain ⟨discount, discounted, asked⟩ := writeRequestedDiscounts_ok discounts
  obtain ⟨lines, others, own⟩ := writeOrders_one rfl written
  constructor
  case lines =>
    intro id line lineRow on
    rw [lines, ← asked id line lineRow on]
    exact discounted.lines id line lineRow on
  case otherLines =>
    intro id elsewhere
    rw [lines]
    exact discounted.otherLines id elsewhere
  case otherOrders =>
    intro id other
    rw [others id other]
    exact discounted.otherOrders id other
  case order =>
    have isOpen : before.state ≠ .sale ∧ before.state ≠ .done := by
      rcases quotation with draft | sent
      · rw [draft]
        exact ⟨nofun, nofun⟩
      · rw [sent]
        exact ⟨nofun, nofun⟩
    have kept : ∃ order, priced.orders.row orderId.toNat = some order ∧
        order.state = before.state := by
      rcases discounted.order with same | put
      · exact ⟨before, same.trans row, rfl⟩
      · rw [row] at put
        exact ⟨_, put, rfl⟩
    obtain ⟨order, orderRow, state⟩ := kept
    rw [orderRow, Option.map_some, Option.map_some] at own
    rcases own with assigned | put
    · refine ⟨before, _, row, assigned, state, ⟨?_, rfl, nofun⟩⟩
      change order.state ≠ _ ∧ order.state ≠ _
      rw [state]
      exact isOpen
    · refine ⟨before, _, row, put, state, ⟨?_, rfl, nofun⟩⟩
      change order.state ≠ _ ∧ order.state ≠ _
      rw [state]
      exact isOpen

end Written

/-! ## Calls -/

/-- The calls of the addon, its button for a confirmation and those of the sales adapter. -/
inductive QuotationCall
  | addon (call : AddonCall)
  | actionConfirm (ids : List ℕ)
  | updateOrder (salesAdapter : Bool) (orderId : ℤ) (values : OrderUpdate)
  | updateNegotiatedTerms (orderId : ℤ) (terms : NegotiatedTerms)
  | unlockOrder (orderId : ℤ) (actor : Option Actor)
  | evaluateDealGovernance (orderId : ℤ)

structure QuotationOp where
  env : Env
  call : QuotationCall

/-- The values may release an order that waits. -/
def SaleOrderVals.Releases (vals : SaleOrderVals) : Prop :=
  vals.state = some .sale ∨ vals.state = some .done ∨ vals.dealflowLocked = some false ∨
    vals.dealflowApprovalState = some .approved

/-- A verdict on the order. -/
def Verdict (db : Db) (op : QuotationOp) (id : ℕ) : Prop :=
  match op.call with
  | .addon (.approve ids _) => Touches db ids id
  | .addon (.unlock _ ids) => id ∈ ids
  | .addon (.writeOrders ids vals) => id ∈ ids ∧ vals.Releases
  | .addon (.applyApprovedChange orderId _) => orderId = id
  | .addon (.adapterApplyApprovedChange orderId _) => orderId.toNat = id
  | .addon (.confirmOrder signing _ orderId approvalToken) =>
      orderId.toNat = id ∧ verifyApprovalToken signing approvalToken orderId = .ok true
  | .actionConfirm ids => id ∈ ids ∧ op.env.bypassCheck = true
  | .updateOrder _ orderId values => orderId.toNat = id ∧ values.vals.Releases
  | .unlockOrder orderId _ => orderId.toNat = id
  | _ => False

section Calls

variable (base : BaseOdoo)

def performQuotation (op : QuotationOp) (db : Db) : Except OdooException Db :=
  match op.call with
  | .addon call => performAddon base { env := op.env, call } db
  | .actionConfirm ids => actionDealflowConfirm base op.env ids db
  | .updateOrder salesAdapter orderId values =>
      (updateOrder base { env := op.env, salesAdapter } orderId values db).mapError .integration
  | .updateNegotiatedTerms orderId terms =>
      (adapterUpdateNegotiatedTerms base op.env orderId terms db).mapError .integration
  | .unlockOrder orderId actor => adapterUnlockOrder base op.env orderId actor db
  | .evaluateDealGovernance orderId => do
      let (_, db) ← adapterEvaluateDealGovernance base op.env orderId db
      .ok db

def quotationStep (op : QuotationOp) (db : Db) : Db :=
  settle db (performQuotation base op db)

end Calls

/-! ## Waiting -/

/-- The order waits in this database. -/
def WaitsIn (id : ℕ) (db : Db) : Prop :=
  ∀ order, db.orders.row id = some order → order.Waits

section Waiting

variable {base : BaseOdoo} {env : Env} {db now after : Db} {id orderId : ℕ} {ids : List ℕ}

theorem WaitsIn.of_row (waits : WaitsIn id db)
    (same : after.orders.row id = db.orders.row id) : WaitsIn id after := by
  intro order row
  exact waits order (same ▸ row)

theorem SaleOrder.Waits.askReapproval {order : SaleOrder} (waits : order.Waits) :
    order.askReapproval.Waits where
  open_ := waits.open_
  locked := rfl
  notApproved := nofun

theorem SaleOrder.Waits.assign {order : SaleOrder} {vals : SaleOrderVals} (waits : order.Waits)
    (keeps : ¬ vals.Releases) : (order.assign vals).Waits := by
  obtain ⟨noSale, keeps⟩ := not_or.mp keeps
  obtain ⟨noDone, keeps⟩ := not_or.mp keeps
  obtain ⟨noUnlock, noApproval⟩ := not_or.mp keeps
  constructor
  case open_ =>
    change vals.state.getD order.state ≠ _ ∧ vals.state.getD order.state ≠ _
    cases state : vals.state with
    | none => exact waits.open_
    | some value =>
        rw [state] at noSale noDone
        exact ⟨fun sale => noSale (congrArg some sale), fun done => noDone (congrArg some done)⟩
  case locked =>
    change vals.dealflowLocked.getD order.dealflowLocked = true
    cases lock : vals.dealflowLocked with
    | none => exact waits.locked
    | some value =>
        cases value with
        | true => rfl
        | false => exact absurd lock noUnlock
  case notApproved =>
    change vals.dealflowApprovalState.getD order.dealflowApprovalState ≠ _
    cases state : vals.dealflowApprovalState with
    | none => exact waits.notApproved
    | some value =>
        rw [state] at noApproval
        exact fun approved => noApproval (congrArg some approved)

/-- Orders changed in whatever way that keeps them waiting. -/
theorem WaitsIn.modify {f : SaleOrder → SaleOrder} {orders : Table SaleOrder}
    (kept : id ∈ ids → ∀ order : SaleOrder, order.Waits → (f order).Waits)
    (waits : ∀ order, orders.row id = some order → order.Waits) :
    ∀ order, (orders.modify ids f).row id = some order → order.Waits := by
  intro order row
  rw [Table.row_modify] at row
  split at row
  · next mem =>
      obtain ⟨before, found, rfl⟩ := Option.map_eq_some_iff.mp row
      exact kept mem before (waits before found)
  · exact waits order row

theorem WaitsIn.reapprove {flagged : ℕ → Bool} {orders : Table SaleOrder}
    (waits : ∀ order, orders.row id = some order → order.Waits) :
    ∀ order, (reapprove flagged orders).row id = some order → order.Waits := by
  intro order row
  rcases row_reapprove_cases flagged orders id with same | put
  · exact waits order (same ▸ row)
  · rw [put] at row
    obtain ⟨before, found, rfl⟩ := Option.map_eq_some_iff.mp row
    exact (waits before found).askReapproval

theorem WaitsIn.writeLines {vals : LineVals} (waits : WaitsIn id db)
    (ok : writeLines base env ids vals db = .ok after) : WaitsIn id after := by
  rw [writeLines_ok ok]
  exact WaitsIn.reapprove waits

theorem WaitsIn.writeOrders {vals : SaleOrderVals} (waits : WaitsIn id db)
    (keeps : ¬ (id ∈ ids ∧ vals.Releases)) (ok : writeOrders base env ids vals db = .ok after) :
    WaitsIn id after := by
  rw [writeOrders_ok ok]
  refine WaitsIn.modify (fun _ order waiting => waiting.askReapproval) (WaitsIn.reapprove ?_)
  exact WaitsIn.modify (fun mem order waiting => waiting.assign fun releases =>
    keeps ⟨mem, releases⟩) waits

theorem WaitsIn.governOrder {state : AddonApprovalState} {locked : Bool} (waits : WaitsIn id db)
    (keeps : ¬ (governanceVals state locked).Releases) :
    WaitsIn id (governOrder base env orderId state locked db) := by
  rw [governOrder_eq]
  split
  · exact waits
  · exact WaitsIn.modify (fun _ order waiting => waiting.assign keeps) waits

/-- A loop of calls that each keep the order waiting. -/
theorem WaitsIn.loop {α : Type} {step : Db → α → Except OdooException Db} {l : List α}
    (waits : WaitsIn id db) (ok : l.foldlM step db = .ok after)
    (each : ∀ now a next, step now a = .ok next → WaitsIn id now → WaitsIn id next) :
    WaitsIn id after :=
  foldlM_ok (motive := fun _ now => WaitsIn id now) ok waits
    fun _ a _ now next done waiting => each now a next done waiting

/-- A verdict that locks the order releases it only where it approves. -/
theorem governanceVals_keeps {state : AddonApprovalState} (unapproved : state ≠ .approved) :
    ¬ (governanceVals state true).Releases := by
  rintro (sale | done | unlocked | approved)
  · cases sale
  · cases done
  · cases unlocked
  · exact unapproved (Option.some.inj approved)

/-! ### The calls of the addon -/

theorem WaitsIn.governAll (entries : List (ℕ × NegotiationVals)) (waits : WaitsIn id db) :
    WaitsIn id (entries.foldl (fun db entry =>
      Addon.governOrder base env entry.1 .pendingApproval true db) db) := by
  induction entries generalizing db with
  | nil => exact waits
  | cons entry entries ih => exact ih (waits.governOrder (governanceVals_keeps (by decide)))

theorem WaitsIn.createNegotiations {valsList : List NegotiationVals} (waits : WaitsIn id db)
    (ok : createNegotiations base env valsList db = .ok after) : WaitsIn id after := by
  obtain ⟨checked, -, ok⟩ := bind_eq_ok.mp ok
  obtain ⟨created, loop, ok⟩ := bind_eq_ok.mp ok
  cases ok
  have inserted : WaitsIn id created := by
    refine waits.loop loop fun now entry next step waiting => ?_
    obtain ⟨rec, -, rfl⟩ := superCreateNegotiation_ok step
    exact waiting
  exact inserted.governAll checked

theorem WaitsIn.reject {reviewNote : Option String} (waits : WaitsIn id db)
    (ok : actionReject base env ids reviewNote db = .ok after) : WaitsIn id after := by
  refine waits.loop ok fun now record next step waiting => ?_
  obtain ⟨written, wrote, step⟩ := bind_eq_ok.mp step
  cases step
  have kept : WaitsIn id written := by
    rw [writeNegotiations_ok wrote]
    exact waiting
  unfold governOrderOf
  split
  · exact kept
  · exact kept.governOrder (governanceVals_keeps (by decide))

theorem WaitsIn.evaluate {report : EvaluationReport} (waits : WaitsIn id db)
    (ok : actionDealflowEvaluateGovernance base env orderId db = .ok (report, after)) :
    WaitsIn id after := by
  obtain ⟨scored, risk, ok⟩ := bind_eq_ok.mp ok
  obtain ⟨judged, health, ok⟩ := bind_eq_ok.mp ok
  obtain ⟨locked, lock, ok⟩ := bind_eq_ok.mp ok
  obtain ⟨stamped, stamp, ok⟩ := bind_eq_ok.mp ok
  cases ok
  have releases : ∀ vals : SaleOrderVals, vals.state = none →
      vals.dealflowApprovalState = none → vals.dealflowLocked ≠ some false → ¬ vals.Releases := by
    intro vals noState noApproval noUnlock
    unfold SaleOrderVals.Releases
    rw [noState, noApproval]
    rintro (sale | done | unlocked | approved)
    · cases sale
    · cases done
    · exact noUnlock unlocked
    · cases approved
  have scoredWaits : WaitsIn id scored := waits.writeOrders
    (not_and_of_not_right _ (releases _ rfl rfl (by nofun))) risk
  have judgedWaits : WaitsIn id judged := scoredWaits.writeOrders
    (not_and_of_not_right _ (releases _ rfl rfl (by nofun))) health
  have lockedWaits : WaitsIn id locked := by
    unfold lockUnhealthy at lock
    split at lock
    · exact judgedWaits.writeOrders (not_and_of_not_right _ (releases _ rfl rfl (by nofun))) lock
    · cases lock
      exact judgedWaits
  exact lockedWaits.writeOrders (not_and_of_not_right _ (releases _ rfl rfl (by nofun))) stamp

theorem WaitsIn.apply {changes : ApprovedChanges} (waits : WaitsIn id db) (other : orderId ≠ id)
    (ok : actionDealflowApplyApprovedChange base env orderId changes db = .ok after) :
    WaitsIn id after := by
  obtain ⟨-, ok⟩ := require_bind_eq_ok.mp ok
  obtain ⟨-, ok⟩ := require_bind_eq_ok.mp ok
  obtain ⟨priced, discounts, ok⟩ := bind_eq_ok.mp ok
  have kept : WaitsIn id priced := by
    rw [applyLineDiscounts_ok rfl discounts]
    exact waits
  exact kept.writeOrders (fun both => other (List.mem_singleton.mp both.1).symm) ok

theorem superConfirm_other (ok : superConfirm base env ids db = .ok after) (other : id ∉ ids) :
    after.orders.row id = db.orders.row id := by
  refine foldlM_ok (motive := fun done now => id ∉ done → now.orders.row id = db.orders.row id)
    ok (fun _ => rfl) (fun done member _ now next step before notDone => ?_) other
  obtain ⟨-, step⟩ := require_bind_eq_ok.mp step
  obtain ⟨⟨⟩, -, step⟩ := bind_eq_ok.mp step
  cases step
  obtain ⟨earlier, here⟩ := not_or.mp (mt List.mem_append.mpr notDone)
  change (now.orders.modify [member] _).row id = _
  rw [Table.row_modify, if_neg here]
  exact before earlier

/-- A confirmation leaves an order that waits as it is, unless its token verifies. -/
theorem WaitsIn.confirm {signing : Signing} {salesAdapter : Bool} {target : ℤ}
    {approvalToken : Option String} (waits : WaitsIn id db)
    (noToken : ¬ (target.toNat = id ∧ verifyApprovalToken signing approvalToken target = .ok true))
    (ok : confirmOrder base signing { env, salesAdapter } target approvalToken db = .ok after) :
    WaitsIn id after := by
  obtain ⟨as, confirmed⟩ := confirmOrder_ok ok
  by_cases here : target.toNat = id
  · exfalso
    obtain ⟨order, found⟩ : ∃ order, db.browse target = some order := by
      unfold confirmOrder at ok
      split at ok
      · obtain ⟨-, ok⟩ := require_bind_eq_ok.mp ok
        obtain ⟨-, ok⟩ := require_bind_eq_ok.mp ok
        obtain ⟨order, found, -⟩ := bind_eq_ok.mp ok
        exact ⟨order, findOrder_ok found⟩
      · obtain ⟨order, found, -⟩ := bind_eq_ok.mp ok
        unfold findOrderDirectly at found
        cases browsed : db.browse target with
        | none =>
            rw [browsed] at found
            cases found
        | some order => exact ⟨order, rfl⟩
    have waiting := waits order (here ▸ (browse_eq_some_iff.mp found).2)
    have unauthorized : Unauthorized db signing target approvalToken order :=
      { found := found
        held := by
          unfold SaleOrder.held
          rw [waiting.locked, Bool.true_or]
        notApproved := waiting.notApproved
        unverified := fun verified => noToken ⟨here, verified⟩ }
    have slips := (confirmOrder_ok_iff unauthorized).mp ⟨after, ok⟩
    exact nomatch slips.unlocked.symm.trans waiting.locked
  · refine waits.of_row (superConfirm_other confirmed ?_)
    exact fun mem => here (List.mem_singleton.mp mem).symm

theorem WaitsIn.performAddon {op : AddonOp} (waits : WaitsIn id db)
    (noVerdict : ¬ Verdict db { env := op.env, call := .addon op.call } id)
    (ok : performAddon base op db = .ok after) : WaitsIn id after := by
  obtain ⟨env, call⟩ := op
  cases call with
  | createNegotiations valsList => exact waits.createNegotiations ok
  | writeNegotiations ids vals =>
      refine waits.of_row ?_
      rw [writeNegotiations_ok ok]
  | underReview ids =>
      refine waits.of_row ?_
      rw [(actionUnderReview_reviewed ok).1]
  | approve ids reviewNote =>
      refine waits.of_row ((actionApprove_decided ok).governed.others id ?_)
      exact fun both => noVerdict both.1
  | reject ids reviewNote => exact waits.reject ok
  | lock ids =>
      refine waits.loop ok fun now member next written waiting => waiting.writeOrders ?_ written
      rintro ⟨-, sale | done | unlocked | approved⟩
      · cases sale
      · cases done
      · cases unlocked
      · cases approved
  | unlock actor ids =>
      obtain ⟨-, loop⟩ := require_bind_eq_ok.mp ok
      refine foldlM_ok (motive := fun _ now => WaitsIn id now) loop waits
        fun _ member mem now next written waiting => waiting.writeOrders ?_ written
      rintro ⟨here, -⟩
      exact noVerdict (List.mem_singleton.mp here ▸ mem)
  | evaluateGovernance orderId =>
      obtain ⟨⟨report, evaluated⟩, evaluation, same⟩ := bind_eq_ok.mp ok
      cases same
      exact waits.evaluate evaluation
  | writeOrders ids vals => exact waits.writeOrders noVerdict ok
  | writeLines ids vals => exact waits.writeLines ok
  | applyApprovedChange orderId changes => exact waits.apply noVerdict ok
  | adapterApplyApprovedChange orderId changes =>
      exact waits.apply noVerdict (adapterApplyApprovedChange_ok (mapError_eq_ok.mp ok))
  | confirmOrder signing salesAdapter orderId approvalToken =>
      exact waits.confirm noVerdict (mapError_eq_ok.mp ok)

/-! ### The other calls -/

/-- The button leaves an order that waits as it is. -/
theorem WaitsIn.actionConfirm (waits : WaitsIn id db)
    (noBypass : ¬ (id ∈ ids ∧ env.bypassCheck = true))
    (ok : actionDealflowConfirm base env ids db = .ok after) : WaitsIn id after := by
  refine waits.of_row (superConfirm_other (actionDealflowConfirm_ok ok) fun mem => ?_)
  obtain ⟨-, ok⟩ := require_bind_eq_ok.mp ok
  split at ok
  · next bypass => exact noBypass ⟨mem, bypass⟩
  · obtain ⟨⟨⟩, gates, -⟩ := bind_eq_ok.mp ok
    have gate : ∀ l : List ℕ, l.forM (confirmGate db) = .ok () → id ∈ l →
        confirmGate db id = .ok () := by
      intro l all inside
      induction l with
      | nil => cases inside
      | cons first rest ih =>
          obtain ⟨⟨⟩, one, all⟩ := bind_eq_ok.mp all
          rcases List.mem_cons.mp inside with rfl | later
          · exact one
          · exact ih all later
    have passed := gate ids gates mem
    unfold confirmGate at passed
    cases row : db.orders.row id with
    | none =>
        rw [row] at passed
        cases passed
    | some order =>
        rw [row] at passed
        obtain ⟨-, passed⟩ := require_bind_eq_ok.mp passed
        have waiting := waits order row
        exact require_eq_ok.mp passed ⟨Or.inl waiting.locked, waiting.notApproved⟩

theorem WaitsIn.writeUpdate {values : OrderUpdate} (waits : WaitsIn id db)
    (keeps : ¬ (orderId = id ∧ values.vals.Releases))
    (ok : writeUpdate base env orderId values db = .ok after) : WaitsIn id after := by
  obtain ⟨written, wrote, lines⟩ := bind_eq_ok.mp ok
  have kept : WaitsIn id written := by
    unfold writeOwnValues at wrote
    split at wrote
    · cases wrote
      exact waits
    · exact waits.writeOrders
        (fun both => keeps ⟨(List.mem_singleton.mp both.1).symm, both.2⟩) wrote
  refine kept.loop lines fun now update next step waiting => ?_
  unfold updateLine at step
  split at step
  · cases step
    exact waiting
  · split at step
    · exact waiting.writeLines step
    · cases step
      exact waiting

theorem WaitsIn.updateOrder {service : OdooIntegrationService} {target : ℤ} {values : OrderUpdate}
    (waits : WaitsIn id db) (keeps : ¬ (target.toNat = id ∧ values.vals.Releases))
    (ok : updateOrder base service target values db = .ok after) : WaitsIn id after := by
  unfold DealFlow.Addon.updateOrder at ok
  split at ok
  · obtain ⟨⟨⟩, -, ok⟩ := bind_eq_ok.mp ok
    obtain ⟨-, ok⟩ := require_bind_eq_ok.mp ok
    obtain ⟨⟨⟩, -, ok⟩ := bind_eq_ok.mp ok
    obtain ⟨⟨⟩, -, ok⟩ := bind_eq_ok.mp ok
    obtain ⟨order, -, ok⟩ := bind_eq_ok.mp ok
    obtain ⟨-, ok⟩ := require_bind_eq_ok.mp ok
    exact waits.writeUpdate keeps (mapError_eq_ok.mp ok)
  · obtain ⟨order, -, ok⟩ := bind_eq_ok.mp ok
    obtain ⟨-, ok⟩ := require_bind_eq_ok.mp ok
    obtain ⟨-, ok⟩ := require_bind_eq_ok.mp ok
    obtain ⟨-, ok⟩ := require_bind_eq_ok.mp ok
    exact waits.writeOrders
      (fun both => keeps ⟨(List.mem_singleton.mp both.1).symm, both.2⟩) (mapError_eq_ok.mp ok)

theorem WaitsIn.negotiate {target : ℤ} {terms : NegotiatedTerms} (waits : WaitsIn id db)
    (ok : adapterUpdateNegotiatedTerms base env target terms db = .ok after) :
    WaitsIn id after := by
  have written := negotiatedTerms_written ok
  by_cases here : id = target.toNat
  · obtain ⟨before, order, -, row, -, waiting⟩ := written.order
    intro other found
    cases (here ▸ found).symm.trans row
    exact waiting
  · exact waits.of_row (written.otherOrders id here)

theorem WaitsIn.unlockOrder {target : ℤ} {actor : Option Actor} (waits : WaitsIn id db)
    (other : target.toNat ≠ id) (ok : adapterUnlockOrder base env target actor db = .ok after) :
    WaitsIn id after := by
  obtain ⟨⟨⟩, -, ok⟩ := bind_eq_ok.mp ok
  obtain ⟨order, -, ok⟩ := bind_eq_ok.mp ok
  obtain ⟨-, ok⟩ := require_bind_eq_ok.mp ok
  obtain ⟨-, loop⟩ := require_bind_eq_ok.mp ok
  refine foldlM_ok (motive := fun _ now => WaitsIn id now) loop waits
    fun _ member mem now next written waiting => waiting.writeOrders ?_ written
  rintro ⟨here, -⟩
  rw [List.mem_singleton.mp mem] at here
  exact other (List.mem_singleton.mp here).symm

/-- A call that is no verdict on an order that waits keeps it waiting. -/
theorem WaitsIn.step {op : QuotationOp} (waits : WaitsIn id db) (noVerdict : ¬ Verdict db op id) :
    WaitsIn id (quotationStep base op db) := by
  unfold quotationStep
  cases performed : performQuotation base op db with
  | error e => exact waits
  | ok after =>
      change WaitsIn id after
      obtain ⟨env, call⟩ := op
      cases call with
      | addon call => exact waits.performAddon noVerdict performed
      | actionConfirm ids => exact waits.actionConfirm noVerdict performed
      | updateOrder salesAdapter target values =>
          exact waits.updateOrder noVerdict (mapError_eq_ok.mp performed)
      | updateNegotiatedTerms target terms => exact waits.negotiate (mapError_eq_ok.mp performed)
      | unlockOrder target actor => exact waits.unlockOrder noVerdict performed
      | evaluateDealGovernance target =>
          obtain ⟨⟨report, evaluated⟩, evaluation, same⟩ := bind_eq_ok.mp performed
          cases same
          obtain ⟨⟨⟩, -, evaluation⟩ := bind_eq_ok.mp evaluation
          obtain ⟨order, -, evaluation⟩ := bind_eq_ok.mp evaluation
          exact waits.evaluate evaluation

/-- Negotiated terms are on the lines at once, and the order waits for a verdict: it is confirmed in
no run without one. -/
theorem negotiated_terms_wait {orderId : ℤ} {terms : NegotiatedTerms}
    (ok : adapterUpdateNegotiatedTerms base env orderId terms db = .ok after)
    (ops : List QuotationOp) :
    TermsWritten db orderId.toNat terms after ∧
      ((∀ t ∈ history (quotationStep base) ops after, ¬ Verdict t.1 t.2 orderId.toNat) →
        WaitsIn orderId.toNat (run (quotationStep base) ops after)) := by
  have written := negotiatedTerms_written ok
  refine ⟨written, fun noVerdict => ?_⟩
  have start : WaitsIn orderId.toNat after := by
    obtain ⟨before, order, -, row, -, waiting⟩ := written.order
    intro other found
    cases found.symm.trans row
    exact waiting
  exact (run_guarded (WaitsIn orderId.toNat) (fun now op => ¬ Verdict now op orderId.toNat) start
    (fun now op none waits => waits.step none) ops noVerdict).2

end Waiting

/-- Eight percent on the service line are more than it has, but no more than a rep may give. -/
def askedTerms : NegotiatedTerms :=
  { requestedDiscount := some 8, customerNote := some "by Friday" }

/-- The quotation after the customer has asked. -/
def askedQuote : Db :=
  settle serviceQuote (adapterUpdateNegotiatedTerms openOdoo
    { user := Group.dealflowPortal.member 9 } 1 askedTerms serviceQuote)

/-- The rep's confirmation does not go through. -/
theorem askedQuote_waits :
    TermsWritten serviceQuote 1 askedTerms askedQuote ∧
      WaitsIn 1 (run (quotationStep openOdoo)
        [{ env := salesRep, call := .addon (.confirmOrder sampleSigning true 1 none) }]
        askedQuote) := by
  have returns : (adapterUpdateNegotiatedTerms openOdoo { user := Group.dealflowPortal.member 9 } 1
      askedTerms serviceQuote).toOption.isSome = true := by decide +kernel
  have ok : adapterUpdateNegotiatedTerms openOdoo { user := Group.dealflowPortal.member 9 } 1
      askedTerms serviceQuote = .ok askedQuote := by
    unfold askedQuote
    cases result : adapterUpdateNegotiatedTerms openOdoo { user := Group.dealflowPortal.member 9 } 1
        askedTerms serviceQuote with
    | error e =>
        rw [result] at returns
        cases returns
    | ok after => rfl
  have unverified : verifyApprovalToken sampleSigning none 1 ≠ .ok true := by decide +kernel
  obtain ⟨written, waits⟩ := negotiated_terms_wait ok
    [{ env := salesRep, call := .addon (.confirmOrder sampleSigning true 1 none) }]
  refine ⟨written, waits fun t mem => ?_⟩
  rw [history_cons, history_nil, List.mem_singleton] at mem
  rw [mem]
  exact fun verdict => unverified verdict.2

end DealFlow.Addon
