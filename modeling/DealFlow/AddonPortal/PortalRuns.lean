import DealFlow.Addon.PortalController
import DealFlow.AddonGovernance.NegotiationCalls
import DealFlow.Lib.Run
import Mathlib.Tactic.Linarith

/-!
# Runs of portal calls

A counter-offer that the controller takes is one new negotiation, on an order that is the user's,
within its bounds, and the order waits for approval and is locked (`Submitted`).  Any other request
leaves the database as it was (`portalCallStep_cases`).

Whatever calls come in over the portal controller, and in whatever order:

* `strangers_leave_deal`: those who may not see a quotation are told so, and all they do leaves what
  others see of it as it was.
* `portal_offers_bounded`: each new negotiation was submitted by someone who may see the quotation,
  asks for no more than the quotation costs, and has its order waiting for approval under lock.  Of
  the orders nothing but the approval state and the lock changes, and no line does.
-/

namespace DealFlow.Addon

open Lib

/-! ## What an offer leaves behind -/

section Offers

variable {base : BaseOdoo} {fields : PortalFields}

/-- The bound of the amount that is proposed: what the quotation costs, or that in whole cents. -/
def offerCap (total : ℚ) : ℚ :=
  max total (roundTo 2 total)

theorem discounted_bounds {total discount : ℚ} (nonneg : 0 ≤ total) (low : 0 ≤ discount) :
    0 ≤ total * max 0 (1 - discount / 100) ∧ total * max 0 (1 - discount / 100) ≤ total := by
  have factor : max 0 (1 - discount / 100) ≤ (1 : ℚ) :=
    max_le (by norm_num) (by linarith)
  refine ⟨mul_nonneg nonneg (le_max_left _ _), ?_⟩
  calc total * max 0 (1 - discount / 100) ≤ total * 1 := mul_le_mul_of_nonneg_left factor nonneg
    _ = total := mul_one total

theorem roundTo_nonneg {x : ℚ} (nonneg : 0 ≤ x) : 0 ≤ roundTo 2 x := by
  have zero : roundTo 2 0 = 0 := roundTo_of_grid (n := 0) (by norm_num)
  exact zero ▸ roundTo_mono 2 nonneg

theorem proposedAmount_bounds {total discount : ℚ} (nonneg : 0 ≤ total) (low : 0 ≤ discount)
    (proposed : Option JsonValue) :
    let amount := proposedAmount fields total (roundTo 2 (total * max 0 (1 - discount / 100)))
      proposed
    0 ≤ amount ∧ amount ≤ offerCap total := by
  obtain ⟨above, below⟩ := discounted_bounds nonneg low
  have calculated : 0 ≤ roundTo 2 (total * max 0 (1 - discount / 100)) ∧
      roundTo 2 (total * max 0 (1 - discount / 100)) ≤ offerCap total :=
    ⟨roundTo_nonneg above, (roundTo_mono 2 below).trans (le_max_right _ _)⟩
  intro amount
  have cases : amount = roundTo 2 (total * max 0 (1 - discount / 100)) ∨
      0 ≤ amount ∧ amount ≤ total := by
    unfold amount proposedAmount
    split
    · exact .inl rfl
    · exact .inl rfl
    · split
      · exact .inl rfl
      · split
        · exact .inl rfl
        · next within =>
            rw [not_or, not_lt, not_lt] at within
            exact .inr within
  rcases cases with same | ⟨low, high⟩
  · rw [same]
    exact calculated
  · exact ⟨low, high.trans (le_max_left _ _)⟩

/-- The amount that the negotiation is created with. -/
theorem createdAmount_bounds {total discount : ℚ} (nonneg : 0 ≤ total) (low : 0 ≤ discount)
    (proposed : Option JsonValue) :
    let amount := proposedAmount fields total (roundTo 2 (total * max 0 (1 - discount / 100)))
      proposed
    let created := if amount = 0 then total * max 0 (1 - discount / 100) else amount
    0 ≤ created ∧ created ≤ offerCap total := by
  intro amount created
  unfold created
  split
  · obtain ⟨above, below⟩ := discounted_bounds nonneg low
    exact ⟨above, below.trans (le_max_left _ _)⟩
  · exact proposedAmount_bounds nonneg low proposed

variable (base fields) in
/-- The negotiation of an offer that is taken, with the database after it. -/
structure Submitted (user : User) (db : Db) (orderId : ℕ) (rec : DealFlowNegotiation)
    (after : Db) : Prop where
  order : ∃ order, db.orders.row orderId = some order ∧
    validateOrderAuthorization (fields.salesperson orderId) user order = true ∧
    order.state ≠ .cancel ∧ order.state ≠ .done
  saleOrderId : rec.saleOrderId = orderId
  status : rec.status = .submitted
  discount : 0 ≤ rec.requestedDiscount ∧ rec.requestedDiscount ≤ 100
  original : rec.originalAmount = base.amountTotal ((db.orderLine orderId).map (·.2))
  proposed : 0 ≤ rec.originalAmount →
    0 ≤ rec.proposedAmount ∧ rec.proposedAmount ≤ offerCap rec.originalAmount
  after : after =
    { db with
      orders := db.orders.modify [orderId] (·.assign (governanceVals .pendingApproval true))
      negotiations := db.negotiations.insert rec }

theorem offeredOrder_ok {user : User} {data : List (String × JsonValue)} {db : Db} {orderId : ℕ}
    {order : SaleOrder} (ok : offeredOrder fields user data db = .ok (orderId, order)) :
    0 < orderId ∧ db.orders.row orderId = some order ∧
      validateOrderAuthorization (fields.salesperson orderId) user order = true := by
  unfold offeredOrder at ok
  split at ok
  · cases ok
  · split at ok
    · cases ok
    · next orderId' =>
        split at ok
        · cases ok
        · next found =>
            split at ok
            · cases ok
            · next allowed =>
                cases ok
                obtain ⟨positive, row⟩ := browse_eq_some_iff.mp found
                exact ⟨by omega, row, Bool.not_eq_false _ ▸ allowed⟩

theorem offeredDiscount_ok {data : List (String × JsonValue)} {discount : ℚ}
    (ok : offeredDiscount fields data = .ok discount) : 0 ≤ discount ∧ discount ≤ 100 := by
  unfold offeredDiscount at ok
  split at ok
  · cases ok
  · split at ok
    · cases ok
    · next within =>
        cases ok
        rw [not_or, not_lt, not_lt] at within
        exact within

theorem givenAmount_getD (x : ℚ) : (givenAmount (some x)).getD x = x := by
  unfold givenAmount
  by_cases zero : x = 0
  · simp [Option.filter, zero]
  · simp [Option.filter, zero]

/-- The amounts of an offer when its negotiation is created: a proposal of nothing is worked out
again. -/
theorem populateAmounts_offer (orderId : ℕ) (total discount : ℚ) (proposed : Option JsonValue) :
    let calculated := roundTo 2 (total * max 0 (1 - discount / 100))
    let amount := proposedAmount fields total calculated proposed
    populateAmounts total (offerVals fields orderId total discount proposed) =
      { offerVals fields orderId total discount proposed with
        originalAmount := some total
        proposedAmount :=
          some (if amount = 0 then total * max 0 (1 - discount / 100) else amount) } := by
  intro calculated amount
  unfold populateAmounts offerVals
  dsimp only
  rw [givenAmount_getD]
  by_cases zero : amount = 0
  · have none : givenAmount (some amount) = Option.none := by
      simp [givenAmount, Option.filter, zero]
    rw [none, if_pos zero]
  · have given : givenAmount (some amount) = some amount := by
      simp [givenAmount, Option.filter, zero]
    rw [given, if_neg zero]

theorem checkedNegotiationVals_ok {env : Env} {vals : NegotiationVals} {db : Db}
    {entry : ℕ × NegotiationVals} (ok : checkedNegotiationVals base env db vals = .ok entry) :
    vals.saleOrderId = some entry.1 ∧
      entry.2 = populateAmounts (base.amountTotal ((db.orderLine entry.1).map (·.2))) vals := by
  unfold checkedNegotiationVals at ok
  split at ok
  · cases ok
  · next orderId named =>
      split at ok
      · cases ok
      · obtain ⟨-, -, ok⟩ := bind_eq_ok.mp ok
        obtain ⟨-, ok⟩ := require_bind_eq_ok.mp ok
        obtain rfl := Except.ok.inj ok
        exact ⟨(Option.filter_eq_some_iff.mp named).1, rfl⟩

/-- A negotiation created alone, in a superuser environment. -/
theorem createNegotiations_single {env : Env} {vals : NegotiationVals} {db after : Db}
    (ok : createNegotiations base env [vals] db = .ok after) :
    ∃ orderId, vals.saleOrderId = some orderId ∧
      after =
        { db with
          orders := db.orders.modify [orderId] (·.assign (governanceVals .pendingApproval true))
          negotiations := db.negotiations.insert
            (({ saleOrderId := orderId, submittedAt := env.now } : DealFlowNegotiation).assign
              { populateAmounts (base.amountTotal ((db.orderLine orderId).map (·.2))) vals with
                saleOrderId := some orderId }) } := by
  obtain ⟨checked, mapped, ok⟩ := bind_eq_ok.mp ok
  obtain ⟨created, loop, ok⟩ := bind_eq_ok.mp ok
  rw [List.mapM_cons, List.mapM_nil] at mapped
  obtain ⟨entry, valid, mapped⟩ := bind_eq_ok.mp mapped
  obtain rfl : [entry] = checked := Except.ok.inj mapped
  rw [List.foldlM_cons] at loop
  obtain ⟨now, wrote, done⟩ := bind_eq_ok.mp loop
  obtain rfl := Except.ok.inj done
  obtain rfl := Except.ok.inj ok
  rcases entry with ⟨orderId, filled⟩
  obtain ⟨named, same⟩ := checkedNegotiationVals_ok valid
  dsimp only at named same wrote
  subst same
  obtain ⟨-, -, wrote⟩ := bind_eq_ok.mp wrote
  obtain ⟨-, -, wrote⟩ := bind_eq_ok.mp wrote
  obtain rfl := Except.ok.inj wrote
  refine ⟨orderId, named, ?_⟩
  rw [List.foldl_cons, List.foldl_nil, governOrder_eq, if_neg fun refused => nomatch refused.1]

theorem checkedOffer_ok {user : User} {data : List (String × JsonValue)} {db : Db} {orderId : ℕ}
    {vals : NegotiationVals} (ok : checkedOffer base fields user data db = .ok (orderId, vals)) :
    ∃ order discount, db.orders.row orderId = some order ∧
      validateOrderAuthorization (fields.salesperson orderId) user order = true ∧
      (order.state ≠ .cancel ∧ order.state ≠ .done) ∧ (0 ≤ discount ∧ discount ≤ 100) ∧
      vals = offerVals fields orderId (base.amountTotal ((db.orderLine orderId).map (·.2))) discount
        (data.lookup "proposed_amount") := by
  obtain ⟨⟨id, order⟩, offered, ok⟩ := bind_eq_ok.mp ok
  obtain ⟨open', ok⟩ := require_bind_eq_ok.mp ok
  obtain ⟨discount, asked, ok⟩ := bind_eq_ok.mp ok
  obtain ⟨rfl, rfl⟩ := Prod.mk.inj (Except.ok.inj ok)
  obtain ⟨-, row, allowed⟩ := offeredOrder_ok offered
  exact ⟨order, discount, row, allowed, open', offeredDiscount_ok asked, rfl⟩

/-- An offer that passes the checks and is created. -/
theorem submitted_of_created {user : User} {data : List (String × JsonValue)} {db after : Db}
    {orderId : ℕ} {vals : NegotiationVals} {env : Env}
    (checked : checkedOffer base fields user data db = .ok (orderId, vals))
    (created : createNegotiations base env [vals] db = .ok after) :
    ∃ rec, Submitted base fields user db orderId rec after := by
  obtain ⟨order, discount, row, allowed, open', bounds, rfl⟩ := checkedOffer_ok checked
  obtain ⟨id, named, left⟩ := createNegotiations_single created
  obtain rfl : orderId = id := Option.some.inj named
  rw [populateAmounts_offer] at left
  refine ⟨_, ⟨order, row, allowed, open'⟩, rfl, rfl, bounds, rfl, fun nonneg => ?_, left⟩
  have total : 0 ≤ base.amountTotal ((db.orderLine orderId).map (·.2)) := nonneg
  exact @createdAmount_bounds fields _ discount total bounds.1 (data.lookup "proposed_amount")

variable (base fields) in
/-- What the calls do: an offer that is taken, or nothing. -/
theorem portalCallStep_cases (call : PortalCall) (db : Db) :
    portalCallStep base fields call db = db ∨
      ∃ user orderId rec, call.user = some user ∧
        Submitted base fields user db orderId rec (portalCallStep base fields call db) := by
  unfold portalCallStep servePortalCall
  split
  · exact .inl rfl
  · next data =>
      dsimp only
      unfold portalSubmitNegotiation
      cases asked : call.user with
      | none => exact .inl rfl
      | some user =>
          dsimp only
          split
          · exact .inl rfl
          · split
            · exact .inl rfl
            · next orderId vals checked =>
                split
                · exact .inl rfl
                · next after created =>
                    obtain ⟨rec, submitted⟩ := submitted_of_created checked created
                    exact .inr ⟨user, orderId, rec, rfl, submitted⟩

end Offers

/-! ## Runs -/

section Runs

variable {base : BaseOdoo} {fields : PortalFields}

/-! ### Strangers -/

/-- Nothing of one order has changed: neither itself, nor its lines, nor the negotiations on it. -/
structure SameDeal (orderId : ℕ) (db after : Db) : Prop where
  order : after.orders.row orderId = db.orders.row orderId
  lines : after.lines = db.lines
  negotiations : after.negotiationsOn orderId = db.negotiationsOn orderId

/-- An offer on one order changes nothing of another. -/
theorem Submitted.sameDeal {user : User} {db after : Db} {orderId other : ℕ}
    {rec : DealFlowNegotiation} (submitted : Submitted base fields user db orderId rec after)
    (ne : other ≠ orderId) : SameDeal other db after := by
  have notMem : other ∉ [orderId] := fun mem => ne (List.mem_singleton.mp mem)
  have foreign : rec.saleOrderId ≠ other := submitted.saleOrderId ▸ ne.symm
  rw [submitted.after]
  refine ⟨?_, rfl, ?_⟩
  · rw [Table.row_modify, if_neg notMem]
  · unfold Db.negotiationsOn
    rw [Table.entries_insert, List.filter_append, List.filter_singleton]
    simp [foreign]

/-- What the controller shows of an order are its row, its lines and its negotiations. -/
theorem SameDeal.portalGetDeal {orderId : ℕ} {db after : Db} (same : SameDeal orderId db after)
    (viewer : Option User) :
    portalGetDeal base fields viewer orderId after = portalGetDeal base fields viewer orderId db := by
  have browse : after.browse (orderId : ℤ) = db.browse orderId := by
    unfold Db.browse
    rw [Int.toNat_natCast, same.order]
  have lines : after.orderLine orderId = db.orderLine orderId := by
    unfold Db.orderLine
    rw [same.lines]
  unfold Addon.portalGetDeal portalDealView
  rw [browse, Int.toNat_natCast, lines, same.negotiations]

/-- A call that is about one order. -/
def PortalCall.Names (call : PortalCall) (orderId : ℕ) : Prop :=
  match call.request with
  | .getDeal id => id = orderId
  | .negotiate data => ∃ value, data.lookup "order_id" = some value ∧ value.int = some (orderId : ℤ)

/-- The look-up of an order that the user may not see. -/
theorem offeredOrder_stranger {user : User} {data : List (String × JsonValue)} {db : Db}
    {orderId : ℕ} {value : JsonValue} (named : data.lookup "order_id" = some value)
    (int : value.int = some (orderId : ℤ))
    (stranger : ∀ order, db.browse (orderId : ℤ) = some order →
      validateOrderAuthorization (fields.salesperson orderId) user order = false) :
    ∃ e, offeredOrder fields user data db = .error e := by
  unfold offeredOrder
  rw [named]
  cases truthy : value.truthy with
  | false => exact ⟨_, by rw [Option.filter_some_neg (by simp [truthy])]⟩
  | true =>
      rw [Option.filter_some_pos truthy]
      dsimp only
      rw [int]
      dsimp only
      cases browsed : db.browse (orderId : ℤ) with
      | none => exact ⟨_, rfl⟩
      | some order =>
          dsimp only
          rw [Int.toNat_natCast, if_pos (stranger order browsed)]
          exact ⟨_, rfl⟩

/-- Whoever may not see an order gets an error for an answer. -/
theorem servePortalCall_stranger {call : PortalCall} {orderId : ℕ} (names : call.Names orderId)
    {db : Db} {order : SaleOrder} (found : db.orders.row orderId = some order)
    (stranger : ∀ user, call.user = some user →
      validateOrderAuthorization (fields.salesperson orderId) user order = false) :
    ∃ e, (servePortalCall base fields call db).1 = .error e := by
  have denied : ∀ user, call.user = some user → ∀ seen, db.browse (orderId : ℤ) = some seen →
      validateOrderAuthorization (fields.salesperson orderId) user seen = false := by
    intro user asked seen browsed
    rw [browse_eq_some_iff, Int.toNat_natCast, found] at browsed
    exact Option.some.inj browsed.2 ▸ stranger user asked
  unfold PortalCall.Names at names
  unfold servePortalCall
  cases request : call.request with
  | getDeal id =>
      rw [request] at names
      obtain rfl : id = orderId := names
      dsimp only
      unfold portalGetDeal
      cases asked : call.user with
      | none => exact ⟨_, rfl⟩
      | some user =>
          dsimp only
          cases browsed : db.browse (orderId : ℤ) with
          | none => exact ⟨_, rfl⟩
          | some seen =>
              dsimp only
              rw [Int.toNat_natCast, if_pos (denied user asked seen browsed)]
              exact ⟨_, rfl⟩
  | negotiate data =>
      rw [request] at names
      obtain ⟨value, named, int⟩ := names
      dsimp only
      unfold portalSubmitNegotiation
      cases asked : call.user with
      | none => exact ⟨_, rfl⟩
      | some user =>
          dsimp only
          split
          · exact ⟨_, rfl⟩
          · obtain ⟨e, refused⟩ := offeredOrder_stranger named int (denied user asked)
            unfold checkedOffer
            rw [refused]
            exact ⟨_, rfl⟩

/-- Calls of those who may not see a quotation are answered with errors where they name it, and
leave what anyone sees of it as it was. -/
theorem strangers_leave_deal {db : Db} {orderId : ℕ} {order : SaleOrder}
    (found : db.orders.row orderId = some order) {calls : List PortalCall}
    (strangers : ∀ call ∈ calls, ∀ user, call.user = some user →
      validateOrderAuthorization (fields.salesperson orderId) user order = false) :
    (∀ t ∈ history (portalCallStep base fields) calls db, t.2.Names orderId →
      ∃ e, (servePortalCall base fields t.2 t.1).1 = .error e) ∧
    ∀ viewer, portalGetDeal base fields viewer orderId (run (portalCallStep base fields) calls db) =
      portalGetDeal base fields viewer orderId db := by
  have allowed := history_allowed (portalCallStep base fields) strangers db
  have kept : ∀ now call, (∀ user, call.user = some user →
      validateOrderAuthorization (fields.salesperson orderId) user order = false) →
      SameDeal orderId db now → SameDeal orderId db (portalCallStep base fields call now) := by
    intro now call stranger same
    rcases portalCallStep_cases base fields call now with
      idle | ⟨user, other, rec, asked, submitted⟩
    · rw [idle]
      exact same
    · have ne : orderId ≠ other := by
        rintro rfl
        obtain ⟨seen, row, sees, -⟩ := submitted.order
        rw [same.order, found] at row
        obtain rfl := Option.some.inj row
        cases (stranger user asked).symm.trans sees
      have step := submitted.sameDeal ne
      exact ⟨step.order.trans same.order, step.lines.trans same.lines,
        step.negotiations.trans same.negotiations⟩
  obtain ⟨before, after⟩ := @run_guarded _ _ (portalCallStep base fields) (SameDeal orderId db) _
    db ⟨rfl, rfl, rfl⟩ kept calls allowed
  refine ⟨fun t mem names => ?_, fun viewer => after.portalGetDeal viewer⟩
  exact servePortalCall_stranger names ((before t mem).order.trans found) (allowed t mem)

/-- Odoo's own fields without taxes and salespersons. -/
def plainFields : PortalFields where
  salesperson _ := none
  amountUntaxed := openOdoo.amountUntaxed
  amountTax _ := 0
  priceSubtotal line := line.gross * (1 - line.discount / 100)
  floatOfText _ := none

/-- A customer bargains over the quotation of another. -/
theorem stranger_bargains :
    let calls : List PortalCall :=
      [{ user := some (Group.member .dealflowPortal 9)
         request := .negotiate [("order_id", .number 1), ("requested_discount", .number 50)] }]
    (∀ t ∈ history (portalCallStep openOdoo plainFields) calls negotiatedQuote, t.2.Names 1 →
      ∃ e, (servePortalCall openOdoo plainFields t.2 t.1).1 = .error e) ∧
    ∀ viewer, portalGetDeal openOdoo plainFields viewer 1
        (run (portalCallStep openOdoo plainFields) calls negotiatedQuote) =
      portalGetDeal openOdoo plainFields viewer 1 negotiatedQuote := by
  intro calls
  have found : negotiatedQuote.orders.row 1 = some { name := "S00001", partner := { id := 3 } } := rfl
  refine strangers_leave_deal found ?_
  intro call mem user asked
  obtain rfl := List.mem_singleton.mp mem
  obtain rfl := Option.some.inj asked
  rfl

/-! ### Offers -/

variable (base fields) in
/-- A negotiation that a call of the run has submitted, on an order that waits under lock. -/
structure PortalOffer (past : List (Db × PortalCall)) (db now : Db) (rec : DealFlowNegotiation) :
    Prop where
  submitted : ∃ t ∈ past, ∃ user, t.2.user = some user ∧
    ∃ order, t.1.orders.row rec.saleOrderId = some order ∧
      validateOrderAuthorization (fields.salesperson rec.saleOrderId) user order = true
  status : rec.status = .submitted
  discount : 0 ≤ rec.requestedDiscount ∧ rec.requestedDiscount ≤ 100
  original : rec.originalAmount = base.amountTotal ((db.orderLine rec.saleOrderId).map (·.2))
  proposed : 0 ≤ rec.originalAmount →
    0 ≤ rec.proposedAmount ∧ rec.proposedAmount ≤ offerCap rec.originalAmount
  waits : ∀ order, now.orders.row rec.saleOrderId = some order →
    order.dealflowApprovalState = .pendingApproval ∧ order.dealflowLocked = true

variable (base fields) in
/-- What a run of portal calls leaves behind. -/
structure PortalOffers (past : List (Db × PortalCall)) (db now : Db) : Prop where
  lines : now.lines = db.lines
  orders : ∀ orderId, now.orders.row orderId = db.orders.row orderId ∨
    now.orders.row orderId =
      (db.orders.row orderId).map (·.assign (governanceVals .pendingApproval true))
  kept : ∀ id rec, db.negotiations.row id = some rec → now.negotiations.row id = some rec
  new : ∀ id rec, now.negotiations.row id = some rec →
    db.negotiations.row id = some rec ∨ PortalOffer base fields past db now rec

theorem Submitted.row {user : User} {db after : Db} {orderId : ℕ} {rec : DealFlowNegotiation}
    (submitted : Submitted base fields user db orderId rec after) (other : ℕ) :
    after.orders.row other =
      if other ∈ [orderId] then
        (db.orders.row other).map (·.assign (governanceVals .pendingApproval true))
      else db.orders.row other := by
  rw [submitted.after, Table.row_modify]

/-- The order of a submission waits under lock, and so does every order that did so before. -/
theorem Submitted.waits {user : User} {db after : Db} {orderId other : ℕ}
    {rec : DealFlowNegotiation} {order : SaleOrder}
    (submitted : Submitted base fields user db orderId rec after)
    (here : other = orderId ∨ ∀ o, db.orders.row other = some o →
      o.dealflowApprovalState = .pendingApproval ∧ o.dealflowLocked = true)
    (found : after.orders.row other = some order) :
    order.dealflowApprovalState = .pendingApproval ∧ order.dealflowLocked = true := by
  rw [submitted.row] at found
  split at found
  · obtain ⟨o, -, rfl⟩ := Option.map_eq_some_iff.mp found
    exact ⟨rfl, rfl⟩
  · next elsewhere =>
      exact here.resolve_left (mt List.mem_singleton.mpr elsewhere) order found

/-- What is submitted is an offer of the run. -/
theorem Submitted.offer {past : List (Db × PortalCall)} {user : User} {call : PortalCall}
    {db now after : Db} {orderId : ℕ} {rec : DealFlowNegotiation}
    (submitted : Submitted base fields user now orderId rec after) (asked : call.user = some user)
    (lines : now.lines = db.lines) :
    PortalOffer base fields (past ++ [(now, call)]) db after rec where
  submitted := by
    obtain ⟨seen, found, sees, -⟩ := submitted.order
    exact ⟨_, List.mem_append_right _ (List.mem_singleton_self _), user, asked, seen,
      submitted.saleOrderId ▸ found, submitted.saleOrderId ▸ sees⟩
  status := submitted.status
  discount := submitted.discount
  original := by
    rw [submitted.original, submitted.saleOrderId]
    unfold Db.orderLine
    rw [lines]
  proposed := submitted.proposed
  waits _ found := submitted.waits (.inl submitted.saleOrderId) found

/-- An offer stays one as long as its order waits. -/
theorem PortalOffer.later {past : List (Db × PortalCall)} {db now after : Db}
    {rec : DealFlowNegotiation} (offer : PortalOffer base fields past db now rec)
    (entry : Db × PortalCall)
    (waits : ∀ order, after.orders.row rec.saleOrderId = some order →
      order.dealflowApprovalState = .pendingApproval ∧ order.dealflowLocked = true) :
    PortalOffer base fields (past ++ [entry]) db after rec :=
  { offer with
    submitted := by
      obtain ⟨t, mem, rest⟩ := offer.submitted
      exact ⟨t, List.mem_append_left _ mem, rest⟩
    waits }

theorem PortalOffers.step {past : List (Db × PortalCall)} {db now : Db}
    (inv : PortalOffers base fields past db now) (call : PortalCall) :
    PortalOffers base fields (past ++ [(now, call)]) db (portalCallStep base fields call now) := by
  rcases portalCallStep_cases base fields call now with
    idle | ⟨user, orderId, rec, asked, submitted⟩
  · rw [idle]
    exact
      { inv with
        new := fun id rec row =>
          (inv.new id rec row).imp_right fun offer => offer.later _ offer.waits }
  · have negotiations : (portalCallStep base fields call now).negotiations =
        now.negotiations.insert rec := by
      rw [submitted.after]
    constructor
    case lines =>
      rw [submitted.after]
      exact inv.lines
    case orders =>
      intro other
      rw [submitted.row]
      split
      · rcases inv.orders other with same | governed
        · rw [same]
          exact .inr rfl
        · rw [governed, Option.map_map]
          exact .inr rfl
      · exact inv.orders other
    case kept =>
      intro id old row
      rw [negotiations]
      exact Table.row_insert_of_some (inv.kept id old row) rec
    case new =>
      intro id new row
      rw [negotiations, Table.row_insert] at row
      split at row
      · obtain rfl := Option.some.inj row
        exact .inr (submitted.offer asked inv.lines)
      · exact (inv.new id new row).imp_right fun offer =>
          offer.later _ fun order found => submitted.waits (.inr offer.waits) found

/-- Every negotiation of a run of portal calls is one there was or a bounded offer of someone who
may see the quotation, and nothing else changes but the approval state and the lock of the orders. -/
theorem portal_offers_bounded (db : Db) (calls : List PortalCall) :
    PortalOffers base fields (history (portalCallStep base fields) calls db) db
      (run (portalCallStep base fields) calls db) := by
  refine run_induction (motive := fun past now => PortalOffers base fields past db now)
    ⟨rfl, fun _ => .inl rfl, fun _ _ row => row, fun _ _ row => .inl row⟩ ?_ calls
  exact fun past now call inv => inv.step call

end Runs

end DealFlow.Addon
