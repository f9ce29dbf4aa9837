import DealFlow.Billing.BilledRevenue

/-!
# Renewals of dead orders

Whether a subscription is active is read off its order's state only as long as nothing is stored for
it.  A renewal stores that it is active, and from then on the state is not looked at again: an order
that was renewed once is renewed although it was cancelled since.  So no dead order is renewed along
a run exactly when each one that is asked for was never renewed, has nothing to bill or is at the
end of the calendar (`noDeadRenewal_iff`).
-/

namespace DealFlow.Addon

open Lib

/-- An order is to be renewed on a day, or its state changes. -/
inductive OrderOp
  | renew (orderId : ℤ) (today : CalendarDate)
  | setState (orderId : ℤ) (state : OrderState)

/-- The state of an order is written to its record. -/
def setOrderState (orderId : ℤ) (state : OrderState) (orders : ℤ → Option MockOrder) :
    ℤ → Option MockOrder := fun id =>
  if id = orderId then (orders id).map fun order => { order with state } else orders id

/-- A call that raises leaves the stores alone. -/
def OrderOp.step : OrderOp → SubscriptionAdapter → SubscriptionAdapter
  | .renew orderId today, s =>
      match s.triggerSubscriptionRenewal today orderId with
      | .error _ => s
      | .ok (_, renewed) => renewed
  | .setState orderId state, s =>
      { s with
        accountingAdapter :=
          { s.accountingAdapter with
            mockOrders := setOrderState orderId state s.accountingAdapter.mockOrders }
        mockOrders := setOrderState orderId state s.mockOrders }

/-- An order that is not confirmed, or not any more. -/
def MockOrder.dead (order : MockOrder) : Prop :=
  order.state = .draft ∨ order.state = .sent ∨ order.state = .cancel

/-- A renewal of a dead order raises. -/
def NoDeadRenewal (s : SubscriptionAdapter) (op : OrderOp) : Prop :=
  ∀ orderId today order, op = .renew orderId today → s.mockOrders orderId = some order →
    order.dead → ∃ e, s.triggerSubscriptionRenewal today orderId = .error e

/-- Why an order cannot be renewed on a day, whatever its state: nothing is stored for it, it has no
revenue to bill, or the date stored for it (the day itself if that cannot be read) is in the last
period of the calendar. -/
inductive NotRenewable (s : SubscriptionAdapter) (orderId : ℤ) (today : CalendarDate)
    (order : MockOrder) : Prop
  | neverRenewed (none : s.mockSubscriptionMetadata orderId = none)
  | nothing (none : (parseMixedOrder order.lines).hasRecurring = false)
  | negative (below : (parseMixedOrder order.lines).recurringMrr < 0)
  | lastPeriod (metadata : SubscriptionMetadata)
      (stored : s.mockSubscriptionMetadata orderId = some metadata)
      (last : (((readDate metadata.renewalDate).getD today).addPeriod
        (renewalInterval order.lines)).valid = false)

/-- A dead order that is to be renewed cannot be. -/
def DeadNotRenewable (s : SubscriptionAdapter) (op : OrderOp) : Prop :=
  ∀ orderId today order, op = .renew orderId today → s.mockOrders orderId = some order →
    order.dead → NotRenewable s orderId today order

/-- What renewals store: that a subscription is active, and a date. -/
def StoredActive (s : SubscriptionAdapter) : Prop :=
  ∀ id metadata, s.mockSubscriptionMetadata id = some metadata →
    metadata.active = true ∧ metadata.renewalDate ≠ ""

/-! ## One renewal -/

section Renewal

variable {s : SubscriptionAdapter} {orderId : ℤ} {order : MockOrder}

/-- A subscription that nothing is stored for is not active with a dead order. -/
theorem inactive_of_dead (dead : order.dead) (parsed : ParsedOrder) :
    subscriptionState order parsed none ≠ .active := by
  unfold subscriptionState
  dsimp only
  rcases dead with draft | sent | cancel
  · rw [draft]
    simp
  · rw [sent]
    simp
  · rw [cancel]
    simp

theorem raises_of_neverRenewed (found : s.mockOrders orderId = some order) (dead : order.dead)
    (none : s.mockSubscriptionMetadata orderId = none) (today : CalendarDate) :
    ∃ e, s.triggerSubscriptionRenewal today orderId = .error e := by
  cases renewed : s.triggerSubscriptionRenewal today orderId with
  | error e => exact ⟨e, rfl⟩
  | ok answer =>
      obtain ⟨status, order', -, renews⟩ := triggerSubscriptionRenewal_ok renewed
      obtain rfl : order = order' := Option.some.inj (found.symm.trans renews.read.found)
      have state := renews.read.state
      rw [none] at state
      have inactive : status.active = false := by
        rw [renews.read.active, state]
        exact decide_eq_false (inactive_of_dead dead _)
      have passed := renews.passed
      unfold SubscriptionAdapter.renewalError at passed
      rw [inactive] at passed
      split at passed
      · cases passed
      · split at passed
        · cases passed
        · simp at passed

/-- An order without recurring lines has no monthly revenue. -/
theorem mrr_of_nothing (none : (parseMixedOrder order.lines).hasRecurring = false) :
    (parseMixedOrder order.lines).recurringMrr = 0 := by
  have empty : order.lines.filter (·.recurs) = [] := by
    by_contra some
    have : (parseMixedOrder order.lines).hasRecurring = true := decide_eq_true some
    rw [this] at none
    cases none
  have zero : monthlyRevenue order.lines = 0 := by
    unfold monthlyRevenue
    rw [empty]
    rfl
  exact (congrArg (roundTo 2) zero).trans isCents_zero.roundTo_two

/-- What the status of an order reports that is stored as active. -/
def storedStatus (order : MockOrder) (metadata : SubscriptionMetadata) : SubscriptionStatus :=
  { active := true
    renewalDate := metadata.renewalDate
    recurringInterval := renewalInterval order.lines
    mrr := (parseMixedOrder order.lines).recurringMrr
    state := .active
    arr := (parseMixedOrder order.lines).recurringArr
    hasRecurring := (parseMixedOrder order.lines).hasRecurring }

theorem getSubscriptionStatus_of_stored {metadata : SubscriptionMetadata}
    (found : s.mockOrders orderId = some order)
    (stored : s.mockSubscriptionMetadata orderId = some metadata)
    (active : metadata.active = true) (dated : metadata.renewalDate ≠ "")
    (today : CalendarDate) :
    s.getSubscriptionStatus today orderId = .ok (storedStatus order metadata) := by
  have state : subscriptionState order (parseMixedOrder order.lines) (some metadata) = .active := by
    unfold subscriptionState
    exact if_pos active
  unfold SubscriptionAdapter.getSubscriptionStatus
  rw [found, stored]
  dsimp only
  rw [Option.map_some, Option.filter_some, if_pos (decide_eq_true dated), state]
  rfl

/-- A status that is stored as active is turned down for its revenue alone. -/
theorem renewalError_stored {metadata : SubscriptionMetadata} :
    SubscriptionAdapter.renewalError orderId (storedStatus order metadata) = none ↔
      (parseMixedOrder order.lines).hasRecurring = true ∧
        0 ≤ (parseMixedOrder order.lines).recurringMrr := by
  unfold SubscriptionAdapter.renewalError storedStatus
  dsimp only
  rw [if_neg (Bool.noConfusion : true ≠ false)]
  cases recurring : (parseMixedOrder order.lines).hasRecurring with
  | false =>
      rw [if_pos ⟨rfl, (mrr_of_nothing recurring).le⟩]
      exact iff_of_false nofun nofun
  | true =>
      rw [if_neg (nofun : ¬ (true = false ∧ _))]
      split
      · next negative => exact iff_of_false nofun fun both => both.2.not_gt negative
      · next nonneg => exact iff_of_true rfl ⟨rfl, not_lt.mp nonneg⟩

/-- A renewal of an order that is stored as active looks at its revenue and the calendar alone. -/
theorem raises_iff_of_stored {metadata : SubscriptionMetadata}
    (found : s.mockOrders orderId = some order)
    (stored : s.mockSubscriptionMetadata orderId = some metadata)
    (active : metadata.active = true) (dated : metadata.renewalDate ≠ "") (today : CalendarDate) :
    (∃ e, s.triggerSubscriptionRenewal today orderId = .error e) ↔
      (parseMixedOrder order.lines).hasRecurring = false ∨
        (parseMixedOrder order.lines).recurringMrr < 0 ∨
        (((readDate metadata.renewalDate).getD today).addPeriod
          (renewalInterval order.lines)).valid = false := by
  have status := getSubscriptionStatus_of_stored found stored active dated today
  have next : addBillingPeriod today (storedStatus order metadata).renewalDate
      (storedStatus order metadata).recurringInterval =
      let due := (readDate metadata.renewalDate).getD today
      if (due.addPeriod (renewalInterval order.lines)).valid = true then
        .ok (due.addPeriod (renewalInterval order.lines)).text
      else .error (.valueError
        s!"year {(due.addPeriod (renewalInterval order.lines)).year} is out of range") := rfl
  unfold SubscriptionAdapter.triggerSubscriptionRenewal
  rw [status]
  dsimp only [bind, Except.bind]
  rw [found, next]
  cases error : SubscriptionAdapter.renewalError orderId (storedStatus order metadata) with
  | some e =>
      refine iff_of_true ⟨_, rfl⟩ ?_
      by_contra sound
      push Not at sound
      obtain ⟨recurring, nonneg, -⟩ := sound
      rw [renewalError_stored.mpr ⟨Bool.not_eq_false _ |>.mp recurring, nonneg⟩] at error
      cases error
  | none =>
      obtain ⟨recurring, nonneg⟩ := renewalError_stored.mp error
      dsimp only
      by_cases valid : (((readDate metadata.renewalDate).getD today).addPeriod
          (renewalInterval order.lines)).valid = true
      · rw [if_pos valid, valid]
        refine iff_of_false nofun fun refused => ?_
        rcases refused with nothing | below | last
        · cases recurring.symm.trans nothing
        · exact nonneg.not_gt below
        · cases last
      · rw [if_neg valid]
        exact iff_of_true ⟨_, rfl⟩ (.inr (.inr (Bool.not_eq_true _ |>.mp valid)))

/-- Under what renewals store, a call on a dead order raises exactly when it cannot be renewed. -/
theorem noDeadRenewal_step_iff (stored : StoredActive s) (op : OrderOp) :
    NoDeadRenewal s op ↔ DeadNotRenewable s op := by
  refine forall₃_congr fun orderId today order => ?_
  refine forall₃_congr fun _ found dead => ?_
  cases metadata : s.mockSubscriptionMetadata orderId with
  | none =>
      exact iff_of_true (raises_of_neverRenewed found dead metadata today) (.neverRenewed metadata)
  | some held =>
      obtain ⟨active, dated⟩ := stored orderId held metadata
      rw [raises_iff_of_stored found metadata active dated]
      constructor
      · rintro (none | below | last)
        · exact .nothing none
        · exact .negative below
        · exact .lastPeriod held metadata last
      · intro refused
        cases refused with
        | neverRenewed none =>
            rw [metadata] at none
            cases none
        | nothing none => exact .inl none
        | negative below => exact .inr (.inl below)
        | lastPeriod other stored' last =>
            obtain rfl : held = other := Option.some.inj (metadata.symm.trans stored')
            exact .inr (.inr last)

end Renewal

/-! ## Runs -/

theorem StoredActive.step {s : SubscriptionAdapter} (stored : StoredActive s) (op : OrderOp) :
    StoredActive (op.step s) := by
  cases op with
  | setState orderId state => exact stored
  | renew orderId today =>
      unfold OrderOp.step
      dsimp only
      split
      · exact stored
      · next result after renewed =>
          obtain ⟨status, order, -, renews⟩ := triggerSubscriptionRenewal_ok renewed
          rw [renews.after]
          intro id metadata held
          by_cases same : id = orderId
          · obtain rfl := Option.some.inj (held.symm.trans (if_pos same))
            exact ⟨rfl, (addBillingPeriod_ok renews.next).1⟩
          · exact stored id metadata ((if_neg same).symm.trans held)

/-- From a store without preset subscriptions, no dead order is renewed along a run exactly when
every dead order that is to be renewed cannot be. -/
theorem noDeadRenewal_iff {s : SubscriptionAdapter}
    (fresh : ∀ id, s.mockSubscriptionMetadata id = none) (ops : List OrderOp) :
    (∀ t ∈ history OrderOp.step ops s, NoDeadRenewal t.1 t.2) ↔
      ∀ t ∈ history OrderOp.step ops s, DeadNotRenewable t.1 t.2 := by
  have start : StoredActive s := by
    intro id metadata held
    rw [fresh id] at held
    cases held
  exact run_forall_iff StoredActive start
    (fun now op (_ : True) stored => noDeadRenewal_step_iff stored op)
    (fun now op _ stored _ => stored.step op) ops fun _ _ => trivial

/-! ## A cancelled retainer -/

/-- One retainer that is confirmed, and one that is a draft. -/
def deskStore : SubscriptionAdapter :=
  let retainer : MockOrder :=
    { state := .sale
      dateOrder := some "2024-01-15"
      lines := [recurringLine "Retainer" "month" 100] }
  let orders : ℤ → Option MockOrder := fun id =>
    if id = 1 then some retainer
    else if id = 2 then some { retainer with state := .draft }
    else none
  { accountingAdapter := { mockOrders := orders }
    mockOrders := orders
    mockSubscriptionMetadata := fun _ => none }

/-- A draft is to be renewed, and an order that is cancelled before its first renewal. -/
def deskOps : List OrderOp :=
  [.renew 2 ⟨2024, 2, 15⟩, .setState 1 .cancel, .renew 1 ⟨2024, 2, 15⟩]

theorem deskOps_noDeadRenewal :
    (∀ id, deskStore.mockSubscriptionMetadata id = none) ∧
      ∀ t ∈ history OrderOp.step deskOps deskStore, NoDeadRenewal t.1 t.2 := by
  refine ⟨fun _ => rfl, (noDeadRenewal_iff (fun _ => rfl) deskOps).mpr fun t mem => ?_⟩
  simp only [deskOps, history_cons, history_nil, List.mem_cons, List.not_mem_nil, or_false] at mem
  rcases mem with rfl | rfl | rfl
  · rintro orderId today order - - -
    exact .neverRenewed rfl
  · rintro orderId today order renew - -
    cases renew
  · rintro orderId today order renew - -
    cases renew
    exact .neverRenewed (by decide +kernel)

/-- An order that was renewed and cancelled is renewed again. -/
theorem cancelledRetainer_renewed :
    (∀ id, deskStore.mockSubscriptionMetadata id = none) ∧
      ¬ ∀ t ∈ history OrderOp.step
          [.renew 1 ⟨2024, 2, 15⟩, .setState 1 .cancel, .renew 1 ⟨2024, 3, 15⟩] deskStore,
        NoDeadRenewal t.1 t.2 := by
  refine ⟨fun _ => rfl, fun safe => ?_⟩
  let cancelled := (OrderOp.setState 1 .cancel).step
    ((OrderOp.renew 1 ⟨2024, 2, 15⟩).step deskStore)
  have raises := safe (cancelled, .renew 1 ⟨2024, 3, 15⟩) (by simp [cancelled]) 1 ⟨2024, 3, 15⟩
  have dead : (cancelled.mockOrders 1).map (·.state) = some .cancel := by decide +kernel
  obtain ⟨order, found, state⟩ := Option.map_eq_some_iff.mp dead
  obtain ⟨e, raised⟩ := raises order rfl found (.inr (.inr state))
  have renewed : (cancelled.triggerSubscriptionRenewal ⟨2024, 3, 15⟩ 1).isOk = true := by
    decide +kernel
  rw [raised] at renewed
  cases renewed

end DealFlow.Addon
