import DealFlow.Addon.SubscriptionAdapter
import DealFlow.Lib.Cents
import DealFlow.Lib.Run

/-!
# An order is billed once

The guard of `create_invoice` adds up all active invoices of an order, and renewals are among them.
A call writes an invoice of its own order at most (`BillingCase`), so every one-off invoice of an
order bills its total (`Billed`), and whether a call bills the order again depends on two sums of
doubles: what its active renewals come to, and what they come to with its total read to the cent.
The order is billed exactly when it has no active one-off invoice as long as the first stays below
the total and the second does not (`billedOnce_iff`); the second never does over a total in cents
(`renewalsFit_of_billed`).
-/

namespace DealFlow.Addon

open Lib

/-- What is done to invoices: an order is billed, its subscription renewed, an invoice cancelled or
paid. -/
inductive BillingOp
  | createInvoice (orderId : ℤ) (today : Today)
  | renew (orderId : ℤ) (today : CalendarDate)
  | cancelInvoice (invoiceId : ℤ)
  | recordPayment (invoiceId : ℤ) (amount : Option ℚ)

namespace SubscriptionAdapter

def invoices (s : SubscriptionAdapter) : List (ℤ × MockInvoice) :=
  s.accountingAdapter.mockInvoices

def bill (s : SubscriptionAdapter) (orderId : ℤ) (today : Today) :
    Except DealFlowIntegrationError (AccountingAdapter.CreatedInvoice × AccountingAdapter) :=
  s.accountingAdapter.createInvoice orderId .outInvoice today

end SubscriptionAdapter

/-- A call that raises leaves the stores alone. -/
def BillingOp.step : BillingOp → SubscriptionAdapter → SubscriptionAdapter
  | .createInvoice orderId today, s =>
      match s.bill orderId today with
      | .error _ => s
      | .ok (_, accounting) => { s with accountingAdapter := accounting }
  | .renew orderId today, s =>
      match s.triggerSubscriptionRenewal today orderId with
      | .error _ => s
      | .ok (_, renewed) => renewed
  | .cancelInvoice invoiceId, s =>
      { s with accountingAdapter := s.accountingAdapter.cancelInvoice invoiceId }
  | .recordPayment invoiceId amount, s =>
      match s.accountingAdapter.recordPayment invoiceId amount with
      | .error _ => s
      | .ok (_, accounting) => { s with accountingAdapter := accounting }

/-- An invoice of the order that is not cancelled, a renewal or not. -/
def activeOf (orderId : ℤ) (renewal : Bool) (entry : ℤ × MockInvoice) : Bool :=
  entry.2.orderId = orderId ∧ entry.2.state ≠ .cancel ∧ entry.2.dealflowIsRecurring = renewal

def SubscriptionAdapter.activeOneOff (s : SubscriptionAdapter) (orderId : ℤ) :
    List (ℤ × MockInvoice) :=
  s.invoices.filter (activeOf orderId false)

/-- What an invoice of an order over this total bills, to the cent. -/
def billedShare (total : ℚ) (entry : ℤ × MockInvoice) : ℚ :=
  float64 (roundTo 2 (if entry.2.dealflowIsRecurring then entry.2.amountTotal else total))

/-- What the active renewals of an order add up to. -/
def SubscriptionAdapter.renewedAmount (s : SubscriptionAdapter) (orderId : ℤ) (total : ℚ) : ℚ :=
  runningSum float64 ((s.invoices.filter (activeOf orderId true)).map (billedShare total))

/-- What the active renewals of an order and its one-off invoices add up to. -/
def SubscriptionAdapter.billedAmount (s : SubscriptionAdapter) (orderId : ℤ) (total : ℚ) : ℚ :=
  let active := s.invoices.filter fun entry =>
    activeOf orderId false entry || activeOf orderId true entry
  runningSum float64 (active.map (billedShare total))

/-- A call that bills the order succeeds exactly when it has no active one-off invoice. -/
def BillsWhenUnbilled (orderId : ℤ) (s : SubscriptionAdapter) (op : BillingOp) : Prop :=
  ∀ today, op = .createInvoice orderId today →
    ((∃ billed, s.bill orderId today = .ok billed) ↔ s.activeOneOff orderId = [])

/-- Along a run the order has one active one-off invoice at most, and is billed exactly when it has
none. -/
structure BilledOnce (orderId : ℤ) (ops : List BillingOp) (start : SubscriptionAdapter) : Prop where
  atMostOne : ∀ before after, ops = before ++ after →
    ((run BillingOp.step before start).activeOneOff orderId).length ≤ 1
  succeeds : ∀ t ∈ history BillingOp.step ops start, BillsWhenUnbilled orderId t.1 t.2

/-- The order is confirmed over this total and has no invoice; the ids of invoices are keys of a
dictionary and below the next one. -/
structure Unbilled (orderId : ℤ) (total : ℚ) (s : SubscriptionAdapter) : Prop where
  order : ∃ order, s.accountingAdapter.mockOrders orderId = some order ∧
    (order.state = .sale ∨ order.state = .done) ∧ order.amountTotal = total
  noInvoice : ∀ entry ∈ s.invoices, entry.2.orderId ≠ orderId
  below : ∀ entry ∈ s.invoices, entry.1 < s.accountingAdapter.nextInvoiceId
  nodup : (s.invoices.map (·.1)).Nodup

/-- Renewals alone stay below the total, and make up for what the total loses to the cent where it
is billed. -/
def RenewalsFit (orderId : ℤ) (total : ℚ) (s : SubscriptionAdapter) : Prop :=
  if s.activeOneOff orderId = [] then s.renewedAmount orderId total < float64 total
  else float64 total ≤ s.billedAmount orderId total

def FitsWhenBilled (orderId : ℤ) (total : ℚ) (s : SubscriptionAdapter) (op : BillingOp) : Prop :=
  ∀ today, op = .createInvoice orderId today → RenewalsFit orderId total s

/-! ## What a call does to the invoices -/

/-- An invoice stays what it bills; it may be paid or cancelled. -/
structure Evolves (old new : ℤ × MockInvoice) : Prop where
  id : new.1 = old.1
  orderId : new.2.orderId = old.2.orderId
  moveType : new.2.moveType = old.2.moveType
  amountTotal : new.2.amountTotal = old.2.amountTotal
  recurring : new.2.dealflowIsRecurring = old.2.dealflowIsRecurring
  state : new.2.state = old.2.state ∨ new.2.state = .cancel

theorem Evolves.refl (entry : ℤ × MockInvoice) : Evolves entry entry :=
  ⟨rfl, rfl, rfl, rfl, rfl, .inl rfl⟩

/-- The orders' states and totals. -/
def billingTerms (a : AccountingAdapter) (orderId : ℤ) : Option (OrderState × ℚ) :=
  (a.mockOrders orderId).map fun order => (order.state, order.amountTotal)

/-- A call lets invoices evolve, or posts one. -/
inductive BillingCase (s : SubscriptionAdapter) (op : BillingOp) : Prop
  | evolved (terms : ∀ id, billingTerms (op.step s).accountingAdapter id =
        billingTerms s.accountingAdapter id)
      (next : (op.step s).accountingAdapter.nextInvoiceId = s.accountingAdapter.nextInvoiceId)
      (invoices : List.Forall₂ Evolves s.invoices (op.step s).invoices)
      (refused : ∀ orderId today, op = .createInvoice orderId today →
        ¬ ∃ billed, s.bill orderId today = .ok billed)
  | posted (invoice : MockInvoice)
      (terms : ∀ id, billingTerms (op.step s).accountingAdapter id =
        billingTerms s.accountingAdapter id)
      (next : (op.step s).accountingAdapter.nextInvoiceId = s.accountingAdapter.nextInvoiceId + 1)
      (invoices : (op.step s).invoices =
        s.invoices ++ [(s.accountingAdapter.nextInvoiceId, invoice)])
      (moveType : invoice.moveType = .outInvoice)
      (oneOff : invoice.dealflowIsRecurring = false →
        (billingTerms s.accountingAdapter invoice.orderId).map (·.2) = some invoice.amountTotal ∧
          ∃ today, op = .createInvoice invoice.orderId today ∧
            ∃ billed, s.bill invoice.orderId today = .ok billed)

theorem setInvoice_new {a : AccountingAdapter} {invoiceId : ℤ}
    (below : ∀ entry ∈ a.mockInvoices, entry.1 < invoiceId) (invoice : MockInvoice) :
    (a.setInvoice invoiceId invoice).mockInvoices = a.mockInvoices ++ [(invoiceId, invoice)] := by
  have fresh : invoiceId ∉ a.mockInvoices.map (·.1) := by
    intro mem
    obtain ⟨entry, memEntry, same⟩ := List.mem_map.mp mem
    exact absurd same (below entry memEntry).ne
  unfold AccountingAdapter.setInvoice
  rw [if_neg fresh]

theorem setInvoice_evolves {a : AccountingAdapter} {invoiceId : ℤ} {inv inv' : MockInvoice}
    (nodup : (a.mockInvoices.map (·.1)).Nodup) (found : a.findInvoice invoiceId = some inv)
    (evolves : Evolves (invoiceId, inv) (invoiceId, inv')) :
    List.Forall₂ Evolves a.mockInvoices (a.setInvoice invoiceId inv').mockInvoices := by
  obtain ⟨before, after, split, -⟩ := List.lookup_eq_some_iff.mp found
  have mem : (invoiceId, inv) ∈ a.mockInvoices := by
    rw [split]
    exact List.mem_append_right _ List.mem_cons_self
  unfold AccountingAdapter.setInvoice
  rw [if_pos (List.mem_map.mpr ⟨_, mem, rfl⟩)]
  rw [List.forall₂_map_right_iff, List.forall₂_same]
  intro entry memEntry
  split
  · next same =>
      have entryEq : entry = (invoiceId, inv) := List.inj_on_of_nodup_map nodup memEntry mem same
      rw [entryEq]
      exact evolves
  · exact .refl entry

/-- The invoices of an order as `create_invoice` sees them. -/
def orderSummaries (a : AccountingAdapter) (orderId : ℤ) : List AccountingAdapter.InvoiceSummary :=
  (a.mockInvoices.filter fun entry => entry.2.orderId = orderId).map fun entry =>
    AccountingAdapter.summary entry.1 entry.2

/-- A registered order is billed when the guard lets it and it is confirmed. -/
theorem createInvoice_ok_iff {a a' : AccountingAdapter} {orderId : ℤ} {moveType : MoveType}
    {today : Today} {order : MockOrder} (found : a.mockOrders orderId = some order) :
    (∃ created, a.createInvoice orderId moveType today = .ok (created, a')) ↔
      AccountingAdapter.doubleBillingError orderId order.amountTotal
          (AccountingAdapter.activeInvoices (orderSummaries a orderId)) = none ∧
        (order.state = .sale ∨ order.state = .done) ∧
        a' = a.postInvoice orderId order
          (AccountingAdapter.newInvoice orderId moveType today a.nextInvoiceId order) := by
  have invoices : a.getOrderInvoices orderId = .ok (orderSummaries a orderId) := by
    unfold AccountingAdapter.getOrderInvoices
    rw [found]
    rfl
  unfold AccountingAdapter.createInvoice
  rw [invoices, found]
  dsimp only
  split
  · next guard => exact iff_of_false nofun fun all => by rw [guard] at all; cases all.1
  next guard =>
    by_cases confirmed : order.state = .sale ∨ order.state = .done
    · rw [if_neg (by tauto)]
      constructor
      · rintro ⟨created, ok⟩
        exact ⟨guard, confirmed, (Prod.mk.inj (Except.ok.inj ok)).2.symm⟩
      · rintro ⟨-, -, rfl⟩
        exact ⟨_, rfl⟩
    · rw [if_pos (by tauto)]
      exact iff_of_false nofun fun all => confirmed all.2.1

theorem createInvoice_ok {a a' : AccountingAdapter} {orderId : ℤ} {moveType : MoveType}
    {today : Today} {created : AccountingAdapter.CreatedInvoice}
    (ok : a.createInvoice orderId moveType today = .ok (created, a')) :
    ∃ order, a.mockOrders orderId = some order ∧ a' = a.postInvoice orderId order
      (AccountingAdapter.newInvoice orderId moveType today a.nextInvoiceId order) := by
  cases found : a.mockOrders orderId with
  | none =>
      unfold AccountingAdapter.createInvoice AccountingAdapter.getOrderInvoices at ok
      rw [found] at ok
      cases ok
  | some order => exact ⟨order, rfl, ((createInvoice_ok_iff found).mp ⟨created, ok⟩).2.2⟩

theorem billingTerms_congr {a a' : AccountingAdapter} (orders : a'.mockOrders = a.mockOrders)
    (id : ℤ) : billingTerms a' id = billingTerms a id := by
  unfold billingTerms
  rw [orders]

theorem billingTerms_postInvoice {a : AccountingAdapter} {orderId : ℤ} {order : MockOrder}
    (found : a.mockOrders orderId = some order) (invoice : MockInvoice) (id : ℤ) :
    billingTerms (a.postInvoice orderId order invoice) id = billingTerms a id := by
  unfold billingTerms AccountingAdapter.postInvoice
  dsimp only
  split
  · next same =>
      rw [same, found]
      rfl
  · rfl

theorem recordPayment_ok {a a' : AccountingAdapter} {invoiceId : ℤ} {amount : Option ℚ}
    {result : AccountingAdapter.PaymentResult}
    (nodup : (a.mockInvoices.map (·.1)).Nodup)
    (ok : a.recordPayment invoiceId amount = .ok (result, a')) :
    a'.mockOrders = a.mockOrders ∧ a'.nextInvoiceId = a.nextInvoiceId ∧
      List.Forall₂ Evolves a.mockInvoices a'.mockInvoices := by
  unfold AccountingAdapter.recordPayment at ok
  obtain ⟨-, rest⟩ := require_bind_eq_ok.mp ok
  obtain ⟨summary, -, rest⟩ := bind_eq_ok.mp rest
  obtain ⟨-, paid⟩ := require_bind_eq_ok.mp rest
  obtain ⟨-, stored⟩ := Prod.mk.inj (Except.ok.inj paid)
  split at stored
  · rw [← stored]
    exact ⟨rfl, rfl, List.forall₂_same.mpr fun entry _ => .refl entry⟩
  · next inv found =>
      rw [← stored]
      exact ⟨rfl, rfl, setInvoice_evolves nodup found ⟨rfl, rfl, rfl, rfl, rfl, .inl rfl⟩⟩

theorem cancelInvoice_evolves {a : AccountingAdapter} (invoiceId : ℤ)
    (nodup : (a.mockInvoices.map (·.1)).Nodup) :
    (a.cancelInvoice invoiceId).mockOrders = a.mockOrders ∧
      (a.cancelInvoice invoiceId).nextInvoiceId = a.nextInvoiceId ∧
      List.Forall₂ Evolves a.mockInvoices (a.cancelInvoice invoiceId).mockInvoices := by
  unfold AccountingAdapter.cancelInvoice
  split
  · exact ⟨rfl, rfl, List.forall₂_same.mpr fun entry _ => .refl entry⟩
  · next inv found =>
      exact ⟨rfl, rfl, setInvoice_evolves nodup found ⟨rfl, rfl, rfl, rfl, rfl, .inr rfl⟩⟩

section Cases

variable {s : SubscriptionAdapter}

/-- A call that fails leaves everything as it was. -/
theorem BillingCase.same {op : BillingOp} (same : op.step s = s)
    (refused : ∀ orderId today, op = .createInvoice orderId today →
      ¬ ∃ billed, s.bill orderId today = .ok billed) : BillingCase s op := by
  refine .evolved ?_ ?_ ?_ refused
  · rw [same]
    exact fun _ => rfl
  · rw [same]
  · rw [same]
    exact List.forall₂_same.mpr fun entry _ => .refl entry

theorem billing_case_createInvoice
    (below : ∀ entry ∈ s.invoices, entry.1 < s.accountingAdapter.nextInvoiceId) (orderId : ℤ)
    (today : Today) : BillingCase s (.createInvoice orderId today) := by
  cases billed : s.bill orderId today with
  | error e =>
      refine .same (by simp only [BillingOp.step, billed]) ?_
      rintro id day eq ⟨created, ok⟩
      cases eq
      rw [billed] at ok
      cases ok
  | ok created =>
      obtain ⟨created, after⟩ := created
      obtain ⟨order, found, posted⟩ := createInvoice_ok billed
      have state : (BillingOp.step (.createInvoice orderId today) s).accountingAdapter = after := by
        simp only [BillingOp.step, billed]
      refine .posted (AccountingAdapter.newInvoice orderId .outInvoice today
        s.accountingAdapter.nextInvoiceId order) ?_ ?_ ?_ rfl ?_
      · intro id
        rw [state, posted]
        exact billingTerms_postInvoice found _ id
      · rw [state, posted]
        rfl
      · unfold SubscriptionAdapter.invoices
        rw [state, posted]
        exact setInvoice_new below _
      · refine fun _ => ⟨?_, today, rfl, _, billed⟩
        change (billingTerms s.accountingAdapter orderId).map (·.2) = some order.amountTotal
        unfold billingTerms
        rw [found]
        rfl

theorem billing_case_renew
    (below : ∀ entry ∈ s.invoices, entry.1 < s.accountingAdapter.nextInvoiceId) (orderId : ℤ)
    (today : CalendarDate) : BillingCase s (.renew orderId today) := by
  cases renewed : s.triggerSubscriptionRenewal today orderId with
  | error e => exact .same (by simp only [BillingOp.step, renewed]) nofun
  | ok result =>
      obtain ⟨result, after⟩ := result
      obtain ⟨status, order, -, -, -, -, -, -, -, posted⟩ := triggerSubscriptionRenewal_ok renewed
      have state : BillingOp.step (.renew orderId today) s = after := by
        simp only [BillingOp.step, renewed]
      refine .posted (SubscriptionAdapter.renewalInvoice orderId order status.amountToInvoice today
        s.accountingAdapter.nextInvoiceId) ?_ ?_ ?_ rfl nofun
      · rw [state, posted]
        exact fun _ => rfl
      · rw [state, posted]
        rfl
      · unfold SubscriptionAdapter.invoices
        rw [state, posted]
        exact setInvoice_new below _

theorem billing_case_recordPayment (nodup : (s.invoices.map (·.1)).Nodup) (invoiceId : ℤ)
    (amount : Option ℚ) : BillingCase s (.recordPayment invoiceId amount) := by
  cases paid : s.accountingAdapter.recordPayment invoiceId amount with
  | error e => exact .same (by simp only [BillingOp.step, paid]) nofun
  | ok result =>
      obtain ⟨result, after⟩ := result
      obtain ⟨orders, next, invoices⟩ := recordPayment_ok nodup paid
      have state : (BillingOp.step (.recordPayment invoiceId amount) s).accountingAdapter =
          after := by
        simp only [BillingOp.step, paid]
      refine .evolved ?_ ?_ ?_ nofun
      · rw [state]
        exact billingTerms_congr orders
      · rw [state, next]
      · unfold SubscriptionAdapter.invoices
        rw [state]
        exact invoices

theorem billing_case (below : ∀ entry ∈ s.invoices, entry.1 < s.accountingAdapter.nextInvoiceId)
    (nodup : (s.invoices.map (·.1)).Nodup) (op : BillingOp) : BillingCase s op := by
  cases op with
  | createInvoice orderId today => exact billing_case_createInvoice below orderId today
  | renew orderId today => exact billing_case_renew below orderId today
  | cancelInvoice invoiceId =>
      obtain ⟨orders, next, invoices⟩ := cancelInvoice_evolves invoiceId nodup
      exact .evolved (billingTerms_congr orders) next invoices nofun
  | recordPayment invoiceId amount => exact billing_case_recordPayment nodup invoiceId amount

end Cases

/-! ## The invoices of the order -/

theorem evolves_ids {old new : List (ℤ × MockInvoice)} (evolved : List.Forall₂ Evolves old new) :
    new.map (·.1) = old.map (·.1) := by
  induction evolved with
  | nil => rfl
  | cons first _ ih => rw [List.map_cons, List.map_cons, first.id, ih]

theorem evolves_mem {old new : List (ℤ × MockInvoice)} (evolved : List.Forall₂ Evolves old new)
    {entry : ℤ × MockInvoice} (mem : entry ∈ new) : ∃ before ∈ old, Evolves before entry := by
  induction evolved with
  | nil => cases mem
  | cons first _ ih =>
      rcases List.mem_cons.mp mem with rfl | later
      · exact ⟨_, List.mem_cons_self, first⟩
      · obtain ⟨before, memOld, evolves⟩ := ih later
        exact ⟨before, List.mem_cons_of_mem _ memOld, evolves⟩

/-- No invoice becomes active. -/
theorem evolves_activeOneOff {orderId : ℤ} {old new : List (ℤ × MockInvoice)}
    (evolved : List.Forall₂ Evolves old new) :
    (new.filter (activeOf orderId false)).length ≤
      (old.filter (activeOf orderId false)).length := by
  induction evolved with
  | nil => exact le_rfl
  | @cons before after _ _ first _ ih =>
      have stays : activeOf orderId false after = true → activeOf orderId false before = true := by
        unfold activeOf
        rw [first.orderId, first.recurring]
        rcases first.state with same | cancelled
        · rw [same]
          exact id
        · simp [cancelled]
      rw [List.filter_cons, List.filter_cons]
      split
      · next active =>
          rw [if_pos (stays active)]
          exact Nat.succ_le_succ ih
      · split
        · exact ih.trans (Nat.le_succ _)
        · exact ih

/-- The one-off invoices of the order bill its total, and one of them at most is active. -/
structure Billed (orderId : ℤ) (total : ℚ) (s : SubscriptionAdapter) : Prop where
  terms : ∃ state, billingTerms s.accountingAdapter orderId = some (state, total) ∧
    (state = .sale ∨ state = .done)
  below : ∀ entry ∈ s.invoices, entry.1 < s.accountingAdapter.nextInvoiceId
  nodup : (s.invoices.map (·.1)).Nodup
  moveType : ∀ entry ∈ s.invoices, entry.2.orderId = orderId → entry.2.moveType = .outInvoice
  amount : ∀ entry ∈ s.invoices, entry.2.orderId = orderId →
    entry.2.dealflowIsRecurring = false → entry.2.amountTotal = total
  atMostOne : (s.activeOneOff orderId).length ≤ 1

theorem Unbilled.billed {orderId : ℤ} {total : ℚ} {s : SubscriptionAdapter}
    (unbilled : Unbilled orderId total s) : Billed orderId total s := by
  obtain ⟨order, found, confirmed, amount⟩ := unbilled.order
  have none : s.activeOneOff orderId = [] := by
    refine List.filter_eq_nil_iff.mpr fun entry mem active => ?_
    exact unbilled.noInvoice entry mem (of_decide_eq_true active).1
  refine ⟨⟨order.state, ?_, confirmed⟩, unbilled.below, unbilled.nodup, ?_, ?_, ?_⟩
  · unfold billingTerms
    rw [found, ← amount]
    rfl
  · intro entry mem same
    exact absurd same (unbilled.noInvoice entry mem)
  · intro entry mem same
    exact absurd same (unbilled.noInvoice entry mem)
  · rw [none]
    exact Nat.zero_le 1

section Step

variable {orderId : ℤ} {total : ℚ} {s s' : SubscriptionAdapter}

theorem Billed.evolved (billed : Billed orderId total s)
    (terms : ∀ id, billingTerms s'.accountingAdapter id = billingTerms s.accountingAdapter id)
    (next : s'.accountingAdapter.nextInvoiceId = s.accountingAdapter.nextInvoiceId)
    (invoices : List.Forall₂ Evolves s.invoices s'.invoices) : Billed orderId total s' := by
  refine ⟨?_, ?_, ?_, ?_, ?_, ?_⟩
  · rw [terms]
    exact billed.terms
  · intro entry mem
    obtain ⟨before, memOld, evolves⟩ := evolves_mem invoices mem
    rw [evolves.id, next]
    exact billed.below before memOld
  · rw [evolves_ids invoices]
    exact billed.nodup
  · intro entry mem same
    obtain ⟨before, memOld, evolves⟩ := evolves_mem invoices mem
    rw [evolves.moveType]
    exact billed.moveType before memOld (evolves.orderId ▸ same)
  · intro entry mem same oneOff
    obtain ⟨before, memOld, evolves⟩ := evolves_mem invoices mem
    rw [evolves.amountTotal]
    exact billed.amount before memOld (evolves.orderId ▸ same) (evolves.recurring ▸ oneOff)
  · exact (evolves_activeOneOff invoices).trans billed.atMostOne

/-- A new invoice of the order that is no renewal bills its total, and is its only active one. -/
theorem Billed.posted (billed : Billed orderId total s) {invoice : MockInvoice}
    (terms : ∀ id, billingTerms s'.accountingAdapter id = billingTerms s.accountingAdapter id)
    (next : s'.accountingAdapter.nextInvoiceId = s.accountingAdapter.nextInvoiceId + 1)
    (invoices : s'.invoices = s.invoices ++ [(s.accountingAdapter.nextInvoiceId, invoice)])
    (moveType : invoice.moveType = .outInvoice)
    (amount : invoice.orderId = orderId → invoice.dealflowIsRecurring = false →
      invoice.amountTotal = total)
    (alone : activeOf orderId false (s.accountingAdapter.nextInvoiceId, invoice) = true →
      s.activeOneOff orderId = []) : Billed orderId total s' := by
  refine ⟨?_, ?_, ?_, ?_, ?_, ?_⟩
  · rw [terms]
    exact billed.terms
  · rw [invoices, next, List.forall_mem_append]
    refine ⟨fun entry mem => (billed.below entry mem).trans (Int.lt_succ _), ?_⟩
    intro entry mem
    rw [List.mem_singleton.mp mem]
    exact Int.lt_succ _
  · rw [invoices, List.map_append, List.map_singleton, List.nodup_append]
    refine ⟨billed.nodup, List.nodup_singleton _, ?_⟩
    intro id mem other memNew
    obtain ⟨entry, memEntry, rfl⟩ := List.mem_map.mp mem
    rw [List.mem_singleton.mp memNew]
    exact (billed.below entry memEntry).ne
  · rw [invoices, List.forall_mem_append]
    refine ⟨billed.moveType, fun entry mem _ => ?_⟩
    rw [List.mem_singleton.mp mem]
    exact moveType
  · rw [invoices, List.forall_mem_append]
    refine ⟨billed.amount, fun entry mem same oneOff => ?_⟩
    rw [List.mem_singleton.mp mem] at same oneOff ⊢
    exact amount same oneOff
  · unfold SubscriptionAdapter.activeOneOff
    rw [invoices, List.filter_append, List.length_append, List.filter_cons, List.filter_nil]
    by_cases active : activeOf orderId false (s.accountingAdapter.nextInvoiceId, invoice) = true
    · have none := alone active
      unfold SubscriptionAdapter.activeOneOff at none
      rw [none, if_pos active]
      exact le_rfl
    · rw [if_neg active]
      exact billed.atMostOne

/-- Unless the order is billed a second time, what is known of its invoices stays true. -/
theorem Billed.step (billed : Billed orderId total s) {op : BillingOp}
    (once : ∀ today, op = .createInvoice orderId today →
      (∃ created, s.bill orderId today = .ok created) → s.activeOneOff orderId = []) :
    Billed orderId total (op.step s) := by
  cases billing_case billed.below billed.nodup op with
  | evolved terms next invoices refused => exact billed.evolved terms next invoices
  | posted invoice terms next invoices moveType oneOff =>
      obtain ⟨state, known, confirmed⟩ := billed.terms
      refine billed.posted terms next invoices moveType (fun same notRenewal => ?_) fun active => ?_
      · have amount := (oneOff notRenewal).1
        rw [same, known] at amount
        exact (Option.some.inj amount).symm
      · obtain ⟨same, -, notRenewal⟩ := of_decide_eq_true active
        obtain ⟨-, today, isBilling, made⟩ := oneOff notRenewal
        dsimp only at same
        rw [same] at isBilling made
        exact once today isBilling made

end Step

/-! ## When an order is billed again -/

/-- The guard lets an order through as long as less is billed than its total. -/
theorem doubleBillingError_none_iff {orderId : ℤ} {total : ℚ}
    {active : List AccountingAdapter.InvoiceSummary} (positive : 0 < float64 total) :
    AccountingAdapter.doubleBillingError orderId total active = none ↔
      runningSum float64 (active.map fun inv => float64 inv.amountTotal) < float64 total := by
  unfold AccountingAdapter.doubleBillingError
  dsimp only
  by_cases empty : active = []
  · rw [if_pos empty, empty]
    exact iff_of_true rfl positive
  · rw [if_neg empty]
    by_cases full :
        float64 total ≤ runningSum float64 (active.map fun inv => float64 inv.amountTotal)
    · rw [if_pos ⟨positive, full⟩]
      exact iff_of_false nofun full.not_gt
    · rw [if_neg fun both => full both.2, if_neg positive.ne']
      exact iff_of_true rfl (not_le.mp full)

/-- In doubles, eight renewals of 0.10 come to less than 0.80. -/
example :
    AccountingAdapter.doubleBillingError 1 (8 / 10) (List.replicate 8
      (AccountingAdapter.summary 1001
        { name := "INV/2026/1001"
          orderId := 1
          invoiceOrigin := "SO-1"
          amountTotal := 1 / 10
          amountResidual := 1 / 10
          invoiceDate := "2026-01-31" })) = none := by
  decide +kernel

/-- What counts as billed are the active one-off invoices and the active renewals. -/
theorem activeInvoices_eq {orderId : ℤ} {invoices : List (ℤ × MockInvoice)}
    (moveType : ∀ entry ∈ invoices, entry.2.orderId = orderId → entry.2.moveType = .outInvoice) :
    AccountingAdapter.activeInvoices
        ((invoices.filter fun entry => entry.2.orderId = orderId).map fun entry =>
          AccountingAdapter.summary entry.1 entry.2) =
      (invoices.filter fun entry => activeOf orderId false entry || activeOf orderId true entry).map
        fun entry => AccountingAdapter.summary entry.1 entry.2 := by
  unfold AccountingAdapter.activeInvoices
  rw [List.filter_map, List.filter_filter]
  refine congrArg _ (List.filter_congr fun entry mem => ?_)
  by_cases same : entry.2.orderId = orderId
  · have out := moveType entry mem same
    cases recurring : entry.2.dealflowIsRecurring <;>
      simp [activeOf, AccountingAdapter.summary, same, out, recurring]
  · simp [activeOf, same]

/-- What the guard adds up: the active one-off invoices and the active renewals, each to the
cent. -/
theorem activeTotal_eq {orderId : ℤ} {total : ℚ} {s : SubscriptionAdapter}
    (billed : Billed orderId total s) :
    runningSum float64 ((AccountingAdapter.activeInvoices
        (orderSummaries s.accountingAdapter orderId)).map fun inv => float64 inv.amountTotal) =
      s.billedAmount orderId total := by
  unfold SubscriptionAdapter.billedAmount
  have counted :
      AccountingAdapter.activeInvoices (orderSummaries s.accountingAdapter orderId) = _ :=
    activeInvoices_eq billed.moveType
  rw [counted, List.map_map]
  refine congrArg _ (List.map_congr_left fun entry mem => ?_)
  obtain ⟨memInvoices, active⟩ := List.mem_filter.mp mem
  unfold billedShare
  rcases Bool.or_eq_true _ _ ▸ active with oneOff | renewal
  · obtain ⟨same, -, notRenewal⟩ := of_decide_eq_true oneOff
    rw [if_neg (by rw [notRenewal]; exact Bool.false_ne_true),
      ← billed.amount entry memInvoices same notRenewal]
    rfl
  · obtain ⟨-, -, recurring⟩ := of_decide_eq_true renewal
    rw [if_pos recurring]
    rfl

/-- Without a one-off invoice the renewals are all that is billed. -/
theorem billedAmount_of_unbilled {orderId : ℤ} {s : SubscriptionAdapter}
    (unbilled : s.activeOneOff orderId = []) (total : ℚ) :
    s.billedAmount orderId total = s.renewedAmount orderId total := by
  unfold SubscriptionAdapter.billedAmount SubscriptionAdapter.renewedAmount
  refine congrArg (runningSum float64 <| List.map (billedShare total) ·) (List.filter_congr ?_)
  intro entry mem
  have notOneOff : activeOf orderId false entry = false :=
    Bool.eq_false_iff.mpr (List.filter_eq_nil_iff.mp unbilled entry mem)
  rw [notOneOff, Bool.false_or]

theorem bill_ok_iff {orderId : ℤ} {total : ℚ} {s : SubscriptionAdapter}
    (billed : Billed orderId total s) (positive : 0 < float64 total) (today : Today) :
    (∃ created, s.bill orderId today = .ok created) ↔
      s.billedAmount orderId total < float64 total := by
  obtain ⟨state, known, confirmed⟩ := billed.terms
  unfold billingTerms at known
  obtain ⟨order, found, terms⟩ := Option.map_eq_some_iff.mp known
  obtain ⟨rfl, rfl⟩ := Prod.mk.inj terms
  have guard : (∃ created, s.bill orderId today = .ok created) ↔
      AccountingAdapter.doubleBillingError orderId order.amountTotal
        (AccountingAdapter.activeInvoices (orderSummaries s.accountingAdapter orderId)) = none := by
    constructor
    · rintro ⟨⟨created, after⟩, ok⟩
      exact ((createInvoice_ok_iff found).mp ⟨created, ok⟩).1
    · intro passed
      obtain ⟨created, ok⟩ := (createInvoice_ok_iff found).mpr ⟨passed, confirmed, rfl⟩
      exact ⟨_, ok⟩
  rw [guard, doubleBillingError_none_iff positive, activeTotal_eq billed]

/-- An order in cents that has its one-off invoice is billed in full. -/
theorem renewalsFit_of_billed {orderId : ℤ} {total : ℚ} {s : SubscriptionAdapter}
    (cents : IsCents total) (nonneg : 0 ≤ total)
    (renewals : ∀ entry ∈ s.invoices, activeOf orderId true entry = true →
      0 ≤ entry.2.amountTotal)
    (billed : s.activeOneOff orderId ≠ []) : RenewalsFit orderId total s := by
  obtain ⟨oneOff, mem⟩ := List.exists_mem_of_ne_nil _ billed
  obtain ⟨memInvoices, active⟩ := List.mem_filter.mp mem
  obtain ⟨-, -, notRenewal⟩ := of_decide_eq_true active
  unfold RenewalsFit
  rw [if_neg billed]
  have share : billedShare total oneOff = float64 total := by
    unfold billedShare
    rw [if_neg (by rw [notRenewal]; exact Bool.false_ne_true), cents.roundTo_two]
  rw [← share]
  refine le_runningSum rounds_float64 ?_ (List.mem_map.mpr ⟨oneOff, ?_, rfl⟩)
    (rounds_float64.idem _)
  · intro x memShares
    obtain ⟨entry, memActive, rfl⟩ := List.mem_map.mp memShares
    obtain ⟨memEntry, either⟩ := List.mem_filter.mp memActive
    refine rounds_float64.nonneg ?_
    rw [← isCents_zero.roundTo_two]
    refine roundTo_mono 2 ?_
    split
    · next recurring =>
        refine renewals entry memEntry (decide_eq_true ?_)
        rcases Bool.or_eq_true _ _ ▸ either with oneOff | renewal
        · exact absurd ((of_decide_eq_true oneOff).2.2.symm.trans recurring) Bool.false_ne_true
        · exact of_decide_eq_true renewal
    · exact nonneg
  · exact List.mem_filter.mpr ⟨memInvoices, Bool.or_eq_true _ _ ▸ .inl active⟩

/-- A call bills the order exactly when it should, as long as the renewals fit. -/
theorem billsWhenUnbilled_iff {orderId : ℤ} {total : ℚ} {s : SubscriptionAdapter}
    (billed : Billed orderId total s) (positive : 0 < float64 total) (op : BillingOp) :
    BillsWhenUnbilled orderId s op ↔ FitsWhenBilled orderId total s op := by
  refine forall₂_congr fun today _ => ?_
  rw [bill_ok_iff billed positive]
  unfold RenewalsFit
  by_cases none : s.activeOneOff orderId = []
  · rw [if_pos none, billedAmount_of_unbilled none]
    exact iff_true_right none
  · rw [if_neg none, iff_false_right none, not_lt]

/-- Over a run from an order that has no invoice, the order is billed once exactly when at every
call that bills it its renewals fit. -/
theorem billedOnce_iff {orderId : ℤ} {total : ℚ} {start : SubscriptionAdapter}
    (unbilled : Unbilled orderId total start) (positive : 0 < float64 total)
    (ops : List BillingOp) :
    BilledOnce orderId ops start ↔
      ∀ t ∈ history BillingOp.step ops start, FitsWhenBilled orderId total t.1 t.2 := by
  have same : ∀ now op, Billed orderId total now →
      (BillsWhenUnbilled orderId now op ↔ FitsWhenBilled orderId total now op) :=
    fun now op billed => billsWhenUnbilled_iff billed positive op
  have kept : ∀ now op, FitsWhenBilled orderId total now op → Billed orderId total now →
      Billed orderId total (op.step now) := by
    intro now op fits billed
    exact billed.step fun today isBilling =>
      ((same now op billed).mpr fits today isBilling).mp
  have steps : (∀ t ∈ history BillingOp.step ops start, BillsWhenUnbilled orderId t.1 t.2) ↔
      ∀ t ∈ history BillingOp.step ops start, FitsWhenBilled orderId total t.1 t.2 :=
    run_forall_iff (Billed orderId total) unbilled.billed
      (fun now op (_ : True) => same now op) (fun now op _ billed fits => kept now op fits billed)
      ops fun _ _ => trivial
  constructor
  · exact fun once => steps.mp once.succeeds
  · intro fits
    refine ⟨?_, steps.mpr fits⟩
    rintro before after rfl
    rw [history_append] at fits
    exact (run_guarded (Billed orderId total) (FitsWhenBilled orderId total) unbilled.billed kept
      before fun t mem => fits t (List.mem_append_left _ mem)).2.atMostOne

/-! ## A hybrid order -/

/-- A laptop, and support by the month. -/
def hybridOrder : MockOrder :=
  { state := .sale
    amountTotal := 100
    lines :=
      [{ productName := some "Laptop", priceUnit := 40 },
       { productName := some "Support", priceUnit := 60, isRecurring := true,
         recurringInterval := some "month" }] }

def hybridStore : SubscriptionAdapter :=
  { accountingAdapter := { mockOrders := fun id => if id = 1 then some hybridOrder else none }
    mockOrders := fun id => if id = 1 then some hybridOrder else none
    mockSubscriptionMetadata := fun _ => none }

def hybridDay : CalendarDate :=
  { year := 2026, month := 1, day := 31 }

def hybridToday : Today :=
  { year := 2026, date := hybridDay.text }

theorem hybridStore_unbilled : Unbilled 1 100 hybridStore :=
  { order := ⟨hybridOrder, rfl, .inl rfl, rfl⟩
    noInvoice := fun _ mem => absurd mem List.not_mem_nil
    below := fun _ mem => absurd mem List.not_mem_nil
    nodup := List.nodup_nil }

instance (orderId : ℤ) (total : ℚ) (s : SubscriptionAdapter) :
    Decidable (RenewalsFit orderId total s) :=
  inferInstanceAs (Decidable (if s.activeOneOff orderId = []
    then s.renewedAmount orderId total < float64 total
    else float64 total ≤ s.billedAmount orderId total))

/-- Billed, renewed, paid, cancelled and billed again. -/
theorem hybridStore_billedOnce :
    BilledOnce 1
      [.createInvoice 1 hybridToday, .renew 1 hybridDay, .recordPayment 1001 (some 30),
       .createInvoice 1 hybridToday, .cancelInvoice 1001, .createInvoice 1 hybridToday]
      hybridStore := by
  refine (billedOnce_iff hybridStore_unbilled (by decide +kernel) _).mpr fun t mem => ?_
  simp only [history_cons, history_nil, List.mem_cons, List.not_mem_nil, or_false] at mem
  rcases mem with rfl | rfl | rfl | rfl | rfl | rfl
  · exact fun _ _ => by decide +kernel
  · exact nofun
  · exact nofun
  · exact fun _ _ => by decide +kernel
  · exact nofun
  · exact fun _ _ => by decide +kernel

/-- Two renewals come to more than the order's total, and it cannot be billed. -/
theorem hybridStore_never_billed :
    Unbilled 1 100 hybridStore ∧ 0 < float64 100 ∧
      ¬ BilledOnce 1 [.renew 1 hybridDay, .renew 1 hybridDay, .createInvoice 1 hybridToday]
        hybridStore := by
  refine ⟨hybridStore_unbilled, by decide +kernel, fun once => ?_⟩
  let renewed := (BillingOp.renew 1 hybridDay).step ((BillingOp.renew 1 hybridDay).step hybridStore)
  have unbilled : renewed.activeOneOff 1 = [] := by decide +kernel
  have billable := once.succeeds (renewed, .createInvoice 1 hybridToday)
    (by simp [renewed, history_cons]) hybridToday rfl
  obtain ⟨created, ok⟩ := billable.mpr unbilled
  have refused : (renewed.bill 1 hybridToday).toOption.isSome = false := by decide +kernel
  rw [ok] at refused
  cases refused

end DealFlow.Addon
