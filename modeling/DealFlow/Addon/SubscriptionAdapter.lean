import DealFlow.Addon.AccountingAdapter
import DealFlow.Addon.SalesAdapter

/-!
# The subscription adapter on its own store

`dealflow_odoo/services/subscription_adapter.py` where neither an Odoo environment nor a client is
given.  The adapter keeps orders and renewal dates of its own and writes its invoices into the store
of the accounting adapter it shares.  Dates are text, as the source has them; those it computes are
read back with `strptime`.  Amounts are added up as doubles; a figure rounded to cents stands for
the double next to it.
-/

namespace DealFlow.Addon

open Lib

/-! ## Dates -/

structure CalendarDate where
  year : ℕ
  month : ℕ
  day : ℕ
  deriving DecidableEq, Repr

def isLeapYear (year : ℕ) : Bool :=
  year % 4 = 0 && (year % 100 ≠ 0 || year % 400 = 0)

/-- `calendar.monthrange(year, month)[1]`. -/
def daysInMonth (year month : ℕ) : ℕ :=
  if month = 2 then if isLeapYear year then 29 else 28
  else if month = 4 ∨ month = 6 ∨ month = 9 ∨ month = 11 then 30
  else 31

/-- A day that `datetime` has. -/
def CalendarDate.valid (d : CalendarDate) : Bool :=
  1 ≤ d.year && d.year ≤ 9999 && 1 ≤ d.month && d.month ≤ 12 && 1 ≤ d.day &&
    d.day ≤ daysInMonth d.year d.month

/-- A field of a date: decimal digits, one at least. -/
def dateField (digits : List Char) : Option ℕ :=
  if digits ≠ [] ∧ digits.all (·.isDigit) = true then
    some (digits.foldl (fun n c => 10 * n + (c.toNat - '0'.toNat)) 0)
  else none

/-- `datetime.strptime(text, "%Y-%m-%d")`. -/
def parseDate (text : List Char) : Option CalendarDate :=
  let year := text.takeWhile (· ≠ '-')
  let rest := (text.dropWhile (· ≠ '-')).drop 1
  let month := rest.takeWhile (· ≠ '-')
  let day := (rest.dropWhile (· ≠ '-')).drop 1
  if year.length = 4 ∧ month.length ≤ 2 ∧ day.length ≤ 2 then
    match dateField year, dateField month, dateField day with
    | some year, some month, some day =>
        let date : CalendarDate := { year, month, day }
        if date.valid = true then some date else none
    | _, _, _ => none
  else none

def twoDigits (n : ℕ) : String :=
  toString (n / 10) ++ toString (n % 10)

/-- `strftime("%Y-%m-%d")`, which on Linux does not pad the year. -/
def CalendarDate.text (d : CalendarDate) : String :=
  s!"{d.year}-{twoDigits d.month}-{twoDigits d.day}"

/-- What a call raises: an error of the integration, or the `ValueError` of a date past the last
year. -/
inductive SubscriptionError
  | integration (e : DealFlowIntegrationError)
  | valueError (message : String)
  deriving DecidableEq, Repr

/-- The day a period later.  A year from 29 February is 28 February; a month ends in the shorter
month. -/
def CalendarDate.addPeriod (d : CalendarDate) (interval : RecurringInterval) : CalendarDate :=
  match interval with
  | .year =>
      if CalendarDate.valid { d with year := d.year + 1 } = true then { d with year := d.year + 1 }
      else { d with year := d.year + 1, day := 28 }
  | .month =>
      let year := d.year + d.month / 12
      let month := d.month % 12 + 1
      { year, month, day := min d.day (daysInMonth year month) }

/-- `_add_billing_period`: a date that cannot be read counts as today. -/
def addBillingPeriod (today : CalendarDate) (startDate : String) (interval : RecurringInterval) :
    Except SubscriptionError String :=
  let cleanDate := (startDate.toList.takeWhile (· ≠ 'T')).takeWhile (· ≠ ' ')
  let next := ((parseDate cleanDate).getD today).addPeriod interval
  if next.valid = true then .ok next.text
  else .error (.valueError s!"year {next.year} is out of range")

/-! ## Recurring lines -/

/-- `str(line.get("product_name", line.get("name", ""))).lower()`. -/
def MockLine.productNameLower (line : MockLine) : String :=
  ((line.productName.or line.name).getD "").toLower

def MockLine.subtotal (line : MockLine) : ℚ :=
  match line.priceSubtotal with
  | some amount => float64 amount
  | none =>
      let qty := float64 ((line.productUomQty.or line.quantity).getD 1)
      float64 (float64 (qty * float64 line.priceUnit) *
        float64 (1 - float64 (float64 line.discount / 100)))

def MockLine.recurs (line : MockLine) : Bool :=
  line.isRecurring ||
    line.recurringInterval.any (["month", "year", "monthly", "yearly", "annual"].contains ·) ||
    occursIn "subscription" line.categoryName.toLower ||
    occursIn "subscription" line.productNameLower || occursIn "saas" line.productNameLower

def MockLine.normalizedInterval (line : MockLine) : RecurringInterval :=
  let interval := (line.recurringInterval.getD "").toLower
  if occursIn "year" interval || occursIn "annual" interval ||
      occursIn "annual" line.productNameLower || occursIn "year" line.productNameLower then .year
  else .month

def MockLine.mrr (line : MockLine) : ℚ :=
  match line.normalizedInterval with
  | .year => float64 (line.subtotal / 12)
  | .month => line.subtotal

def MockLine.arr (line : MockLine) : ℚ :=
  match line.normalizedInterval with
  | .year => line.subtotal
  | .month => float64 (line.subtotal * 12)

structure RecurringLine where
  line : MockLine
  calculatedSubtotal : ℚ
  normalizedInterval : RecurringInterval
  lineMrr : ℚ
  lineArr : ℚ
  deriving DecidableEq, Repr

def MockLine.parsed (line : MockLine) : RecurringLine :=
  { line
    calculatedSubtotal := roundTo 2 line.subtotal
    normalizedInterval := line.normalizedInterval
    lineMrr := roundTo 2 line.mrr
    lineArr := roundTo 2 line.arr }

structure ParsedOrder where
  hasRecurring : Bool
  hasOneTime : Bool
  oneTimeLines : List MockLine
  recurringLines : List RecurringLine
  oneTimeTotal : ℚ
  recurringMrr : ℚ
  recurringArr : ℚ
  billingInterval : Option RecurringInterval
  totalContractValue : ℚ
  deriving DecidableEq, Repr

/-- `parse_mixed_order`. -/
def parseMixedOrder (lines : List MockLine) : ParsedOrder :=
  let recurring := lines.filter (·.recurs)
  let oneTime := lines.filter (¬ ·.recurs)
  let oneTimeTotal := runningSum float64 (oneTime.map (·.subtotal))
  let recurringArr := runningSum float64 (recurring.map (·.arr))
  let yearly := recurring.countP (·.normalizedInterval = .year)
  let monthly := recurring.countP (·.normalizedInterval = .month)
  { hasRecurring := recurring ≠ []
    hasOneTime := oneTime ≠ []
    oneTimeLines := oneTime
    recurringLines := recurring.map (·.parsed)
    oneTimeTotal := roundTo 2 oneTimeTotal
    recurringMrr := roundTo 2 (runningSum float64 (recurring.map (·.mrr)))
    recurringArr := roundTo 2 recurringArr
    billingInterval :=
      if recurring = [] then none else if monthly < yearly then some .year else some .month
    totalContractValue := roundTo 2 (float64 (oneTimeTotal + recurringArr)) }

/-! ## The adapter -/

structure SubscriptionMetadata where
  renewalDate : String
  active : Bool
  deriving DecidableEq, Repr

structure SubscriptionAdapter where
  accountingAdapter : AccountingAdapter
  mockOrders : ℤ → Option MockOrder
  mockSubscriptionMetadata : ℤ → Option SubscriptionMetadata

inductive SubscriptionState
  | active | inactive | draft
  deriving DecidableEq, Repr

def SubscriptionState.value : SubscriptionState → String
  | .active => "active"
  | .inactive => "inactive"
  | .draft => "draft"

structure SubscriptionStatus where
  active : Bool
  renewalDate : String
  recurringInterval : RecurringInterval
  mrr : ℚ
  state : SubscriptionState
  arr : ℚ
  hasRecurring : Bool
  deriving DecidableEq, Repr

def SubscriptionStatus.amountToInvoice (status : SubscriptionStatus) : ℚ :=
  match status.recurringInterval with
  | .month => status.mrr
  | .year => status.arr

/-- The state of a subscription: what its metadata says, else what the order's state does. -/
def subscriptionState (order : MockOrder) (parsed : ParsedOrder)
    (metadata : Option SubscriptionMetadata) : SubscriptionState :=
  match metadata with
  | some metadata => if metadata.active then .active else .inactive
  | none =>
      if (order.state = .sale ∨ order.state = .done) ∧ parsed.hasRecurring = true then .active
      else if order.state = .draft ∨ order.state = .sent then .draft
      else .inactive

namespace SubscriptionAdapter

/-- `get_subscription_status`. -/
def getSubscriptionStatus (s : SubscriptionAdapter) (today : CalendarDate) (orderId : ℤ) :
    Except SubscriptionError SubscriptionStatus := do
  match s.mockOrders orderId with
  | none => .error (.integration (notFoundError s!"Sale order {orderId} not found."))
  | some order =>
      let parsed := parseMixedOrder order.lines
      let interval := parsed.billingInterval.getD .month
      let metadata := s.mockSubscriptionMetadata orderId
      let state := subscriptionState order parsed metadata
      let renewalDate ←
        match (metadata.map (·.renewalDate)).filter (· ≠ "") with
        | some date => .ok date
        | none => addBillingPeriod today (order.dateOrder.getD today.text) interval
      .ok
        { active := state = .active
          renewalDate
          recurringInterval := interval
          mrr := parsed.recurringMrr
          state
          arr := parsed.recurringArr
          hasRecurring := parsed.hasRecurring }

structure RenewalResult where
  orderId : ℤ
  renewalInvoiceId : ℤ
  renewalInvoiceName : String
  amountInvoiced : ℚ
  previousRenewalDate : String
  nextRenewalDate : String
  recurringInterval : RecurringInterval
  deriving DecidableEq, Repr

def renewalInvoice (orderId : ℤ) (order : MockOrder) (amount : ℚ) (today : CalendarDate)
    (newInvId : ℤ) : MockInvoice :=
  { name := s!"INV/{today.year}/SUB-{padded newInvId}"
    orderId
    invoiceOrigin := order.name.getD s!"SO-{orderId}" ++ " Renewal"
    amountTotal := amount
    amountResidual := amount
    dealflowDealId := order.dealflowDealId
    dealflowIsRecurring := true
    invoiceDate := today.text }

/-- The store with the renewal's invoice and the next renewal date. -/
def postRenewal (s : SubscriptionAdapter) (orderId : ℤ) (invoice : MockInvoice)
    (nextRenewalDate : String) : SubscriptionAdapter :=
  { s with
    accountingAdapter :=
      { s.accountingAdapter.setInvoice s.accountingAdapter.nextInvoiceId invoice with
        nextInvoiceId := s.accountingAdapter.nextInvoiceId + 1 }
    mockSubscriptionMetadata := fun id =>
      if id = orderId then some { renewalDate := nextRenewalDate, active := true }
      else s.mockSubscriptionMetadata id }

/-- The checks of a renewal, in the order they are made. -/
def renewalError (orderId : ℤ) (status : SubscriptionStatus) : Option DealFlowIntegrationError :=
  if status.hasRecurring = false ∧ status.mrr ≤ 0 then
    some (validationError s!"Order {orderId} has no recurring subscription items to renew.")
  else if status.mrr < 0 then
    some (validationError s!"Order {orderId} recurring revenue cannot be negative.")
  else if status.active = false then
    some (invalidStateError (s!"Cannot renew subscription for order {orderId} in " ++
      s!"'{status.state.value}' state. Order must be active ('sale' / 'done')."))
  else none

/-- `trigger_subscription_renewal`. -/
def triggerSubscriptionRenewal (s : SubscriptionAdapter) (today : CalendarDate) (orderId : ℤ) :
    Except SubscriptionError (RenewalResult × SubscriptionAdapter) := do
  let status ← s.getSubscriptionStatus today orderId
  match renewalError orderId status, s.mockOrders orderId with
  | some e, _ => .error (.integration e)
  | none, none => .error (.integration (notFoundError s!"Sale order {orderId} not found."))
  | none, some order =>
      let nextRenewalDate ← addBillingPeriod today status.renewalDate status.recurringInterval
      let amount := status.amountToInvoice
      let newInvId := s.accountingAdapter.nextInvoiceId
      let invoice := renewalInvoice orderId order amount today newInvId
      .ok
        ({ orderId
           renewalInvoiceId := newInvId
           renewalInvoiceName := invoice.name
           amountInvoiced := roundTo 2 amount
           previousRenewalDate := status.renewalDate
           nextRenewalDate
           recurringInterval := status.recurringInterval },
         s.postRenewal orderId invoice nextRenewalDate)

end SubscriptionAdapter

/-! ## What a call has read -/

section Calls

variable {s s' : SubscriptionAdapter} {today : CalendarDate} {orderId : ℤ}

/-- The renewal date that is stored for an order; an empty one counts as none. -/
def SubscriptionAdapter.storedDate (s : SubscriptionAdapter) (orderId : ℤ) : Option String :=
  ((s.mockSubscriptionMetadata orderId).map (·.renewalDate)).filter (· ≠ "")

/-- What the status of an order is read off.  Its renewal date comes from its metadata, else it is a
period after the order. -/
structure ReadsStatus (s : SubscriptionAdapter) (today : CalendarDate) (orderId : ℤ)
    (order : MockOrder) (status : SubscriptionStatus) : Prop where
  found : s.mockOrders orderId = some order
  state : status.state = subscriptionState order (parseMixedOrder order.lines)
    (s.mockSubscriptionMetadata orderId)
  active : status.active = decide (status.state = .active)
  interval : status.recurringInterval =
    (parseMixedOrder order.lines).billingInterval.getD .month
  mrr : status.mrr = (parseMixedOrder order.lines).recurringMrr
  arr : status.arr = (parseMixedOrder order.lines).recurringArr
  hasRecurring : status.hasRecurring = (parseMixedOrder order.lines).hasRecurring
  date : s.storedDate orderId = some status.renewalDate ∨
    s.storedDate orderId = none ∧
      addBillingPeriod today (order.dateOrder.getD today.text) status.recurringInterval =
        .ok status.renewalDate

theorem getSubscriptionStatus_ok {status : SubscriptionStatus}
    (ok : s.getSubscriptionStatus today orderId = .ok status) :
    ∃ order, ReadsStatus s today orderId order status := by
  unfold SubscriptionAdapter.getSubscriptionStatus at ok
  split at ok
  · cases ok
  next order found =>
    dsimp only at ok
    split at ok
    · next date stored =>
        cases ok
        exact ⟨order, found, rfl, rfl, rfl, rfl, rfl, rfl, .inl stored⟩
    · next none =>
        obtain ⟨date, computed, rest⟩ := bind_eq_ok.mp ok
        cases rest
        exact ⟨order, found, rfl, rfl, rfl, rfl, rfl, rfl, .inr ⟨none, computed⟩⟩

/-- What a renewal that goes through has read and computed. -/
structure RenewsBy (s s' : SubscriptionAdapter) (today : CalendarDate) (orderId : ℤ)
    (status : SubscriptionStatus) (order : MockOrder)
    (result : SubscriptionAdapter.RenewalResult) : Prop where
  read : ReadsStatus s today orderId order status
  passed : SubscriptionAdapter.renewalError orderId status = none
  next : addBillingPeriod today status.renewalDate status.recurringInterval =
    .ok result.nextRenewalDate
  renewed : result.orderId = orderId
  invoiceId : result.renewalInvoiceId = s.accountingAdapter.nextInvoiceId
  amount : result.amountInvoiced = roundTo 2 status.amountToInvoice
  after : s' = s.postRenewal orderId (SubscriptionAdapter.renewalInvoice orderId order
    status.amountToInvoice today s.accountingAdapter.nextInvoiceId) result.nextRenewalDate

theorem triggerSubscriptionRenewal_ok {result : SubscriptionAdapter.RenewalResult}
    (ok : s.triggerSubscriptionRenewal today orderId = .ok (result, s')) :
    ∃ status order, s.getSubscriptionStatus today orderId = .ok status ∧
      RenewsBy s s' today orderId status order result := by
  unfold SubscriptionAdapter.triggerSubscriptionRenewal at ok
  obtain ⟨status, status_ok, rest⟩ := bind_eq_ok.mp ok
  split at rest
  · cases rest
  · cases rest
  next order passed found =>
    obtain ⟨date, computed, posted⟩ := bind_eq_ok.mp rest
    obtain ⟨rfl, rfl⟩ := Prod.mk.inj (Except.ok.inj posted)
    obtain ⟨order', read⟩ := getSubscriptionStatus_ok status_ok
    obtain rfl : order = order' := Option.some.inj (found.symm.trans read.found)
    exact ⟨status, order, status_ok, read, passed, computed, rfl, rfl, rfl, rfl⟩

end Calls

end DealFlow.Addon
