import DealFlow.Billing.BilledOnce
import Mathlib.Data.List.TakeWhile

/-!
# Renewals advance

A renewal computes the next renewal date before it touches a store, and the date it computes is a
later one: a month has a successor and a day is only ever moved back within it
(`CalendarDate.lt_addPeriod`).  Where the year has four digits, what it stores can be read again
(`readDate_text`), and every call of a run finds a date to advance (`RenewalBooks`).  A year before
1000 is stored with fewer digits, and that no call can read: so renewals advance along a run exactly
when none is put off to such a year (`renewals_run_iff`).  The invoice that is posted has the id
that the shared counter has reached.
-/

namespace DealFlow.Addon

open Lib

/-! ## Dates as text -/

instance : LT CalendarDate where
  lt d e := d.year < e.year ∨
    d.year = e.year ∧ (d.month < e.month ∨ d.month = e.month ∧ d.day < e.day)

/-- The day a text names, with or without a time behind it. -/
def readDate (text : String) : Option CalendarDate :=
  parseDate ((text.toList.takeWhile (· ≠ 'T')).takeWhile (· ≠ ' '))

def IsIsoDate (text : String) : Prop :=
  ∃ d, readDate text = some d

theorem parseDate_valid {text : List Char} {d : CalendarDate} (read : parseDate text = some d) :
    d.valid = true := by
  unfold parseDate at read
  dsimp only at read
  split at read
  · split at read
    · split at read
      · next valid =>
          cases read
          exact valid
      · cases read
    · cases read
  · cases read

theorem ne_of_isDigit {c c' : Char} (digit : c.isDigit = true) (other : c'.isDigit = false) :
    c ≠ c' := by
  rintro rfl
  rw [digit] at other
  cases other

/-- Digits are read as the number they write. -/
theorem dateField_eq_some {digits : List Char} (some : digits ≠ [])
    (all : ∀ c ∈ digits, c.isDigit = true) :
    dateField digits = Option.some (Nat.ofDigitChars 10 digits 0) :=
  if_pos ⟨some, List.all_eq_true.mpr all⟩

theorem toString_year (year : ℕ) : (toString year).toList = Nat.toDigits 10 year := by
  rw [Nat.toString_eq_repr, Nat.toList_repr]

theorem length_year_iff {year : ℕ} (bound : year ≤ 9999) :
    (Nat.toDigits 10 year).length = 4 ↔ 1000 ≤ year := by
  have most := (Nat.length_toDigits_le_iff (b := 10) (by omega) (by omega : 0 < 4)).mpr
    (by omega : year < 10 ^ 4)
  have three := Nat.length_toDigits_le_iff (b := 10) (n := year) (by omega) (by omega : 0 < 3)
  constructor
  · intro four
    by_contra early
    have short := three.mpr (by omega)
    omega
  · intro late
    by_contra short
    have early := three.mp (by omega)
    omega

theorem isDigit_year {year : ℕ} : ∀ c ∈ Nat.toDigits 10 year, c.isDigit = true :=
  fun _ mem => Nat.isDigit_of_mem_toDigits (by omega) (by omega) mem

theorem dateField_year {year : ℕ} : dateField (Nat.toDigits 10 year) = some year := by
  rw [dateField_eq_some Nat.toDigits_ne_nil isDigit_year, Nat.ofDigitChars_ten_toDigits]

theorem twoDigits_toList {n : ℕ} (bound : n < 100) :
    (twoDigits n).toList = [Nat.digitChar (n / 10), Nat.digitChar (n % 10)] := by
  unfold twoDigits
  rw [String.toList_append, Nat.toString_eq_repr, Nat.toString_eq_repr, Nat.toList_repr,
    Nat.toList_repr, Nat.toDigits_of_lt_base (by omega), Nat.toDigits_of_lt_base (by omega)]
  rfl

theorem twoDigits_isDigit {n : ℕ} (bound : n < 100) :
    ∀ c ∈ (twoDigits n).toList, c.isDigit = true := by
  rw [twoDigits_toList bound]
  intro c mem
  have tens : n / 10 < 10 := by omega
  have ones : n % 10 < 10 := by omega
  rcases List.mem_cons.mp mem with rfl | mem
  · exact Nat.isDigit_digitChar.trans (decide_eq_true tens)
  · rw [List.mem_singleton.mp mem]
    exact Nat.isDigit_digitChar.trans (decide_eq_true ones)

theorem dateField_twoDigits {n : ℕ} (bound : n < 100) :
    dateField (twoDigits n).toList = some n := by
  have nonempty : (twoDigits n).toList ≠ [] := by
    rw [twoDigits_toList bound]
    exact List.cons_ne_nil _ _
  rw [dateField_eq_some nonempty (twoDigits_isDigit bound), twoDigits_toList bound,
    Nat.ofDigitChars_cons_digitChar_of_lt_ten (by omega),
    Nat.ofDigitChars_cons_digitChar_of_lt_ten (by omega), Nat.ofDigitChars_nil]
  congr 1
  omega

theorem twoDigits_length {n : ℕ} (bound : n < 100) : (twoDigits n).toList.length = 2 := by
  rw [twoDigits_toList bound]
  rfl

theorem CalendarDate.text_toList (d : CalendarDate) :
    d.text.toList = Nat.toDigits 10 d.year ++
      '-' :: ((twoDigits d.month).toList ++ '-' :: (twoDigits d.day).toList) := by
  rw [← toString_year]
  unfold CalendarDate.text
  simp only [String.toList_append, List.append_assoc]
  rfl

theorem valid_iff {d : CalendarDate} :
    d.valid = true ↔ 1 ≤ d.year ∧ d.year ≤ 9999 ∧ 1 ≤ d.month ∧ d.month ≤ 12 ∧ 1 ≤ d.day ∧
      d.day ≤ daysInMonth d.year d.month := by
  unfold CalendarDate.valid
  simp only [Bool.and_eq_true, decide_eq_true_eq, and_assoc]

theorem daysInMonth_bounds (year month : ℕ) :
    28 ≤ daysInMonth year month ∧ daysInMonth year month ≤ 31 := by
  unfold daysInMonth
  split
  · split <;> omega
  · split <;> omega

/-- A day that is written can be read where its year has four digits. -/
theorem readDate_text {d : CalendarDate} (valid : d.valid = true) :
    readDate d.text = if 1000 ≤ d.year then some d else none := by
  obtain ⟨-, year, -, month, -, day⟩ := valid_iff.mp valid
  have days := (daysInMonth_bounds d.year d.month).2
  have month' : d.month < 100 := by omega
  have day' : d.day < 100 := by omega
  have other : ∀ c' : Char, c'.isDigit = false → c' ≠ '-' → ∀ c ∈ d.text.toList, c ≠ c' := by
    intro c' noDigit noDash c mem
    rw [CalendarDate.text_toList] at mem
    simp only [List.mem_append, List.mem_cons] at mem
    rcases mem with digit | rfl | digit | rfl | digit
    · exact ne_of_isDigit (isDigit_year c digit) noDigit
    · exact noDash.symm
    · exact ne_of_isDigit (twoDigits_isDigit month' c digit) noDigit
    · exact noDash.symm
    · exact ne_of_isDigit (twoDigits_isDigit day' c digit) noDigit
  have clean : (d.text.toList.takeWhile (· ≠ 'T')).takeWhile (· ≠ ' ') = d.text.toList := by
    have noT : ∀ c ∈ d.text.toList, decide (c ≠ 'T') = true :=
      fun c mem => decide_eq_true (other 'T' rfl (by decide) c mem)
    have noBlank : ∀ c ∈ d.text.toList, decide (c ≠ ' ') = true :=
      fun c mem => decide_eq_true (other ' ' rfl (by decide) c mem)
    rw [List.takeWhile_eq_self_iff.mpr noT, List.takeWhile_eq_self_iff.mpr noBlank]
  -- each field ends at the dash behind it
  have field : ∀ digits rest : List Char, (∀ c ∈ digits, c.isDigit = true) →
      (digits ++ '-' :: rest).takeWhile (· ≠ '-') = digits ∧
        ((digits ++ '-' :: rest).dropWhile (· ≠ '-')).drop 1 = rest := by
    intro digits rest all
    have apart : ∀ c ∈ digits, decide (c ≠ '-') = true := fun c mem =>
      decide_eq_true (ne_of_isDigit (all c mem) rfl)
    rw [List.takeWhile_append_of_pos apart, List.dropWhile_append_of_pos apart]
    simp
  have first := field (Nat.toDigits 10 d.year)
    ((twoDigits d.month).toList ++ '-' :: (twoDigits d.day).toList) isDigit_year
  have second := field (twoDigits d.month).toList (twoDigits d.day).toList
    (twoDigits_isDigit month')
  unfold readDate parseDate
  dsimp only
  rw [clean, CalendarDate.text_toList, first.1, first.2, second.1, second.2]
  by_cases late : 1000 ≤ d.year
  · rw [if_pos ⟨(length_year_iff year).mpr late, (twoDigits_length month').le,
        (twoDigits_length day').le⟩,
      dateField_year, dateField_twoDigits month', dateField_twoDigits day', if_pos late]
    exact if_pos valid
  · rw [if_neg late, if_neg fun fields => late ((length_year_iff year).mp fields.1)]

/-- A day that is written is not the empty text. -/
theorem CalendarDate.text_ne_empty (d : CalendarDate) : d.text ≠ "" := by
  intro empty
  have digits := congrArg String.toList empty
  rw [CalendarDate.text_toList] at digits
  exact absurd (List.append_eq_nil_iff.mp digits).2 (List.cons_ne_nil _ _)

/-- A period later is a later day. -/
theorem CalendarDate.lt_addPeriod {d : CalendarDate} (valid : d.valid = true)
    (interval : RecurringInterval) : d < d.addPeriod interval := by
  obtain ⟨-, -, -, month, -, -⟩ := valid_iff.mp valid
  unfold CalendarDate.addPeriod
  cases interval with
  | year =>
      left
      dsimp only
      split <;> exact Nat.lt_succ_self _
  | month =>
      rcases month.lt_or_eq with within | last
      · refine .inr ⟨?_, .inl ?_⟩
        · change d.year = d.year + d.month / 12
          omega
        · change d.month < d.month % 12 + 1
          omega
      · left
        change d.year < d.year + d.month / 12
        omega

theorem CalendarDate.year_le_addPeriod (d : CalendarDate) (interval : RecurringInterval) :
    d.year ≤ (d.addPeriod interval).year := by
  unfold CalendarDate.addPeriod
  cases interval with
  | year =>
      dsimp only
      split <;> exact Nat.le_succ _
  | month => exact Nat.le_add_right _ _

/-- The next billing day can be read where its year has four digits. -/
theorem addBillingPeriod_ok {today : CalendarDate} {start next : String}
    {interval : RecurringInterval} (ok : addBillingPeriod today start interval = .ok next) :
    next ≠ "" ∧
      readDate next =
        if 1000 ≤ (((readDate start).getD today).addPeriod interval).year then
          some (((readDate start).getD today).addPeriod interval)
        else none := by
  unfold addBillingPeriod at ok
  dsimp only at ok
  split at ok
  · next valid =>
      rw [← Except.ok.inj ok]
      exact ⟨CalendarDate.text_ne_empty _, readDate_text valid⟩
  · cases ok

/-! ## Calls -/

/-- A call to renew an order on a day, which no clock puts into the first millennium. -/
structure RenewalCall where
  orderId : ℤ
  today : CalendarDate
  real : today.valid = true
  recent : 1000 ≤ today.year

/-- A call that raises leaves the stores alone. -/
def RenewalCall.step (call : RenewalCall) (s : SubscriptionAdapter) : SubscriptionAdapter :=
  match s.triggerSubscriptionRenewal call.today call.orderId with
  | .error _ => s
  | .ok (_, renewed) => renewed

/-- The ids of the invoices are below the next one, and the dates kept are dates. -/
structure RenewalBooks (s : SubscriptionAdapter) : Prop where
  below : ∀ entry ∈ s.invoices, entry.1 < s.accountingAdapter.nextInvoiceId
  renewalDate : ∀ id metadata, s.mockSubscriptionMetadata id = some metadata →
    metadata.renewalDate ≠ "" → IsIsoDate metadata.renewalDate
  dateOrder : ∀ id order, s.mockOrders id = some order → ∀ date ∈ order.dateOrder, IsIsoDate date

namespace SubscriptionAdapter

/-- The day on which an order is due for renewal. -/
def renewalDay (s : SubscriptionAdapter) (today : CalendarDate) (orderId : ℤ) :
    Option CalendarDate :=
  match s.getSubscriptionStatus today orderId with
  | .error _ => none
  | .ok status => readDate status.renewalDate

def invoicesOf (s : SubscriptionAdapter) (orderId : ℤ) : List (ℤ × MockInvoice) :=
  s.invoices.filter fun entry => entry.2.orderId = orderId

end SubscriptionAdapter

/-- One invoice more, with a new id: the order is billed for its renewal. -/
structure PostsRenewal (s s' : SubscriptionAdapter) (orderId invoiceId : ℤ) (order : MockOrder)
    (invoice : MockInvoice) : Prop where
  registered : s.mockOrders orderId = some order
  appended : s'.invoices = s.invoices ++ [(invoiceId, invoice)]
  fresh : ∀ entry ∈ s.invoices, entry.1 ≠ invoiceId
  orderId : invoice.orderId = orderId
  posted : invoice.state = .posted
  recurring : invoice.dealflowIsRecurring = true
  dealId : invoice.dealflowDealId = order.dealflowDealId

/-- What a successful call does: it posts an invoice for the order and puts off its renewal, and
other orders keep their invoices and their renewals. -/
structure Renews (s s' : SubscriptionAdapter) (call : RenewalCall) (invoiceId : ℤ) : Prop where
  posts : ∃ order invoice, PostsRenewal s s' call.orderId invoiceId order invoice
  advances : ∃ due next, s.renewalDay call.today call.orderId = some due ∧ due < next ∧
    ∀ today, s'.renewalDay today call.orderId = some next
  others : ∀ id, id ≠ call.orderId → s'.invoicesOf id = s.invoicesOf id ∧
    ∀ today, s'.getSubscriptionStatus today id = s.getSubscriptionStatus today id

/-- The day that a renewal of an order on this day is put off to: a period after the renewal date
that is stored, and where none is the first renewal date, a period after the order. -/
def SubscriptionAdapter.putOffTo (s : SubscriptionAdapter) (today : CalendarDate) (orderId : ℤ)
    (order : MockOrder) : CalendarDate :=
  let date := (s.storedDate orderId).getD (order.dateOrder.getD today.text)
  ((readDate date).getD today).addPeriod ((parseMixedOrder order.lines).billingInterval.getD .month)

/-- The status of the order lets it be renewed, up to a date that the calendar has. -/
def SubscriptionAdapter.Renewable (s : SubscriptionAdapter) (today : CalendarDate) (orderId : ℤ) :
    Prop :=
  ∃ status, s.getSubscriptionStatus today orderId = .ok status ∧
    SubscriptionAdapter.renewalError orderId status = none ∧
      (((readDate status.renewalDate).getD today).addPeriod status.recurringInterval).valid = true

theorem triggerSubscriptionRenewal_isOk_iff {s : SubscriptionAdapter} {today : CalendarDate}
    {orderId : ℤ} :
    (s.triggerSubscriptionRenewal today orderId).isOk = true ↔ s.Renewable today orderId := by
  constructor
  · intro isOk
    cases ok : s.triggerSubscriptionRenewal today orderId with
    | error e =>
        rw [ok] at isOk
        cases isOk
    | ok answer =>
        obtain ⟨result, s'⟩ := answer
        obtain ⟨status, order, read, renews⟩ := triggerSubscriptionRenewal_ok ok
        refine ⟨status, read, renews.passed, ?_⟩
        have next := renews.next
        unfold addBillingPeriod at next
        dsimp only at next
        split at next
        · next valid => exact valid
        · cases next
  · rintro ⟨status, read, passed, valid⟩
    obtain ⟨order, reads⟩ := getSubscriptionStatus_ok read
    have next : addBillingPeriod today status.renewalDate status.recurringInterval =
        .ok (((readDate status.renewalDate).getD today).addPeriod status.recurringInterval).text :=
      if_pos valid
    unfold SubscriptionAdapter.triggerSubscriptionRenewal
    rw [read]
    dsimp only [bind, Except.bind]
    rw [passed, reads.found]
    dsimp only
    rw [next]
    rfl

instance (s : SubscriptionAdapter) (today : CalendarDate) (orderId : ℤ) :
    Decidable (s.Renewable today orderId) :=
  decidable_of_iff _ triggerSubscriptionRenewal_isOk_iff

/-- An order that can be renewed is put off to a year of four digits. -/
def FourDigitYear (s : SubscriptionAdapter) (call : RenewalCall) : Prop :=
  s.Renewable call.today call.orderId → ∀ order, s.mockOrders call.orderId = some order →
    1000 ≤ (s.putOffTo call.today call.orderId order).year

instance (s : SubscriptionAdapter) (call : RenewalCall) : Decidable (FourDigitYear s call) :=
  inferInstanceAs (Decidable (s.Renewable call.today call.orderId →
    ∀ order ∈ s.mockOrders call.orderId,
      1000 ≤ (s.putOffTo call.today call.orderId order).year))

/-- A call renews its order, or raises and changes nothing. -/
def RenewsOrRaises (s : SubscriptionAdapter) (call : RenewalCall) : Prop :=
  match s.triggerSubscriptionRenewal call.today call.orderId with
  | .error _ => call.step s = s
  | .ok (result, _) => Renews s (call.step s) call result.renewalInvoiceId

section Calls

variable {s s' : SubscriptionAdapter} {today : CalendarDate} {orderId : ℤ}

/-- What the books have of an order's renewal date, or what is computed for it. -/
theorem RenewalBooks.status_date (books : RenewalBooks s) {order : MockOrder}
    {status : SubscriptionStatus} (read : ReadsStatus s today orderId order status) :
    (s.storedDate orderId = some status.renewalDate ∧ ∃ due,
        readDate status.renewalDate = some due ∧
          s.putOffTo today orderId order = due.addPeriod status.recurringInterval) ∨
      readDate status.renewalDate =
        if 1000 ≤ (s.putOffTo today orderId order).year then some (s.putOffTo today orderId order)
        else none := by
  unfold SubscriptionAdapter.putOffTo
  dsimp only
  rw [← read.interval]
  rcases read.date with stored | ⟨undated, computed⟩
  · obtain ⟨kept, filled⟩ := Option.filter_eq_some_iff.mp stored
    obtain ⟨metadata, found, same⟩ := Option.map_eq_some_iff.mp kept
    rw [← same] at filled stored ⊢
    obtain ⟨due, reads⟩ := books.renewalDate orderId metadata found (of_decide_eq_true filled)
    refine .inl ⟨stored, due, reads, ?_⟩
    rw [stored, Option.getD_some, reads, Option.getD_some]
  · right
    rw [undated, Option.getD_none]
    exact (addBillingPeriod_ok computed).2

/-- An order is due on a date that its metadata has. -/
theorem renewalDay_of_metadata {order : MockOrder} {metadata : SubscriptionMetadata}
    (found : s.mockOrders orderId = some order)
    (stored : s.mockSubscriptionMetadata orderId = some metadata)
    (date : metadata.renewalDate ≠ "") (today : CalendarDate) :
    s.renewalDay today orderId = readDate metadata.renewalDate := by
  unfold SubscriptionAdapter.renewalDay SubscriptionAdapter.getSubscriptionStatus
  rw [found, stored]
  dsimp only
  rw [Option.map_some, Option.filter_some, if_pos (decide_eq_true date)]
  rfl

/-- The day an order is due on once it was renewed. -/
theorem renewalDay_renewed {call : RenewalCall} {status : SubscriptionStatus} {order : MockOrder}
    {result : SubscriptionAdapter.RenewalResult}
    (renews : RenewsBy s s' call.today call.orderId status order result) (today : CalendarDate) :
    s'.renewalDay today call.orderId = readDate result.nextRenewalDate := by
  have found : s'.mockOrders call.orderId = some order := by
    rw [renews.after]
    exact renews.read.found
  have stored : s'.mockSubscriptionMetadata call.orderId =
      some { renewalDate := result.nextRenewalDate, active := true } := by
    rw [renews.after]
    exact if_pos rfl
  exact renewalDay_of_metadata found stored (addBillingPeriod_ok renews.next).1 today

theorem renewalDay_of_status {status : SubscriptionStatus}
    (ok : s.getSubscriptionStatus today orderId = .ok status) :
    s.renewalDay today orderId = readDate status.renewalDate := by
  unfold SubscriptionAdapter.renewalDay
  rw [ok]

/-- A call that succeeds on the books reads its date and stores one that can be read, if that is in
a year of four digits. -/
theorem RenewalBooks.advances (books : RenewalBooks s) {call : RenewalCall}
    {status : SubscriptionStatus} {order : MockOrder} {result : SubscriptionAdapter.RenewalResult}
    (renews : RenewsBy s s' call.today call.orderId status order result)
    (late : 1000 ≤ (s.putOffTo call.today call.orderId order).year) :
    ∃ due, readDate status.renewalDate = some due ∧
      readDate result.nextRenewalDate = some (due.addPeriod status.recurringInterval) := by
  have next := (addBillingPeriod_ok renews.next).2
  rcases books.status_date renews.read with ⟨-, due, reads, putOff⟩ | reads
  · rw [putOff] at late
    rw [reads, Option.getD_some, if_pos late] at next
    exact ⟨due, reads, next⟩
  · rw [if_pos late] at reads
    have later := late.trans (CalendarDate.year_le_addPeriod _ status.recurringInterval)
    rw [reads, Option.getD_some, if_pos later] at next
    exact ⟨_, reads, next⟩

/-- A call that succeeds on the books and counts up to a year of four digits renews its order. -/
theorem renews_of_ok (books : RenewalBooks s) {call : RenewalCall}
    {result : SubscriptionAdapter.RenewalResult}
    (ok : s.triggerSubscriptionRenewal call.today call.orderId = .ok (result, s'))
    (late : FourDigitYear s call) : Renews s s' call result.renewalInvoiceId := by
  obtain ⟨status, order, read, renews⟩ := triggerSubscriptionRenewal_ok ok
  have found := renews.read.found
  have renewable := triggerSubscriptionRenewal_isOk_iff.mp (by rw [ok]; rfl)
  have fourDigits := late renewable order found
  obtain ⟨due, readable, next⟩ := books.advances renews fourDigits
  have day := renewalDay_renewed renews
  have id := renews.invoiceId
  have after := renews.after
  subst after
  let invoice := SubscriptionAdapter.renewalInvoice call.orderId order status.amountToInvoice
    call.today s.accountingAdapter.nextInvoiceId
  have appended := setInvoice_new books.below invoice
  refine ⟨⟨order, invoice, found, ?_, ?_, rfl, rfl, rfl, rfl⟩,
    ⟨due, due.addPeriod status.recurringInterval, ?_, ?_, ?_⟩, ?_⟩
  · rw [id]
    exact appended
  · rw [id]
    exact fun entry mem => (books.below entry mem).ne
  · exact (renewalDay_of_status read).trans readable
  · exact CalendarDate.lt_addPeriod (parseDate_valid readable) _
  · exact fun today => (day today).trans next
  · intro other apart
    constructor
    · unfold SubscriptionAdapter.invoicesOf SubscriptionAdapter.invoices
      change (AccountingAdapter.setInvoice _ _ _).mockInvoices.filter _ = _
      have foreign : ¬ invoice.orderId = other := fun same => apart same.symm
      rw [appended, List.filter_append, List.filter_cons_of_neg (by simpa using foreign),
        List.filter_nil, List.append_nil]
    · intro today
      unfold SubscriptionAdapter.getSubscriptionStatus SubscriptionAdapter.postRenewal
      dsimp only
      rw [if_neg apart]

/-- On the books a call does what it is for exactly when it raises or counts up to a year of four
digits. -/
theorem renewsOrRaises_iff (books : RenewalBooks s) (call : RenewalCall) :
    RenewsOrRaises s call ↔ FourDigitYear s call := by
  unfold RenewsOrRaises RenewalCall.step
  cases ok : s.triggerSubscriptionRenewal call.today call.orderId with
  | error e =>
      refine iff_of_true rfl fun renewable => ?_
      rw [← triggerSubscriptionRenewal_isOk_iff, ok] at renewable
      cases renewable
  | ok answer =>
      obtain ⟨result, s'⟩ := answer
      refine ⟨fun renews _ order found => ?_, renews_of_ok books ok⟩
      obtain ⟨status, order', read, renewsBy⟩ := triggerSubscriptionRenewal_ok ok
      obtain rfl : order' = order := Option.some.inj (renewsBy.read.found.symm.trans found)
      obtain ⟨due, next, dueOn, -, later⟩ := renews.advances
      rw [renewalDay_of_status read] at dueOn
      have stored := later call.today
      rw [renewalDay_renewed renewsBy, (addBillingPeriod_ok renewsBy.next).2, dueOn,
        Option.getD_some] at stored
      by_contra early
      rcases books.status_date renewsBy.read with ⟨-, due', reads, putOff⟩ | reads
      · obtain rfl : due = due' := Option.some.inj (dueOn.symm.trans reads)
        rw [putOff] at early
        rw [if_neg early] at stored
        cases stored
      · rw [dueOn, if_neg early] at reads
        cases reads

theorem RenewalBooks.step (books : RenewalBooks s) {call : RenewalCall}
    (late : FourDigitYear s call) : RenewalBooks (call.step s) := by
  unfold RenewalCall.step
  split
  · exact books
  next result s' ok =>
    obtain ⟨status, order, -, renews⟩ := triggerSubscriptionRenewal_ok ok
    have renewable := triggerSubscriptionRenewal_isOk_iff.mp (by rw [ok]; rfl)
    obtain ⟨due, -, next⟩ := books.advances renews (late renewable order renews.read.found)
    rw [renews.after]
    refine ⟨fun entry mem => ?_, fun id metadata kept filled => ?_, books.dateOrder⟩
    · rw [SubscriptionAdapter.invoices, SubscriptionAdapter.postRenewal] at mem
      dsimp only at mem
      rw [setInvoice_new books.below] at mem
      change entry.1 < s.accountingAdapter.nextInvoiceId + 1
      rcases List.mem_append.mp mem with old | new
      · have bound := books.below entry old
        omega
      · rw [List.mem_singleton.mp new]
        omega
    · by_cases same : id = call.orderId
      · have posted := kept.symm.trans (if_pos same)
        cases posted
        exact ⟨_, next⟩
      · exact books.renewalDate id metadata ((if_neg same).symm.trans kept) filled

end Calls

/-- Along a run of calls on any orders each call renews its order, or raises and changes nothing,
exactly when none puts a renewal off to a year before 1000. -/
theorem renewals_run_iff (s : SubscriptionAdapter) (books : RenewalBooks s)
    (calls : List RenewalCall) :
    (∀ t ∈ history RenewalCall.step calls s, RenewsOrRaises t.1 t.2) ↔
      ∀ t ∈ history RenewalCall.step calls s, FourDigitYear t.1 t.2 :=
  run_forall_iff RenewalBooks books (fun _ call (_ : True) books => renewsOrRaises_iff books call)
    (fun _ _ _ books late => books.step late) calls fun _ _ => trivial

/-- A retainer, and the same order cancelled, with an invoice from before.  The retainer is due on a
date. -/
def retainerStore (renewalDate : String) : SubscriptionAdapter :=
  let retainer : MockOrder :=
    { state := .sale
      name := some "SO0001"
      dealflowDealId := some "DEAL-1"
      lines := [{ name := some "Retainer", priceUnit := 100, isRecurring := true }] }
  let orders : ℤ → Option MockOrder := fun id =>
    if id = 1 then some retainer
    else if id = 2 then some { retainer with state := .cancel }
    else none
  { accountingAdapter :=
      { mockOrders := orders
        mockInvoices :=
          [(1001,
            { name := "INV/2024/1001", orderId := 2, invoiceOrigin := "SO0002", amountTotal := 50
              amountResidual := 50, invoiceDate := "2024-01-05" })]
        nextInvoiceId := 1002 }
    mockOrders := orders
    mockSubscriptionMetadata := fun id =>
      if id = 1 then some { renewalDate, active := true } else none }

theorem retainerStore_books {date : String} (iso : IsIsoDate date) :
    RenewalBooks (retainerStore date) := by
  refine ⟨?_, ?_, ?_⟩
  · change ∀ entry ∈ [_], _
    intro entry mem
    rw [List.mem_singleton.mp mem]
    exact (by decide : (1001 : ℤ) < 1002)
  · intro id metadata found _
    by_cases one : id = 1
    · have same := found.symm.trans (if_pos one)
      cases same
      exact iso
    · exact nomatch found.symm.trans (if_neg one)
  · intro id order found date dated
    change (if id = 1 then _ else if id = 2 then _ else _) = some order at found
    split at found
    · cases found
      cases dated
    · split at found
      · cases found
        cases dated
      · cases found

def retainerCalls : List RenewalCall :=
  [1, 2, 1].map fun id => { orderId := id, today := ⟨2024, 2, 1⟩, real := rfl, recent := by decide }

/-- The cancelled order is refused; the other is due on 29 February, then on 29 March. -/
theorem retainerCalls_renew :
    (history RenewalCall.step retainerCalls (retainerStore "2024-01-31")).Forall
        (fun t => RenewsOrRaises t.1 t.2) ∧
      (run RenewalCall.step retainerCalls (retainerStore "2024-01-31")).renewalDay ⟨2024, 2, 1⟩ 1 =
        some ⟨2024, 3, 29⟩ := by
  have iso : IsIsoDate "2024-01-31" := ⟨⟨2024, 1, 31⟩, by decide +kernel⟩
  have books := retainerStore_books iso
  have late : ∀ t ∈ history RenewalCall.step retainerCalls (retainerStore "2024-01-31"),
      FourDigitYear t.1 t.2 := by
    decide +kernel
  exact ⟨List.forall_iff_forall_mem.mpr
    ((renewals_run_iff (retainerStore "2024-01-31") books retainerCalls).mpr late),
    by decide +kernel⟩

/-- A date in the year 500 is put off to the text `500-02-15`, which is no date. -/
theorem ancientRetainer_lost :
    RenewalBooks (retainerStore "0500-01-15") ∧
      ¬ ∀ t ∈ history RenewalCall.step (retainerCalls.take 1) (retainerStore "0500-01-15"),
        RenewsOrRaises t.1 t.2 := by
  have iso : IsIsoDate "0500-01-15" := ⟨⟨500, 1, 15⟩, by decide +kernel⟩
  have books := retainerStore_books iso
  refine ⟨books, fun advance => ?_⟩
  have first := advance (retainerStore "0500-01-15",
    { orderId := 1, today := ⟨2024, 2, 1⟩, real := rfl, recent := by decide }) List.mem_cons_self
  rw [renewsOrRaises_iff books] at first
  revert first
  decide +kernel

end DealFlow.Addon
