import DealFlow.Billing.Renewals
import DealFlow.Lib.Capped

/-!
# The renewal schedule

A renewal is put off by one month from the date it was due, not from the start of the subscription.
So the day of the month is capped by every month on the way (`monthly_eq`), and the `n`-th renewal
is `n` calendar months after the start exactly when no month on the way is shorter than the day to
be reached (`renewalSchedule_iff`).  That is for dates that can be read again: a first renewal in a
year before 1000 is lost, and the one after it counts from the day of the call (`DueAfter`).
-/

namespace DealFlow.Addon

open Lib

namespace CalendarDate

/-- The month of the date, counted from the year 0. -/
def monthIndex (d : CalendarDate) : ℕ :=
  12 * d.year + (d.month - 1)

/-- The length of the month that is so many months after the date. -/
def lengthAfter (d : CalendarDate) (n : ℕ) : ℕ :=
  daysInMonth ((d.monthIndex + n) / 12) ((d.monthIndex + n) % 12 + 1)

/-- The date so many calendar months later, in the month's last day where the month is shorter. -/
def addMonths (d : CalendarDate) (n : ℕ) : CalendarDate :=
  { year := (d.monthIndex + n) / 12
    month := (d.monthIndex + n) % 12 + 1
    day := min d.day (d.lengthAfter n) }

/-- No month on the way is shorter than the day that is to be reached. -/
def OnSchedule (start : CalendarDate) (n : ℕ) : Prop :=
  ∀ i < n, min start.day (start.lengthAfter n) ≤ start.lengthAfter i

/-- A month after the start the year has four digits. -/
def FourDigits (start : CalendarDate) : Prop :=
  1000 ≤ (start.addMonths 1).year

/-- A month later, so many times. -/
def monthly (d : CalendarDate) (n : ℕ) : CalendarDate :=
  (fun d => addPeriod d .month)^[n] d

instance (start : CalendarDate) : Decidable start.FourDigits :=
  inferInstanceAs (Decidable (1000 ≤ _))

instance (start : CalendarDate) (n : ℕ) : Decidable (start.OnSchedule n) :=
  inferInstanceAs (Decidable (∀ i < n, min start.day (start.lengthAfter n) ≤ start.lengthAfter i))

theorem monthly_succ (d : CalendarDate) (n : ℕ) :
    d.monthly (n + 1) = (d.monthly n).addPeriod .month :=
  Function.iterate_succ_apply' ..

/-- The day is capped by the month of every renewal. -/
theorem monthly_eq {d : CalendarDate} (valid : d.valid = true) (n : ℕ) :
    d.monthly n =
      { year := (d.monthIndex + n) / 12
        month := (d.monthIndex + n) % 12 + 1
        day := capped (fun i => d.lengthAfter (i + 1)) d.day n } := by
  obtain ⟨-, -, some, most, -, -⟩ := valid_iff.mp valid
  induction n with
  | zero =>
      unfold monthly monthIndex
      rw [Function.iterate_zero_apply, capped]
      have year : (12 * d.year + (d.month - 1) + 0) / 12 = d.year := by omega
      have month : (12 * d.year + (d.month - 1) + 0) % 12 + 1 = d.month := by omega
      rw [year, month]
  | succ n ih =>
      have year : (d.monthIndex + n) / 12 + ((d.monthIndex + n) % 12 + 1) / 12 =
          (d.monthIndex + (n + 1)) / 12 := by omega
      have month : ((d.monthIndex + n) % 12 + 1) % 12 + 1 = (d.monthIndex + (n + 1)) % 12 + 1 := by
        omega
      rw [monthly_succ, ih]
      unfold addPeriod
      dsimp only
      rw [year, month]
      rfl

theorem year_monthly {d : CalendarDate} (valid : d.valid = true) (n : ℕ) :
    (d.monthly n).year = (d.monthIndex + n) / 12 := by
  rw [monthly_eq valid]

theorem monthIndex_addMonths (d : CalendarDate) (n : ℕ) :
    (d.addMonths n).monthIndex = d.monthIndex + n := by
  unfold addMonths
  rw [monthIndex]
  dsimp only
  omega

theorem monthIndex_addPeriod {d : CalendarDate} (month : 1 ≤ d.month) :
    (d.addPeriod .month).monthIndex = d.monthIndex + 1 := by
  unfold addPeriod monthIndex
  dsimp only
  omega

theorem one_le_month_addPeriod (d : CalendarDate) : 1 ≤ (d.addPeriod .month).month :=
  Nat.le_add_left _ _

/-- Month after month leads to the calendar month's day exactly on schedule. -/
theorem monthly_eq_addMonths_iff {d : CalendarDate} (valid : d.valid = true) (n : ℕ) :
    d.monthly n = d.addMonths n ↔ d.OnSchedule n := by
  obtain ⟨-, -, some, most, -, within⟩ := valid_iff.mp valid
  have first : d.lengthAfter 0 = daysInMonth d.year d.month := by
    unfold lengthAfter monthIndex
    have year : (12 * d.year + (d.month - 1) + 0) / 12 = d.year := by omega
    have month : (12 * d.year + (d.month - 1) + 0) % 12 + 1 = d.month := by omega
    rw [year, month]
  have day : d.monthly n = d.addMonths n ↔
      capped (fun i => d.lengthAfter (i + 1)) d.day n = min d.day (d.lengthAfter n) := by
    rw [monthly_eq valid]
    unfold addMonths
    rw [CalendarDate.mk.injEq]
    exact ⟨fun eq => eq.2.2, fun eq => ⟨rfl, rfl, eq⟩⟩
  rw [day]
  cases n with
  | zero =>
      rw [capped, first]
      exact iff_of_true (min_eq_left within).symm fun i lt => absurd lt (Nat.not_lt_zero i)
  | succ n =>
      rw [capped_succ_eq_iff]
      constructor
      · intro caps i lt
        cases i with
        | zero =>
            rw [first]
            exact (min_le_left _ _).trans within
        | succ i => exact caps i (Nat.lt_of_succ_lt_succ lt)
      · exact fun onSchedule i lt => onSchedule (i + 1) (Nat.succ_lt_succ lt)

/-- A year later is twelve calendar months later. -/
theorem addPeriod_year {d : CalendarDate} (valid : d.valid = true) (more : d.year < 9999) :
    d.addPeriod .year = d.addMonths 12 := by
  obtain ⟨first, -, some, most, one, within⟩ := valid_iff.mp valid
  have year : (d.monthIndex + 12) / 12 = d.year + 1 := by
    unfold monthIndex
    omega
  have month : (d.monthIndex + 12) % 12 + 1 = d.month := by
    unfold monthIndex
    omega
  unfold addPeriod addMonths lengthAfter
  dsimp only
  rw [year, month]
  split
  · next valid' =>
      obtain ⟨-, -, -, -, -, within'⟩ := valid_iff.mp valid'
      rw [min_eq_left within']
  · next invalid =>
      -- only 29 February has no anniversary in the year after
      have longer : daysInMonth (d.year + 1) d.month < d.day := by
        by_contra le
        exact invalid (valid_iff.mpr ⟨by dsimp only; omega, by dsimp only; omega, some, most, one,
          not_lt.mp le⟩)
      rw [min_eq_right longer.le]
      congr 1
      unfold daysInMonth at longer within ⊢
      split at longer
      · next february =>
          rw [if_pos february]
          rw [if_pos february] at within
          split at longer
          · split at within <;> omega
          · next short => rw [if_neg short]
      · next other =>
          rw [if_neg other] at within
          split at longer
          · next short =>
              rw [if_pos short] at within
              omega
          · next long =>
              rw [if_neg long] at within
              omega

end CalendarDate

/-! ## Runs -/

/-- Where a subscription starts: on the renewal date that is stored for it, or on the date of its
order, a period before its first renewal date. -/
inductive StartsOn (s : SubscriptionAdapter) (orderId : ℤ) (start : CalendarDate) : ℕ → Prop
  | stored (date : String) (stored : s.storedDate orderId = some date)
      (reads : readDate date = some start) : StartsOn s orderId start 0
  | ordered (order : MockOrder) (found : s.mockOrders orderId = some order)
      (undated : s.storedDate orderId = none) (date : String) (dated : order.dateOrder = some date)
      (reads : readDate date = some start) : StartsOn s orderId start 1

/-- The order is billed by the month. -/
def BilledMonthly (s : SubscriptionAdapter) (orderId : ℤ) : Prop :=
  ∀ order, s.mockOrders orderId = some order →
    (parseMixedOrder order.lines).billingInterval.getD .month = .month

/-- The call renews the order. -/
def RenewsOrder (orderId : ℤ) (t : SubscriptionAdapter × RenewalCall) : Bool :=
  t.2.orderId = orderId && (t.1.triggerSubscriptionRenewal t.2.today t.2.orderId).isOk

/-- How often a history renewed the order. -/
def renewalsOf (orderId : ℤ) (past : List (SubscriptionAdapter × RenewalCall)) : ℕ :=
  past.countP (RenewsOrder orderId)

section Run

variable {s : SubscriptionAdapter} {orderId : ℤ} {start : CalendarDate} {lead : ℕ}

/-- What is read for the due date so many months after the start.  Where the first renewal has a
year of four digits it is the date so many months later.  Else the first date is lost, and what is
read after it is ahead of the schedule. -/
inductive DueAfter (start : CalendarDate) : ℕ → Option CalendarDate → Prop
  | started : DueAfter start 0 (some start)
  | onTime (k : ℕ) (late : start.FourDigits) : DueAfter start k (some (start.monthly k))
  | lost (k : ℕ) (early : ¬ start.FourDigits) (soon : start.monthIndex + (k + 1) < 12000) :
      DueAfter start (k + 1) none
  | ahead (k : ℕ) (early : ¬ start.FourDigits) (d : CalendarDate) (month : 1 ≤ d.month)
      (recent : 1000 ≤ d.year) (before : start.monthIndex + (k + 1) < d.monthIndex) :
      DueAfter start (k + 1) (some d)

/-- A month after what is read, or after the day of the call where nothing is. -/
theorem DueAfter.next {k : ℕ} {read : Option CalendarDate} (valid : start.valid = true)
    (due : DueAfter start k read) {today : CalendarDate} (real : today.valid = true)
    (recent : 1000 ≤ today.year) :
    DueAfter start (k + 1)
      (if 1000 ≤ ((read.getD today).addPeriod .month).year then
        some ((read.getD today).addPeriod .month) else none) := by
  have onward : ∀ d : CalendarDate, ¬ start.FourDigits → 1 ≤ d.month → 1000 ≤ d.year →
      start.monthIndex + k < d.monthIndex → DueAfter start (k + 1)
        (if 1000 ≤ (d.addPeriod .month).year then some (d.addPeriod .month) else none) := by
    intro d early month recent before
    have year := recent.trans (CalendarDate.year_le_addPeriod d .month)
    rw [if_pos year]
    refine .ahead k early _ (CalendarDate.one_le_month_addPeriod d) year ?_
    rw [CalendarDate.monthIndex_addPeriod month]
    omega
  have punctual : ∀ k, start.FourDigits → 1000 ≤ (start.monthly (k + 1)).year := by
    intro k late
    have first : 1000 ≤ (start.monthIndex + 1) / 12 := late
    rw [CalendarDate.year_monthly valid]
    omega
  cases due with
  | started =>
      have one : (start.monthly 1).year = (start.addMonths 1).year :=
        CalendarDate.year_monthly valid 1
      change DueAfter start 1
        (if 1000 ≤ (start.monthly 1).year then some (start.monthly 1) else none)
      rw [one]
      split
      · next late => exact .onTime 1 late
      · next early =>
          refine .lost 0 early ?_
          have first : ¬ 1000 ≤ (start.monthIndex + 1) / 12 := early
          omega
  | onTime k late =>
      rw [Option.getD_some, ← CalendarDate.monthly_succ, if_pos (punctual k late)]
      exact .onTime (k + 1) late
  | lost k early soon =>
      have month := (valid_iff.mp real).2.2.1
      refine onward today early month recent ?_
      unfold CalendarDate.monthIndex at soon ⊢
      omega
  | ahead k early d month recent' before => exact onward d early month recent' before

/-- A due date that is read is on the calendar month's day exactly on schedule, where the years have
four digits. -/
theorem DueAfter.onSchedule_iff {k : ℕ} {day : CalendarDate} (valid : start.valid = true)
    (due : DueAfter start k (some day)) :
    day = start.addMonths k ↔ (k = 0 ∨ start.FourDigits) ∧ start.OnSchedule k := by
  cases due with
  | started =>
      rw [and_iff_right (.inl rfl)]
      exact CalendarDate.monthly_eq_addMonths_iff valid 0
  | onTime k late =>
      rw [and_iff_right (.inr late)]
      exact CalendarDate.monthly_eq_addMonths_iff valid k
  | ahead k early d month recent before =>
      refine iff_of_false (fun same => ?_) fun both => both.1.elim nofun early
      rw [same, CalendarDate.monthIndex_addMonths] at before
      exact lt_irrefl _ before

/-- Nothing is read only where the first renewal is lost. -/
theorem DueAfter.early {k : ℕ} (due : DueAfter start k none) :
    ¬ (k = 0 ∨ start.FourDigits) := by
  cases due with
  | lost k early soon => exact fun either => either.elim nofun early

/-- The due date that a status reports is as many months after the start as the start is ahead. -/
theorem StartsOn.due (starts : StartsOn s orderId start lead) (monthly : BilledMonthly s orderId)
    (valid : start.valid = true) {today : CalendarDate} (real : today.valid = true)
    (recent : 1000 ≤ today.year) {order : MockOrder} {status : SubscriptionStatus}
    (read : ReadsStatus s today orderId order status) :
    DueAfter start lead (readDate status.renewalDate) := by
  cases starts with
  | stored date stored reads =>
      rcases read.date with same | ⟨none, -⟩
      · rw [stored] at same
        cases same
        rw [reads]
        exact .started
      · rw [stored] at none
        cases none
  | ordered order' found undated date dated reads =>
      obtain rfl : order = order' := Option.some.inj (read.found.symm.trans found)
      rcases read.date with stored | ⟨-, computed⟩
      · rw [undated] at stored
        cases stored
      · have next := (addBillingPeriod_ok computed).2
        rw [dated, Option.getD_some, reads, read.interval, monthly order read.found] at next
        rw [next]
        exact DueAfter.started.next valid real recent

/-- What the calls of a history leave of the order: a due date as many months after the start as it
was renewed, which is stored once it was. -/
structure Advanced (s : SubscriptionAdapter) (orderId : ℤ) (start : CalendarDate) (lead : ℕ)
    (past : List (SubscriptionAdapter × RenewalCall)) (now : SubscriptionAdapter) : Prop where
  orders : now.mockOrders = s.mockOrders
  due : ∀ today order status, today.valid = true → 1000 ≤ today.year →
    ReadsStatus now today orderId order status →
      DueAfter start (renewalsOf orderId past + lead) (readDate status.renewalDate)
  stored : 0 < renewalsOf orderId past → (∃ order, s.mockOrders orderId = some order) ∧
    ∃ metadata, now.mockSubscriptionMetadata orderId = some metadata ∧
      metadata.renewalDate ≠ "" ∧
      DueAfter start (renewalsOf orderId past + lead) (readDate metadata.renewalDate)

/-- A call that neither renews the order nor touches what is stored of it. -/
theorem Advanced.unrenewed {past : List (SubscriptionAdapter × RenewalCall)}
    {now : SubscriptionAdapter} {call : RenewalCall}
    (advanced : Advanced s orderId start lead past now)
    (none : RenewsOrder orderId (now, call) = false)
    (orders : (call.step now).mockOrders = now.mockOrders)
    (kept : (call.step now).mockSubscriptionMetadata orderId =
      now.mockSubscriptionMetadata orderId) :
    Advanced s orderId start lead (past ++ [(now, call)]) (call.step now) := by
  have counted : renewalsOf orderId (past ++ [(now, call)]) = renewalsOf orderId past := by
    unfold renewalsOf
    rw [List.countP_append, List.countP_singleton, none, if_neg Bool.false_ne_true, add_zero]
  refine ⟨orders.trans advanced.orders, fun today order status real recent read => ?_, ?_⟩
  · rw [counted]
    refine advanced.due today order status real recent ?_
    obtain ⟨found, state, active, interval, mrr, arr, recurring, date⟩ := read
    unfold SubscriptionAdapter.storedDate at date
    rw [kept] at state date
    rw [orders] at found
    exact ⟨found, state, active, interval, mrr, arr, recurring, date⟩
  · rw [counted, kept]
    exact advanced.stored

theorem Advanced.step (valid : start.valid = true) (monthly : BilledMonthly s orderId)
    {past : List (SubscriptionAdapter × RenewalCall)} {now : SubscriptionAdapter}
    (advanced : Advanced s orderId start lead past now) (call : RenewalCall) :
    Advanced s orderId start lead (past ++ [(now, call)]) (call.step now) := by
  cases renewed : now.triggerSubscriptionRenewal call.today call.orderId with
  | error e =>
      have stays : call.step now = now := by
        unfold RenewalCall.step
        rw [renewed]
      have none : RenewsOrder orderId (now, call) = false := by
        unfold RenewsOrder
        rw [renewed]
        exact Bool.and_false _
      exact advanced.unrenewed none (by rw [stays]) (by rw [stays])
  | ok answer =>
      obtain ⟨result, after⟩ := answer
      obtain ⟨status, order, -, renews⟩ := triggerSubscriptionRenewal_ok renewed
      have moves : call.step now = after := by
        unfold RenewalCall.step
        rw [renewed]
      have orders : (call.step now).mockOrders = now.mockOrders := by
        rw [moves, renews.after]
        rfl
      by_cases same : call.orderId = orderId
      · have one : RenewsOrder orderId (now, call) = true := by
          unfold RenewsOrder
          rw [renewed]
          exact Bool.and_eq_true_iff.mpr ⟨decide_eq_true same, rfl⟩
        have counted : renewalsOf orderId (past ++ [(now, call)]) =
            renewalsOf orderId past + 1 := by
          unfold renewalsOf
          rw [List.countP_append, List.countP_singleton, one, if_pos rfl]
        rw [same] at renews
        obtain ⟨filled, next⟩ := addBillingPeriod_ok renews.next
        have found := renews.read.found
        rw [advanced.orders] at found
        have held : (call.step now).mockSubscriptionMetadata orderId =
            some { renewalDate := result.nextRenewalDate, active := true } := by
          rw [moves, renews.after]
          exact if_pos rfl
        have reads : DueAfter start (renewalsOf orderId (past ++ [(now, call)]) + lead)
            (readDate result.nextRenewalDate) := by
          rw [renews.read.interval, monthly order found] at next
          rw [counted, add_right_comm, next]
          exact (advanced.due call.today order status call.real call.recent renews.read).next
            valid call.real call.recent
        refine ⟨orders.trans advanced.orders, fun today order' status' real recent read => ?_,
          fun _ => ⟨⟨order, found⟩, _, held, filled, reads⟩⟩
        have stored : (call.step now).storedDate orderId = some result.nextRenewalDate := by
          unfold SubscriptionAdapter.storedDate
          rw [held, Option.map_some, Option.filter_some, if_pos (decide_eq_true filled)]
        rcases read.date with kept | ⟨none, -⟩
        · rw [Option.some.inj (kept.symm.trans stored)]
          exact reads
        · rw [stored] at none
          cases none
      · have none : RenewsOrder orderId (now, call) = false := by
          unfold RenewsOrder
          rw [decide_eq_false same, Bool.false_and]
        refine advanced.unrenewed none orders ?_
        rw [moves, renews.after]
        unfold SubscriptionAdapter.postRenewal
        dsimp only
        rw [if_neg (Ne.symm same)]

end Run

/-- The subscription is due on one day, whatever the day it is asked on. -/
def IsDue (s : SubscriptionAdapter) (orderId : ℤ) (due : CalendarDate) : Prop :=
  ∀ today, s.renewalDay today orderId = some due

/-- After any run, a subscription by the month is due as many calendar months after its start as it
was renewed, in the last day of a shorter month, exactly when its first renewal date has a year of
four digits and no month on the way is shorter than the day to be reached; any other date that it is
due on is off that schedule.  And twelve renewals by the month reach the date of one by the year
exactly when none of the twelve months is shorter. -/
theorem renewalSchedule_iff {s : SubscriptionAdapter} {orderId : ℤ} {start : CalendarDate}
    {lead : ℕ} (starts : StartsOn s orderId start lead) (monthly : BilledMonthly s orderId)
    (calls : List RenewalCall) {n : ℕ}
    (renewed : renewalsOf orderId (history RenewalCall.step calls s) = n) :
    (0 < n → (IsDue (run RenewalCall.step calls s) orderId (start.addMonths (n + lead)) ↔
        start.FourDigits ∧ start.OnSchedule (n + lead))) ∧
      (∀ today due, today.valid = true → 1000 ≤ today.year →
        (run RenewalCall.step calls s).renewalDay today orderId = some due →
          (due = start.addMonths (n + lead) ↔
            (n + lead = 0 ∨ start.FourDigits) ∧ start.OnSchedule (n + lead))) ∧
      (start.year < 9999 → (start.monthly 12 = start.addPeriod .year ↔ start.OnSchedule 12)) := by
  have valid : start.valid = true := by
    cases starts with
    | stored date stored reads => exact parseDate_valid reads
    | ordered order found undated date dated reads => exact parseDate_valid reads
  have first : Advanced s orderId start lead [] s :=
    ⟨rfl, fun today order status real recent read => by
      rw [renewalsOf, List.countP_nil, Nat.zero_add]
      exact starts.due monthly valid real recent read, nofun⟩
  obtain ⟨orders, due, stored⟩ := run_induction (motive := Advanced s orderId start lead) first
    (fun past now call advanced => advanced.step valid monthly call) calls
  rw [renewed] at due stored
  refine ⟨fun some => ?_, fun today day real recent dueOn => ?_, fun more => ?_⟩
  · obtain ⟨⟨order, found⟩, metadata, held, filled, reads⟩ := stored some
    rw [← orders] at found
    have day := renewalDay_of_metadata found held filled
    have ago : ¬ n + lead = 0 := by omega
    constructor
    · intro isDue
      rw [(day start).symm.trans (isDue start)] at reads
      exact ((reads.onSchedule_iff valid).mp rfl).imp_left fun either => either.resolve_left ago
    · rintro ⟨late, onSchedule⟩ today
      rw [day today]
      cases read : readDate metadata.renewalDate with
      | none => exact absurd (.inr late) (read ▸ reads).early
      | some d =>
          rw [read] at reads
          rw [(reads.onSchedule_iff valid).mpr ⟨.inr late, onSchedule⟩]
  · unfold SubscriptionAdapter.renewalDay at dueOn
    split at dueOn
    · cases dueOn
    · next status ok =>
        obtain ⟨order, read⟩ := getSubscriptionStatus_ok ok
        have reads := due today order status real recent read
        rw [dueOn] at reads
        exact reads.onSchedule_iff valid
  · rw [CalendarDate.addPeriod_year valid more]
    exact CalendarDate.monthly_eq_addMonths_iff valid 12

/-! ## The last day of January -/

/-- The retainer, due on the last day of January of a leap year. -/
def januaryStore : SubscriptionAdapter := retainerStore "2024-01-31"

theorem januaryStore_starts : StartsOn januaryStore 1 ⟨2024, 1, 31⟩ 0 :=
  .stored "2024-01-31" (by decide +kernel) (by decide +kernel)

theorem januaryStore_monthly : BilledMonthly januaryStore 1 := by
  intro order found
  cases found
  decide +kernel

/-- Renewed once, the retainer is due in the last day of February, as it should be. -/
theorem retainer_renewedOnce :
    IsDue (run RenewalCall.step (retainerCalls.take 1) januaryStore) 1
      (CalendarDate.addMonths ⟨2024, 1, 31⟩ 1) := by
  have schedule := (renewalSchedule_iff januaryStore_starts januaryStore_monthly
    (retainerCalls.take 1) (n := 1) (by decide +kernel)).1
  exact (schedule Nat.one_pos).mpr ⟨by decide +kernel, by decide +kernel⟩

/-- Renewed twice, it is due on 29 March, two days before its month is over. -/
theorem retainer_renewedTwice :
    StartsOn januaryStore 1 ⟨2024, 1, 31⟩ 0 ∧ BilledMonthly januaryStore 1 ∧
      renewalsOf 1 (history RenewalCall.step retainerCalls januaryStore) = 2 ∧
      (run RenewalCall.step retainerCalls januaryStore).renewalDay ⟨2024, 2, 1⟩ 1 ≠
        some (CalendarDate.addMonths ⟨2024, 1, 31⟩ 2) := by
  refine ⟨januaryStore_starts, januaryStore_monthly, ?_, ?_⟩
  · decide +kernel
  · decide +kernel

end DealFlow.Addon
