import DealFlow.Billing.RenewalSchedule
import DealFlow.Lib.Cents

/-!
# What a year of renewals bills

A renewal bills the revenue of its period: the rounded monthly revenue of an order that is billed by
the month, the rounded yearly one of an order billed by the year.  The two are added up apart.
Twelve rounded months come to the rounded year exactly when the yearly revenue is close enough to
twelve times the whole cents next to the monthly one (`billedRevenue_iff`); but for the rounding of
the sums themselves, when the monthly revenue is close enough to whole cents
(`monthsFit_of_exact`).
-/

namespace DealFlow.Addon

open Lib

/-- The monthly revenue of some lines, added up and not yet taken to the cent. -/
def monthlyRevenue (lines : List MockLine) : ℚ :=
  runningSum float64 ((lines.filter (·.recurs)).map (·.mrr))

def yearlyRevenue (lines : List MockLine) : ℚ :=
  runningSum float64 ((lines.filter (·.recurs)).map (·.arr))

/-- The monthly revenue is next to so many whole cents, of two as near next to the even ones, and
the yearly one is within half a cent of twelve times as many. -/
def MonthsFit (monthly yearly : ℚ) : Prop :=
  ∃ k : ℤ, (|100 * monthly - k| < 1 / 2 ∨ |100 * monthly - k| = 1 / 2 ∧ k % 2 = 0) ∧
    |100 * yearly - 12 * k| ≤ 1 / 2

/-- The interval that renewals are billed at. -/
def renewalInterval (lines : List MockLine) : RecurringInterval :=
  (parseMixedOrder lines).billingInterval.getD .month

def renewalsPerYear : RecurringInterval → ℕ
  | .month => 12
  | .year => 1

/-- What a call reports as invoiced for the order. -/
def invoicedFor (orderId : ℤ) (t : SubscriptionAdapter × RenewalCall) : ℚ :=
  match t.1.triggerSubscriptionRenewal t.2.today t.2.orderId with
  | .error _ => 0
  | .ok (result, _) => if result.orderId = orderId then result.amountInvoiced else 0

/-- What the renewals of a history came to for the order. -/
def billedTo (orderId : ℤ) (past : List (SubscriptionAdapter × RenewalCall)) : ℚ :=
  (past.map (invoicedFor orderId)).sum

/-- What a renewal of the order bills. -/
def renewalAmount (lines : List MockLine) : ℚ :=
  match renewalInterval lines with
  | .month => (parseMixedOrder lines).recurringMrr
  | .year => (parseMixedOrder lines).recurringArr

section Run

variable {s : SubscriptionAdapter} {orderId : ℤ} {order : MockOrder}

/-- Every renewal of the order bills the same. -/
theorem invoicedFor_eq (found : s.mockOrders orderId = some order) (call : RenewalCall) :
    invoicedFor orderId (s, call) =
      if RenewsOrder orderId (s, call) = true then renewalAmount order.lines else 0 := by
  unfold invoicedFor RenewsOrder
  dsimp only
  cases renewed : s.triggerSubscriptionRenewal call.today call.orderId with
  | error e => simp [Except.isOk, Except.toBool]
  | ok answer =>
      obtain ⟨result, after⟩ := answer
      obtain ⟨status, order', -, renews⟩ := triggerSubscriptionRenewal_ok renewed
      dsimp only
      rw [renews.renewed]
      by_cases same : call.orderId = orderId
      · rw [same] at renews
        obtain rfl : order = order' := Option.some.inj (found.symm.trans renews.read.found)
        have amount : status.amountToInvoice = renewalAmount order.lines := by
          have interval : renewalInterval order.lines = status.recurringInterval :=
            renews.read.interval.symm
          unfold renewalAmount
          rw [interval, ← renews.read.mrr, ← renews.read.arr]
          rfl
        have cents : IsCents (renewalAmount order.lines) := by
          unfold renewalAmount
          split
          · exact isCents_roundTo_two _
          · exact isCents_roundTo_two _
        rw [if_pos same, renews.amount, amount, cents.roundTo_two, decide_eq_true same]
        exact (if_pos rfl).symm
      · rw [if_neg same, decide_eq_false same]
        rfl

theorem billedTo_run (found : s.mockOrders orderId = some order) (calls : List RenewalCall) :
    billedTo orderId (history RenewalCall.step calls s) =
        renewalsOf orderId (history RenewalCall.step calls s) * renewalAmount order.lines ∧
      (run RenewalCall.step calls s).mockOrders orderId = some order := by
  refine run_induction (motive := fun past now =>
    billedTo orderId past = renewalsOf orderId past * renewalAmount order.lines ∧
      now.mockOrders orderId = some order) ⟨by simp [billedTo, renewalsOf], found⟩ ?_ calls
  rintro past now call ⟨billed, held⟩
  refine ⟨?_, ?_⟩
  · unfold billedTo renewalsOf at *
    rw [List.map_append, List.sum_append, List.map_singleton, List.sum_singleton, billed,
      invoicedFor_eq held, List.countP_append, List.countP_singleton]
    split
    · push_cast
      ring
    · rw [add_zero, Nat.add_zero]
  · unfold RenewalCall.step
    split
    · exact held
    · next result after renewed =>
        obtain ⟨status, order', -, renews⟩ := triggerSubscriptionRenewal_ok renewed
        rw [renews.after]
        exact held

end Run

/-- Twelve rounded months come to the rounded year where it fits them. -/
theorem twelve_months_iff (monthly yearly : ℚ) :
    12 * roundTo 2 monthly = roundTo 2 yearly ↔ MonthsFit monthly yearly := by
  have hundred : ∀ x : ℚ, x * 10 ^ 2 = 100 * x := fun x => by ring
  have cents : 12 * roundTo 2 monthly = roundTo 2 yearly ↔
      roundHalfEven (100 * yearly) = 12 * roundHalfEven (100 * monthly) := by
    unfold roundTo
    rw [hundred, hundred, ← mul_div_assoc, div_left_inj' (by norm_num), ← Int.cast_inj (α := ℚ)]
    push_cast
    exact eq_comm
  have year : ∀ k : ℤ, roundHalfEven (100 * yearly) = 12 * k ↔
      |100 * yearly - 12 * k| ≤ 1 / 2 := by
    intro k
    have even : 12 * k % 2 = 0 := by omega
    rw [roundHalfEven_eq_iff, le_iff_lt_or_eq]
    push_cast
    rw [and_iff_left even]
  rw [cents, year]
  constructor
  · intro fits
    exact ⟨_, roundHalfEven_eq_iff.mp rfl, fits⟩
  · rintro ⟨k, month, fits⟩
    rwa [roundHalfEven_eq_iff.mpr month]

/-- Were the sums exact, what counts would be how far the monthly revenue is from whole cents. -/
theorem monthsFit_of_exact (monthly : ℚ) :
    MonthsFit monthly (12 * monthly) ↔ ∃ k : ℤ, |100 * monthly - k| ≤ 1 / 24 := by
  have near := roundHalfEven_mul_iff (m := 12) rfl (by decide) (x := monthly * 10 ^ 2)
  rw [show (1 : ℚ) / (2 * (12 : ℕ)) = 1 / 24 by norm_num] at near
  have hundred : monthly * 10 ^ 2 = 100 * monthly := by ring
  rw [← hundred, ← near, ← twelve_months_iff]
  unfold roundTo
  rw [show 12 * monthly * 10 ^ 2 = (12 : ℕ) * (monthly * 10 ^ 2) by push_cast; ring,
    ← mul_div_assoc, div_left_inj' (by norm_num), ← Int.cast_inj (α := ℚ)]
  push_cast
  exact eq_comm

def recurringLine (name interval : String) (price : ℚ) : MockLine :=
  { name := some name, priceUnit := price, isRecurring := true, recurringInterval := some interval }

def supportLines : List MockLine :=
  [recurringLine "Support" "month" 10, { name := some "Laptop", priceUnit := 1199 }]

def hybridLines : List MockLine :=
  recurringLine "Backup" "year" 100 :: supportLines

/-- One order with the support alone, one with a backup by the year besides. -/
def supportStore : SubscriptionAdapter :=
  let orders : ℤ → Option MockOrder := fun id =>
    if id = 1 then some { state := .sale, lines := supportLines }
    else if id = 2 then some { state := .sale, lines := hybridLines }
    else none
  { accountingAdapter := { mockOrders := orders }
    mockOrders := orders
    mockSubscriptionMetadata := fun _ => some { renewalDate := "2026-01-05", active := true } }

/-- Twelve renewals of an order. -/
def yearOfCalls (orderId : ℤ) : List RenewalCall :=
  List.replicate 12 { orderId, today := ⟨2026, 1, 5⟩, real := rfl, recent := by decide }

end DealFlow.Addon
