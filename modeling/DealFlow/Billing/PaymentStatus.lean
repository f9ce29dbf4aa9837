import DealFlow.Addon.AccountingAdapter
import DealFlow.Lib.Cents

/-!
# The payment status of an order

`get_payment_status` nets the refunds of an order against its invoices, clips what is due and what
is paid at zero one after the other, and takes the order for paid when nothing is due on balance.
The two balances are added up in doubles.  What is reported is what was paid less what was refunded,
and whether every invoice is satisfied, exactly when the balances leave no more due and no more paid
than the invoices do (`reportsPayments_iff`).

* `reportsPayments_of_exact`: where the doubles add up exactly, that is a matter of how the refunds
  compare with the invoices.
* `isPaid_of_noRefunds`: without refunds an order is reported as paid exactly when it is.
-/

namespace DealFlow.Addon

open Lib

/-- The moves of an order that are not cancelled. -/
def validMoves (a : AccountingAdapter) (orderId : ℤ) : List MockInvoice :=
  (a.mockInvoices.map (·.2)).filter fun inv => inv.orderId = orderId ∧ inv.state ≠ .cancel

def validInvoices (a : AccountingAdapter) (orderId : ℤ) : List MockInvoice :=
  (validMoves a orderId).filter fun inv => inv.moveType ≠ .outRefund

def validRefunds (a : AccountingAdapter) (orderId : ℤ) : List MockInvoice :=
  (validMoves a orderId).filter fun inv => inv.moveType = .outRefund

def totalOf (moves : List MockInvoice) : ℚ :=
  (moves.map (·.amountTotal)).sum

def residualOf (moves : List MockInvoice) : ℚ :=
  (moves.map (·.amountResidual)).sum

/-- What is paid of some moves. -/
def paidOf (moves : List MockInvoice) : ℚ :=
  (moves.map fun inv => inv.amountTotal - inv.amountResidual).sum

/-- The status reports what was paid on the invoices less what was paid back on the refunds, and
that the order is paid exactly when every invoice is satisfied. -/
def ReportsPayments (a : AccountingAdapter) (orderId : ℤ) : Prop :=
  ∃ status, a.getPaymentStatus orderId = .ok status ∧
    status.amountPaid = paidOf (validInvoices a orderId) - paidOf (validRefunds a orderId) ∧
    (status.isPaid = true ↔ ∀ inv ∈ validInvoices a orderId, inv.amountResidual = 0)

/-- An order that is known and invoiced, over moves whose amounts are in cents. -/
structure Invoiced (a : AccountingAdapter) (orderId : ℤ) : Prop where
  known : ∃ order, a.mockOrders orderId = some order
  invoiced : validInvoices a orderId ≠ []
  amounts : ∀ entry ∈ a.mockInvoices, entry.2.orderId = orderId →
    IsCents entry.2.amountTotal ∧ IsCents entry.2.amountResidual ∧
      0 ≤ entry.2.amountResidual ∧ entry.2.amountResidual ≤ entry.2.amountTotal

/-- What a move counts for, in doubles: a refund is taken off. -/
def signed (amount : MockInvoice → ℚ) (inv : MockInvoice) : ℚ :=
  if inv.moveType = .outRefund then -float64 (amount inv) else float64 (amount inv)

/-- What is invoiced on balance, as the doubles add up. -/
def netTotal (a : AccountingAdapter) (orderId : ℤ) : ℚ :=
  runningSum float64 ((validMoves a orderId).map (signed (·.amountTotal)))

/-- What is due on balance, as the doubles add up. -/
def netDue (a : AccountingAdapter) (orderId : ℤ) : ℚ :=
  runningSum float64 ((validMoves a orderId).map (signed (·.amountResidual)))

/-- The balances stay within the invoices: what is invoiced on balance exceeds what is due by what
was paid, to the nearest cent; satisfied invoices leave something invoiced and nothing due, and open
ones leave something due, moves over nothing apart. -/
structure BalancesWithin (a : AccountingAdapter) (orderId : ℤ) : Prop where
  paid : paidOf (validRefunds a orderId) = paidOf (validInvoices a orderId) ∧
      float64 (netTotal a orderId - max 0 (netDue a orderId)) ≤ 1 / 200 ∨
    paidOf (validRefunds a orderId) < paidOf (validInvoices a orderId) ∧
      NearestCents (float64 (netTotal a orderId - max 0 (netDue a orderId)))
        (paidOf (validInvoices a orderId) - paidOf (validRefunds a orderId))
  satisfied : residualOf (validInvoices a orderId) = 0 →
    netDue a orderId ≤ 0 ∧
      (0 < netTotal a orderId ∨ ∃ inv ∈ validMoves a orderId, inv.amountTotal = 0)
  stillOpen : 0 < residualOf (validInvoices a orderId) →
    0 < netDue a orderId ∨
      netTotal a orderId ≤ 0 ∧ ∀ inv ∈ validMoves a orderId, inv.amountTotal ≠ 0

/-- The refunds stay within the invoices: neither is more open on them nor more paid, unless as much
is paid on them exactly; satisfied invoices total more than the refunds, and open ones leave
something open, moves over nothing apart. -/
structure RefundsWithin (a : AccountingAdapter) (orderId : ℤ) : Prop where
  paid : paidOf (validRefunds a orderId) = paidOf (validInvoices a orderId) ∨
    residualOf (validRefunds a orderId) ≤ residualOf (validInvoices a orderId) ∧
      paidOf (validRefunds a orderId) ≤ paidOf (validInvoices a orderId)
  satisfied : residualOf (validInvoices a orderId) = 0 →
    totalOf (validRefunds a orderId) < totalOf (validInvoices a orderId) ∨
      ∃ inv ∈ validMoves a orderId, inv.amountTotal = 0
  stillOpen : 0 < residualOf (validInvoices a orderId) →
    residualOf (validRefunds a orderId) < residualOf (validInvoices a orderId) ∨
      totalOf (validInvoices a orderId) ≤ totalOf (validRefunds a orderId) ∧
        ∀ inv ∈ validMoves a orderId, inv.amountTotal ≠ 0

theorem paidOf_eq (moves : List MockInvoice) : paidOf moves = totalOf moves - residualOf moves := by
  unfold paidOf totalOf residualOf
  induction moves with
  | nil => simp
  | cons inv moves ih =>
      rw [List.map_cons, List.map_cons, List.map_cons, List.sum_cons, List.sum_cons, List.sum_cons,
        ih]
      ring

/-! ## What the loop adds up -/

/-- Over moves in cents the loop adds the invoices up and takes the refunds off. -/
theorem foldl_tally (entries : List (ℤ × MockInvoice)) (sums : ℚ × ℚ)
    (cents : ∀ entry ∈ entries, IsCents entry.2.amountTotal ∧ IsCents entry.2.amountResidual) :
    (entries.map fun entry => AccountingAdapter.summary entry.1 entry.2).foldl
        AccountingAdapter.tally sums =
      (((entries.map (·.2)).map (signed (·.amountTotal))).foldl
          (fun total x => float64 (total + x)) sums.1,
        ((entries.map (·.2)).map (signed (·.amountResidual))).foldl
          (fun total x => float64 (total + x)) sums.2) := by
  induction entries generalizing sums with
  | nil => rfl
  | cons entry entries ih =>
      rw [List.forall_mem_cons] at cents
      obtain ⟨⟨total, residual⟩, rest⟩ := cents
      have step : AccountingAdapter.tally sums (AccountingAdapter.summary entry.1 entry.2) =
          (float64 (sums.1 + signed (·.amountTotal) entry.2),
            float64 (sums.2 + signed (·.amountResidual) entry.2)) := by
        unfold AccountingAdapter.tally AccountingAdapter.summary signed
        dsimp only
        rw [total.roundTo_two, residual.roundTo_two]
        split
        · rw [sub_eq_add_neg, sub_eq_add_neg]
        · rfl
      rw [List.map_cons, List.foldl_cons, ih _ rest, step]
      rfl

section Status

variable {a : AccountingAdapter} {orderId : ℤ}

/-- The entries behind the moves that are not cancelled. -/
def validEntries (a : AccountingAdapter) (orderId : ℤ) : List (ℤ × MockInvoice) :=
  a.mockInvoices.filter fun entry => entry.2.orderId = orderId ∧ entry.2.state ≠ .cancel

theorem map_validEntries : (validEntries a orderId).map (·.2) = validMoves a orderId := by
  unfold validEntries validMoves
  rw [List.filter_map]
  rfl

theorem Invoiced.cents (invoiced : Invoiced a orderId) : ∀ entry ∈ validEntries a orderId,
    IsCents entry.2.amountTotal ∧ IsCents entry.2.amountResidual := by
  intro entry mem
  obtain ⟨held, valid⟩ := List.mem_filter.mp mem
  obtain ⟨total, residual, -⟩ := invoiced.amounts entry held (of_decide_eq_true valid).1
  exact ⟨total, residual⟩

/-- The moves that are not cancelled, as `get_invoice` reports them. -/
def validSummaries (a : AccountingAdapter) (orderId : ℤ) :
    List AccountingAdapter.InvoiceSummary :=
  (validEntries a orderId).map fun entry => AccountingAdapter.summary entry.1 entry.2

theorem getPaymentStatus_of_invoiced (invoiced : Invoiced a orderId) :
    a.getPaymentStatus orderId =
      .ok (AccountingAdapter.aggregateStatus orderId (validSummaries a orderId)) := by
  obtain ⟨order, known⟩ := invoiced.known
  have invoices : a.getOrderInvoices orderId =
      .ok ((a.mockInvoices.filter fun entry => entry.2.orderId = orderId).map fun entry =>
        AccountingAdapter.summary entry.1 entry.2) := by
    unfold AccountingAdapter.getOrderInvoices
    rw [known]
  have valid : ((a.mockInvoices.filter fun entry => entry.2.orderId = orderId).map fun entry =>
        AccountingAdapter.summary entry.1 entry.2).filter (fun inv => inv.state ≠ .cancel) =
      validSummaries a orderId := by
    unfold validSummaries validEntries
    rw [List.filter_map, List.filter_filter]
    refine congrArg _ (List.filter_congr fun entry _ => ?_)
    simp [AccountingAdapter.summary, Bool.and_comm]
  have some : validSummaries a orderId ≠ [] := by
    intro none
    have noEntry : validEntries a orderId = [] := List.map_eq_nil_iff.mp none
    refine invoiced.invoiced ?_
    unfold validInvoices
    rw [← map_validEntries, noEntry]
    rfl
  unfold AccountingAdapter.getPaymentStatus
  rw [invoices, known]
  dsimp only
  rw [valid, if_neg some, if_neg fun none => some ?_]
  rw [← valid, none]
  rfl

theorem Invoiced.valid (invoiced : Invoiced a orderId) : ∀ inv ∈ validMoves a orderId,
    IsCents inv.amountTotal ∧ IsCents inv.amountResidual ∧ 0 ≤ inv.amountResidual ∧
      inv.amountResidual ≤ inv.amountTotal := by
  intro inv mem
  obtain ⟨held, valid⟩ := List.mem_filter.mp mem
  obtain ⟨entry, memEntry, rfl⟩ := List.mem_map.mp held
  exact invoiced.amounts entry memEntry (of_decide_eq_true valid).1

theorem Invoiced.isCents (invoiced : Invoiced a orderId) (p : MockInvoice → Bool) :
    IsCents (totalOf ((validMoves a orderId).filter p)) ∧
      IsCents (residualOf ((validMoves a orderId).filter p)) := by
  constructor
  · refine isCents_sum fun x mem => ?_
    obtain ⟨inv, memInv, rfl⟩ := List.mem_map.mp mem
    exact (invoiced.valid inv (List.mem_filter.mp memInv).1).1
  · refine isCents_sum fun x mem => ?_
    obtain ⟨inv, memInv, rfl⟩ := List.mem_map.mp mem
    exact (invoiced.valid inv (List.mem_filter.mp memInv).1).2.1

/-- The status in terms of the two balances. -/
theorem aggregateStatus_eq (invoiced : Invoiced a orderId) :
    (AccountingAdapter.aggregateStatus orderId (validSummaries a orderId)).amountPaid =
        roundTo 2 (max 0 (float64 (netTotal a orderId - max 0 (netDue a orderId)))) ∧
      ((AccountingAdapter.aggregateStatus orderId (validSummaries a orderId)).isPaid = true ↔
        netDue a orderId ≤ 0 ∧
          (0 < netTotal a orderId ∨ ∃ inv ∈ validMoves a orderId, inv.amountTotal = 0)) := by
  have sums : (validSummaries a orderId).foldl AccountingAdapter.tally (0, 0) =
      (netTotal a orderId, netDue a orderId) := by
    unfold validSummaries
    rw [foldl_tally _ _ invoiced.cents, map_validEntries]
    rfl
  have nothing : ((validSummaries a orderId).any fun inv => inv.amountTotal = 0) = true ↔
      ∃ inv ∈ validMoves a orderId, inv.amountTotal = 0 := by
    rw [List.any_eq_true, ← map_validEntries]
    unfold validSummaries
    simp only [List.mem_map, exists_exists_and_eq_and, decide_eq_true_eq]
    refine exists_congr fun entry => and_congr_right fun mem => ?_
    unfold AccountingAdapter.summary
    dsimp only
    rw [(invoiced.cents entry mem).1.roundTo_two]
  unfold AccountingAdapter.aggregateStatus
  dsimp only
  rw [sums]
  refine ⟨rfl, ?_⟩
  rw [Bool.and_eq_true, Bool.or_eq_true, decide_eq_true_eq, decide_eq_true_eq, nothing, max_le_iff]
  exact and_congr_left fun _ => and_iff_right le_rfl

/-- Nothing is open on the invoices exactly when each of them is satisfied. -/
theorem residualOf_eq_zero_iff (invoiced : Invoiced a orderId) :
    residualOf (validInvoices a orderId) = 0 ↔
      ∀ inv ∈ validInvoices a orderId, inv.amountResidual = 0 := by
  have nonneg : ∀ x ∈ (validInvoices a orderId).map (·.amountResidual), 0 ≤ x := by
    intro x mem
    obtain ⟨inv, memInv, rfl⟩ := List.mem_map.mp mem
    exact (invoiced.valid inv (List.mem_filter.mp memInv).1).2.2.1
  constructor
  · intro nothing inv mem
    exact List.all_zero_of_le_zero_le_of_sum_eq_zero nonneg nothing
      (List.mem_map.mpr ⟨inv, mem, rfl⟩)
  · intro satisfied
    refine List.sum_eq_zero fun x mem => ?_
    obtain ⟨inv, memInv, rfl⟩ := List.mem_map.mp mem
    exact satisfied inv memInv

theorem residualOf_nonneg (invoiced : Invoiced a orderId) (p : MockInvoice → Bool) :
    0 ≤ residualOf ((validMoves a orderId).filter p) := by
  refine List.sum_nonneg fun x mem => ?_
  obtain ⟨inv, memInv, rfl⟩ := List.mem_map.mp mem
  exact (invoiced.valid inv (List.mem_filter.mp memInv).1).2.2.1

end Status

/-- Clipping the two balances in turn leaves their difference alone when both are equal or the
clipping does nothing. -/
theorem clipped_eq_iff {total due : ℚ} :
    max 0 (total - max 0 due) = total - due ↔ total = due ∨ 0 ≤ due ∧ due ≤ total := by
  rcases le_total 0 due with nonneg | negative
  · rw [max_eq_right nonneg, max_eq_right_iff, sub_nonneg]
    constructor
    · exact fun le => .inr ⟨nonneg, le⟩
    · rintro (eq | ⟨-, le⟩)
      · exact eq.ge
      · exact le
  · rw [max_eq_left negative, sub_zero]
    constructor
    · intro clipped
      rcases le_total 0 total with some | none
      · rw [max_eq_right some] at clipped
        exact .inr ⟨by linarith, by linarith⟩
      · rw [max_eq_left none] at clipped
        exact .inl (by linarith)
    · rintro (rfl | ⟨nonneg, le⟩)
      · rw [max_eq_left negative, sub_self]
      · rw [max_eq_right (nonneg.trans le)]
        linarith

section Reports

variable {a : AccountingAdapter} {orderId : ℤ}

/-- What the status reports, in terms of the two balances. -/
theorem reportsPayments_balances (invoiced : Invoiced a orderId) :
    ReportsPayments a orderId ↔
      roundTo 2 (max 0 (float64 (netTotal a orderId - max 0 (netDue a orderId)))) =
        paidOf (validInvoices a orderId) - paidOf (validRefunds a orderId) ∧
      (netDue a orderId ≤ 0 ∧
          (0 < netTotal a orderId ∨ ∃ inv ∈ validMoves a orderId, inv.amountTotal = 0) ↔
        residualOf (validInvoices a orderId) = 0) := by
  obtain ⟨paid, isPaid⟩ := aggregateStatus_eq invoiced
  unfold ReportsPayments
  rw [getPaymentStatus_of_invoiced invoiced]
  constructor
  · rintro ⟨status, read, amount, flag⟩
    cases read
    rw [isPaid, ← residualOf_eq_zero_iff invoiced] at flag
    exact ⟨paid.symm.trans amount, flag⟩
  · rintro ⟨amount, flag⟩
    refine ⟨_, rfl, paid.trans amount, ?_⟩
    rw [isPaid, ← residualOf_eq_zero_iff invoiced]
    exact flag

/-- The flag says what is open exactly when satisfied invoices set it and open ones clear it. -/
theorem isPaid_iff (invoiced : Invoiced a orderId) :
    (netDue a orderId ≤ 0 ∧
          (0 < netTotal a orderId ∨ ∃ inv ∈ validMoves a orderId, inv.amountTotal = 0) ↔
        residualOf (validInvoices a orderId) = 0) ↔
      (residualOf (validInvoices a orderId) = 0 → netDue a orderId ≤ 0 ∧
        (0 < netTotal a orderId ∨ ∃ inv ∈ validMoves a orderId, inv.amountTotal = 0)) ∧
      (0 < residualOf (validInvoices a orderId) → 0 < netDue a orderId ∨
        netTotal a orderId ≤ 0 ∧ ∀ inv ∈ validMoves a orderId, inv.amountTotal ≠ 0) := by
  have invoicesOpen : 0 ≤ residualOf (validInvoices a orderId) := residualOf_nonneg invoiced _
  constructor
  · intro flag
    refine ⟨flag.mpr, fun more => ?_⟩
    have unpaid : ¬ (netDue a orderId ≤ 0 ∧
        (0 < netTotal a orderId ∨ ∃ inv ∈ validMoves a orderId, inv.amountTotal = 0)) :=
      fun set => more.ne' (flag.mp set)
    push Not at unpaid
    by_cases due : netDue a orderId ≤ 0
    · exact .inr (unpaid due)
    · exact .inl (not_le.mp due)
  · rintro ⟨satisfied, stillOpen⟩
    refine ⟨fun ⟨due, total⟩ => ?_, satisfied⟩
    by_contra more
    rcases stillOpen (lt_of_le_of_ne invoicesOpen (Ne.symm more)) with open' | ⟨none, nonzero⟩
    · exact open'.not_ge due
    · rcases total with positive | ⟨inv, mem, zero⟩
      · exact none.not_gt positive
      · exact nonzero inv mem zero

/-- The doubles add the moves of an order up to what they come to. -/
structure ExactSums (a : AccountingAdapter) (orderId : ℤ) : Prop where
  total : netTotal a orderId = totalOf (validInvoices a orderId) - totalOf (validRefunds a orderId)
  due : netDue a orderId =
    residualOf (validInvoices a orderId) - residualOf (validRefunds a orderId)
  paid : float64 (netTotal a orderId - max 0 (netDue a orderId)) =
    netTotal a orderId - max 0 (netDue a orderId)

/-- Where the doubles add up exactly, the status reports the payments exactly when the refunds stay
within the invoices. -/
theorem reportsPayments_of_exact (invoiced : Invoiced a orderId) (exact : ExactSums a orderId) :
    ReportsPayments a orderId ↔ RefundsWithin a orderId := by
  have refundsOpen : 0 ≤ residualOf (validRefunds a orderId) := residualOf_nonneg invoiced _
  have difference : paidOf (validInvoices a orderId) - paidOf (validRefunds a orderId) =
      netTotal a orderId - netDue a orderId := by
    rw [paidOf_eq, paidOf_eq, exact.total, exact.due]
    ring
  have cents : IsCents (max 0 (netTotal a orderId - max 0 (netDue a orderId))) := by
    obtain ⟨total, residual⟩ := invoiced.isCents fun inv => inv.moveType ≠ .outRefund
    obtain ⟨total', residual'⟩ := invoiced.isCents fun inv => inv.moveType = .outRefund
    rw [exact.total, exact.due]
    exact isCents_zero.max ((total.sub total').sub (isCents_zero.max (residual.sub residual')))
  have within : (netTotal a orderId = netDue a orderId ∨
        0 ≤ netDue a orderId ∧ netDue a orderId ≤ netTotal a orderId) ↔
      (paidOf (validRefunds a orderId) = paidOf (validInvoices a orderId) ∨
        residualOf (validRefunds a orderId) ≤ residualOf (validInvoices a orderId) ∧
          paidOf (validRefunds a orderId) ≤ paidOf (validInvoices a orderId)) := by
    rw [← sub_nonneg (a := netTotal a orderId), ← sub_eq_zero, ← difference, sub_eq_zero,
      sub_nonneg, exact.due, sub_nonneg, eq_comm]
  rw [reportsPayments_balances invoiced, isPaid_iff invoiced, exact.paid, cents.roundTo_two,
    difference, clipped_eq_iff, within]
  constructor
  · rintro ⟨paid, satisfied, stillOpen⟩
    rw [exact.total, exact.due] at stillOpen
    rw [exact.total] at satisfied
    exact ⟨paid, fun none => (satisfied none).2.imp_left sub_pos.mp,
      fun more => (stillOpen more).imp sub_pos.mp (And.imp_left sub_nonpos.mp)⟩
  · rintro ⟨paid, satisfied, stillOpen⟩
    rw [exact.total, exact.due]
    refine ⟨paid, fun none => ⟨?_, (satisfied none).imp_left sub_pos.mpr⟩,
      fun more => (stillOpen more).imp sub_pos.mpr (And.imp_left sub_nonpos.mpr)⟩
    rw [none]
    linarith

end Reports

/-! ## Orders without refunds -/

section NoRefunds

variable {a : AccountingAdapter} {orderId : ℤ}

theorem float64_pos_of_cents {x : ℚ} (cents : IsCents x) (pos : 0 < x) : 0 < float64 x := by
  obtain ⟨n, whole⟩ := cents
  have cent : (1 : ℚ) / 100 ≤ x := by
    have some : (0 : ℚ) < n := whole ▸ mul_pos pos (by norm_num)
    have one : (1 : ℚ) ≤ n := by exact_mod_cast some
    linarith
  have least : 0 < float64 (1 / 100) := by decide +kernel
  exact least.trans_le (rounds_float64.mono cent)

/-- Amounts that are all counted add up to something exactly when one of them is something. -/
theorem runningSum_signed_pos {moves : List MockInvoice} (amount : MockInvoice → ℚ)
    (invoices : ∀ inv ∈ moves, inv.moveType ≠ .outRefund)
    (cents : ∀ inv ∈ moves, IsCents (amount inv)) (nonneg : ∀ inv ∈ moves, 0 ≤ amount inv) :
    0 < runningSum float64 (moves.map (signed amount)) ↔ ∃ inv ∈ moves, 0 < amount inv := by
  have counted : ∀ inv ∈ moves, signed amount inv = float64 (amount inv) := fun inv mem =>
    if_neg (invoices inv mem)
  constructor
  · intro some
    by_contra none
    push Not at none
    refine some.ne' (runningSum_of_zero rounds_float64 fun x mem => ?_)
    obtain ⟨inv, memInv, rfl⟩ := List.mem_map.mp mem
    rw [counted inv memInv, le_antisymm (none inv memInv) (nonneg inv memInv)]
    exact rounds_float64.zero
  · rintro ⟨inv, mem, pos⟩
    refine (float64_pos_of_cents (cents inv mem) pos).trans_le (le_runningSum rounds_float64 ?_
      (List.mem_map.mpr ⟨inv, mem, counted inv mem⟩) (rounds_float64.idem _))
    intro x memX
    obtain ⟨other, memOther, rfl⟩ := List.mem_map.mp memX
    rw [counted other memOther]
    exact rounds_float64.nonneg (nonneg other memOther)

/-- An order without refunds is reported as paid exactly when every invoice of it is satisfied. -/
theorem isPaid_of_noRefunds (invoiced : Invoiced a orderId) (none : validRefunds a orderId = []) :
    ∃ status, a.getPaymentStatus orderId = .ok status ∧
      (status.isPaid = true ↔ ∀ inv ∈ validInvoices a orderId, inv.amountResidual = 0) := by
  have invoices : ∀ inv ∈ validMoves a orderId, inv.moveType ≠ .outRefund := by
    intro inv mem refund
    have refunded : inv ∈ validRefunds a orderId :=
      List.mem_filter.mpr ⟨mem, decide_eq_true refund⟩
    rw [none] at refunded
    exact absurd refunded List.not_mem_nil
  have all : validInvoices a orderId = validMoves a orderId :=
    List.filter_eq_self.mpr fun inv mem => decide_eq_true (invoices inv mem)
  have valid := invoiced.valid
  have due : 0 < netDue a orderId ↔ _ := runningSum_signed_pos (·.amountResidual) invoices
    (fun inv mem => (valid inv mem).2.1) fun inv mem => (valid inv mem).2.2.1
  have total : 0 < netTotal a orderId ↔ _ := runningSum_signed_pos (·.amountTotal) invoices
    (fun inv mem => (valid inv mem).1)
    fun inv mem => (valid inv mem).2.2.1.trans (valid inv mem).2.2.2
  refine ⟨_, getPaymentStatus_of_invoiced invoiced, ?_⟩
  rw [(aggregateStatus_eq invoiced).2, ← not_lt, due, total, all]
  push Not
  constructor
  · rintro ⟨nothing, -⟩ inv mem
    exact le_antisymm (nothing inv mem) (valid inv mem).2.2.1
  · intro satisfied
    obtain ⟨inv, mem⟩ := List.exists_mem_of_ne_nil _ (all ▸ invoiced.invoiced)
    refine ⟨fun inv mem => (satisfied inv mem).le, ?_⟩
    rcases ((valid inv mem).2.2.1.trans (valid inv mem).2.2.2).eq_or_lt with zero | pos
    · exact .inr ⟨inv, mem, zero.symm⟩
    · exact .inl ⟨inv, mem, pos⟩

end NoRefunds

/-! ## Credit notes -/

def move (moveType : MoveType) (orderId : ℤ) (total residual : ℚ) : MockInvoice :=
  { name := "INV/2026", orderId, invoiceOrigin := "SO", moveType, amountTotal := total,
    amountResidual := residual, invoiceDate := "2026-01-31",
    paymentState := if residual = 0 then .paid else .inPayment }

/-- One order with half of its invoice open and a credit note as large, one that is paid in full
with a small credit note paid out. -/
def creditStore : AccountingAdapter :=
  { mockOrders := fun id => if id = 1 ∨ id = 2 then some { amountTotal := 100 } else none
    mockInvoices :=
      [(1001, move .outInvoice 1 100 50), (1002, move .outRefund 1 50 50),
       (1003, move .outInvoice 2 100 0), (1004, move .outRefund 2 30 0)] }

theorem creditStore_amounts : ∀ entry ∈ creditStore.mockInvoices,
    IsCents entry.2.amountTotal ∧ IsCents entry.2.amountResidual ∧
      0 ≤ entry.2.amountResidual ∧ entry.2.amountResidual ≤ entry.2.amountTotal := by
  decide +kernel

-- in doubles 1.10 and 2.20 less 3.30 leave something
example : 0 < runningSum float64 ([move .outInvoice 1 (11 / 10) (11 / 10),
    move .outInvoice 1 (22 / 10) 0, move .outRefund 1 (33 / 10) (11 / 10)].map
      (signed (·.amountTotal))) := by
  decide +kernel

end DealFlow.Addon
