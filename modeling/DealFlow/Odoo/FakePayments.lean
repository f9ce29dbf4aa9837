import DealFlow.Lib.Dict
import DealFlow.Lib.Run
import DealFlow.Odoo.FakeBooks

/-!
# The payments of the in-memory gateway

`FakeOdooGateway.register_payment` with the records it keeps of payments, by the order of the
invoice.  `DealFlow.Odoo.FakeBooks` has the call without them, and what is done to the books is the
same.  The gateway takes any amount, clips the residual of an invoice but not what is paid on it,
and numbers a payment after its invoice alone.  So its books are a ledger along a run exactly when
every payment is a part of the residual in cents and the first one on its invoice
(`ledger_run_iff`).  The date of a payment, which nothing here reads, is left out.
-/

namespace DealFlow

open Lib

structure FakePayment where
  id : ℤ
  invoiceId : ℤ
  amount : ℚ
  deriving DecidableEq, Repr

/-- The books and the payments by order. -/
structure FakePayments extends FakeBooks where
  payments : Dict ℤ (List FakePayment) := .empty

namespace FakePayments

/-- The order whose invoices the loop finds an invoice among. -/
def orderOf (invoiceId : ℤ) (books : List (ℤ × List FakeInvoice)) : Option ℤ :=
  (books.find? fun entry => entry.2.any fun inv => inv.id = invoiceId).map (·.1)

def registerPayment (invoiceId : ℤ) (amount : ℚ) : OdooCall FakePayments PaymentRecord := fun s =>
  let paid := FakeBooks.registerPayment invoiceId amount s.toFakeBooks
  match orderOf invoiceId s.invoices with
  | none => (paid.1, { s with toFakeBooks := paid.2 })
  | some oid =>
      (paid.1,
        { toFakeBooks := paid.2
          payments := s.payments.push oid { id := invoiceId * 100 + 1, invoiceId, amount } })

/-- The answer and the books are those of the gateway without the records. -/
theorem registerPayment_books (invoiceId : ℤ) (amount : ℚ) (s : FakePayments) :
    (registerPayment invoiceId amount s).1 =
        (FakeBooks.registerPayment invoiceId amount s.toFakeBooks).1 ∧
      (registerPayment invoiceId amount s).2.toFakeBooks =
        (FakeBooks.registerPayment invoiceId amount s.toFakeBooks).2 := by
  unfold registerPayment
  dsimp only
  split
  · exact ⟨rfl, rfl⟩
  · exact ⟨rfl, rfl⟩

/-- The invoices of all orders. -/
def allInvoices (s : FakePayments) : List FakeInvoice :=
  s.invoices.flatMap (·.2)

/-- What the payments recorded for an invoice come to. -/
def recordedFor (s : FakePayments) (invoiceId : ℤ) : ℚ :=
  ((s.payments.flatten.filter fun p => p.invoiceId = invoiceId).map (·.amount)).sum

end FakePayments

/-- A payment that the API passes on. -/
structure PaymentCall where
  invoiceId : ℤ
  amount : ℚ

def PaymentCall.step (call : PaymentCall) (s : FakePayments) : FakePayments :=
  (FakePayments.registerPayment call.invoiceId call.amount s).2

/-- Every invoice is balanced and backed by its payments, and payments are told apart. -/
structure IsLedger (s : FakePayments) : Prop where
  balance : ∀ inv ∈ s.allInvoices, inv.amountPaid + inv.amountResidual = inv.amountTotal
  residual : ∀ inv ∈ s.allInvoices, 0 ≤ inv.amountResidual
  recorded : ∀ inv ∈ s.allInvoices, inv.amountPaid = s.recordedFor inv.id
  distinct : (s.payments.flatten.map (·.id)).Nodup

/-- Invoices as confirmations post them, each id once, and no payment yet. -/
structure Opened (s : FakePayments) : Prop where
  ids : (s.allInvoices.map (·.id)).Nodup
  opened : ∀ inv ∈ s.allInvoices,
    IsCents inv.amountTotal ∧ inv.amountPaid = 0 ∧ inv.amountResidual = inv.amountTotal
  unpaid : s.payments.flatten = []

/-- The payment is a part of the residual, in cents, and the first one on its invoice; one that is
for no invoice is not recorded. -/
def IsFirstPart (s : FakePayments) (call : PaymentCall) : Prop :=
  ∀ inv ∈ s.allInvoices, inv.id = call.invoiceId →
    IsCents call.amount ∧ call.amount ≤ inv.amountResidual ∧
      ∀ p ∈ s.payments.flatten, p.invoiceId ≠ inv.id

instance (s : FakePayments) (call : PaymentCall) : Decidable (IsFirstPart s call) :=
  inferInstanceAs (Decidable (∀ inv ∈ s.allInvoices, inv.id = call.invoiceId →
    IsCents call.amount ∧ call.amount ≤ inv.amountResidual ∧
      ∀ p ∈ s.payments.flatten, p.invoiceId ≠ inv.id))

/-! ## What a payment does to the invoices -/

/-- The invoice that a payment is on is paid, and the others left alone. -/
def payIf (invoiceId : ℤ) (amount : ℚ) (inv : FakeInvoice) : FakeInvoice :=
  if inv.id = invoiceId then FakeBooks.FakeInvoice.pay amount inv else inv

@[simp] theorem payIf_id (invoiceId : ℤ) (amount : ℚ) (inv : FakeInvoice) :
    (payIf invoiceId amount inv).id = inv.id := by
  unfold payIf
  split <;> rfl

theorem map_payIf_of_notMem {invoiceId : ℤ} {amount : ℚ} {invs : List FakeInvoice}
    (other : invoiceId ∉ invs.map (·.id)) : invs.map (payIf invoiceId amount) = invs := by
  refine (List.map_congr_left fun inv mem => ?_).trans (List.map_id _)
  exact if_neg fun same => other (List.mem_map.mpr ⟨inv, mem, same⟩)

theorem payFirst_eq {invoiceId : ℤ} {amount : ℚ} {invs : List FakeInvoice}
    (ids : (invs.map (·.id)).Nodup) :
    FakeBooks.payFirst invoiceId amount invs =
      if invoiceId ∈ invs.map (·.id) then some (invs.map (payIf invoiceId amount)) else none := by
  induction invs with
  | nil => rfl
  | cons inv invs ih =>
      rw [List.map_cons, List.nodup_cons] at ids
      rw [List.map_cons, List.map_cons]
      unfold FakeBooks.payFirst
      by_cases here : inv.id = invoiceId
      · subst here
        rw [if_pos rfl, if_pos List.mem_cons_self, map_payIf_of_notMem ids.1]
        unfold payIf
        rw [if_pos rfl]
      · rw [if_neg here, ih ids.2]
        have first : payIf invoiceId amount inv = inv := if_neg here
        by_cases later : invoiceId ∈ invs.map (·.id)
        · rw [if_pos later, if_pos (List.mem_cons_of_mem _ later), Option.map_some, first]
        · have missing : invoiceId ∉ inv.id :: invs.map (·.id) := fun mem =>
            (List.mem_cons.mp mem).elim (fun eq => here eq.symm) later
          rw [if_neg later, if_neg missing, Option.map_none]

theorem payAmong_eq {invoiceId : ℤ} {amount : ℚ} {books : List (ℤ × List FakeInvoice)}
    (ids : ((books.flatMap (·.2)).map (·.id)).Nodup) :
    (FakeBooks.payAmong invoiceId amount books).map (·.flatMap (·.2)) =
      if invoiceId ∈ (books.flatMap (·.2)).map (·.id) then
        some ((books.flatMap (·.2)).map (payIf invoiceId amount))
      else none := by
  induction books with
  | nil => rfl
  | cons entry books ih =>
      rcases entry with ⟨oid, invs⟩
      rw [List.flatMap_cons, List.map_append, List.nodup_append] at ids
      obtain ⟨own, rest, apart⟩ := ids
      rw [List.flatMap_cons, List.map_append, List.map_append]
      unfold FakeBooks.payAmong
      rw [payFirst_eq own]
      by_cases here : invoiceId ∈ invs.map (·.id)
      · have notLater : invoiceId ∉ (books.flatMap (·.2)).map (·.id) := fun later =>
          apart _ here _ later rfl
        rw [if_pos here, if_pos (List.mem_append_left _ here), map_payIf_of_notMem notLater]
        rfl
      · have same : invs.map (payIf invoiceId amount) = invs := map_payIf_of_notMem here
        rw [if_neg here]
        dsimp only
        rw [Option.map_map]
        have later := ih rest
        by_cases mem : invoiceId ∈ (books.flatMap (·.2)).map (·.id)
        · rw [if_pos mem] at later
          obtain ⟨paid, found, flat⟩ := Option.map_eq_some_iff.mp later
          rw [if_pos (List.mem_append_right _ mem), found, same, ← flat]
          rfl
        · rw [if_neg mem] at later
          rw [if_neg fun both => (List.mem_append.mp both).elim here mem,
            Option.map_eq_none_iff.mp later]
          rfl

theorem orderOf_eq_none_iff {invoiceId : ℤ} {books : List (ℤ × List FakeInvoice)} :
    FakePayments.orderOf invoiceId books = none ↔
      invoiceId ∉ (books.flatMap (·.2)).map (·.id) := by
  unfold FakePayments.orderOf
  rw [Option.map_eq_none_iff, List.find?_eq_none, List.mem_map]
  constructor
  · rintro none ⟨inv, mem, same⟩
    obtain ⟨entry, memEntry, memInv⟩ := List.mem_flatMap.mp mem
    exact none entry memEntry (List.any_eq_true.mpr ⟨inv, memInv, decide_eq_true same⟩)
  · intro none entry mem found
    obtain ⟨inv, memInv, same⟩ := List.any_eq_true.mp found
    exact none ⟨inv, List.mem_flatMap.mpr ⟨entry, mem, memInv⟩, of_decide_eq_true same⟩

section Step

variable {s : FakePayments} {call : PaymentCall}

/-- A payment for no invoice changes nothing. -/
theorem step_of_unknown (ids : (s.allInvoices.map (·.id)).Nodup)
    (unknown : call.invoiceId ∉ s.allInvoices.map (·.id)) : call.step s = s := by
  have among : FakeBooks.payAmong call.invoiceId call.amount s.invoices = none := by
    refine Option.map_eq_none_iff.mp ((payAmong_eq ids).trans ?_)
    exact if_neg unknown
  have nowhere : FakePayments.orderOf call.invoiceId s.invoices = none :=
    orderOf_eq_none_iff.mpr unknown
  unfold PaymentCall.step FakePayments.registerPayment FakeBooks.registerPayment
  dsimp only
  rw [nowhere, among]

/-- The record of a payment. -/
def PaymentCall.record (call : PaymentCall) : FakePayment :=
  { id := call.invoiceId * 100 + 1, invoiceId := call.invoiceId, amount := call.amount }

/-- A payment on an invoice is booked on it and recorded. -/
theorem step_of_known (ids : (s.allInvoices.map (·.id)).Nodup)
    (known : call.invoiceId ∈ s.allInvoices.map (·.id)) :
    (call.step s).allInvoices = s.allInvoices.map (payIf call.invoiceId call.amount) ∧
      (call.step s).payments.flatten.Perm (s.payments.flatten ++ [call.record]) := by
  obtain ⟨paid, among, flat⟩ := Option.map_eq_some_iff.mp ((payAmong_eq ids).trans (if_pos known))
  obtain ⟨oid, found⟩ := Option.ne_none_iff_exists'.mp fun none =>
    orderOf_eq_none_iff.mp none known
  unfold PaymentCall.step FakePayments.registerPayment FakeBooks.registerPayment
  dsimp only
  rw [found, among]
  exact ⟨flat, Dict.flatten_push ..⟩

theorem recordedFor_step (ids : (s.allInvoices.map (·.id)).Nodup)
    (known : call.invoiceId ∈ s.allInvoices.map (·.id)) (invoiceId : ℤ) :
    (call.step s).recordedFor invoiceId =
      s.recordedFor invoiceId + if call.invoiceId = invoiceId then call.amount else 0 := by
  have perm := (step_of_known ids known).2
  unfold FakePayments.recordedFor
  rw [((perm.filter _).map _).sum_eq, List.filter_append, List.map_append, List.sum_append]
  unfold PaymentCall.record
  by_cases same : call.invoiceId = invoiceId
  · simp [same]
  · simp [same]

/-! ## One payment and the ledger -/

/-- What a ledger of first parts is over and above. -/
structure InCents (s : FakePayments) : Prop where
  ids : (s.allInvoices.map (·.id)).Nodup
  ledger : IsLedger s
  cents : ∀ inv ∈ s.allInvoices, IsCents inv.amountTotal ∧ IsCents inv.amountPaid
  numbered : ∀ p ∈ s.payments.flatten, p.id = p.invoiceId * 100 + 1

/-- A payment adds exactly its amount when the amount is in cents. -/
theorem roundCents_add_iff {paid amount : ℚ} (cents : IsCents paid) :
    roundCents (paid + amount) = paid + amount ↔ IsCents amount := by
  constructor
  · intro exact_
    have sum : IsCents (paid + amount) := by
      rw [← exact_]
      exact isCents_roundCents _
    have difference := sum.sub cents
    rwa [add_sub_cancel_left] at difference
  · intro grid
    exact (cents.add grid).roundCents

/-- The books of the invoice that is paid are kept when the amount is a part of the residual, in
cents. -/
theorem pay_balanced_iff {inv : FakeInvoice} {amount : ℚ} (total : IsCents inv.amountTotal)
    (paid : IsCents inv.amountPaid)
    (balance : inv.amountPaid + inv.amountResidual = inv.amountTotal) :
    ((FakeBooks.FakeInvoice.pay amount inv).amountPaid +
          (FakeBooks.FakeInvoice.pay amount inv).amountResidual = inv.amountTotal ∧
        0 ≤ (FakeBooks.FakeInvoice.pay amount inv).amountResidual ∧
        (FakeBooks.FakeInvoice.pay amount inv).amountPaid = inv.amountPaid + amount) ↔
      IsCents amount ∧ amount ≤ inv.amountResidual := by
  unfold FakeBooks.FakeInvoice.pay
  dsimp only
  rw [roundCents_add_iff paid]
  constructor
  · rintro ⟨sum, nonneg, grid⟩
    rw [(roundCents_add_iff paid).mpr grid] at sum
    exact ⟨grid, by linarith⟩
  · rintro ⟨grid, part⟩
    have left : max 0 (inv.amountTotal - (inv.amountPaid + amount)) =
        inv.amountTotal - (inv.amountPaid + amount) := max_eq_right (by linarith)
    rw [left, (roundCents_add_iff paid).mpr grid, (total.sub (paid.add grid)).roundCents]
    exact ⟨by ring, by linarith, grid⟩

/-- The record of a payment has a number of its own exactly when no payment stands on its
invoice. -/
theorem distinct_step_iff (inCents : InCents s)
    (known : call.invoiceId ∈ s.allInvoices.map (·.id)) :
    ((call.step s).payments.flatten.map (·.id)).Nodup ↔
      ∀ p ∈ s.payments.flatten, p.invoiceId ≠ call.invoiceId := by
  have payments := (step_of_known inCents.ids known).2
  rw [(payments.map _).nodup_iff, List.map_append, List.nodup_append]
  constructor
  · rintro ⟨-, -, apart⟩ p memP same
    refine apart p.id (List.mem_map.mpr ⟨p, memP, rfl⟩) _ (List.mem_singleton_self _) ?_
    rw [inCents.numbered p memP, same]
    rfl
  · intro first
    refine ⟨inCents.ledger.distinct, List.nodup_singleton _, ?_⟩
    intro id memId other memOther same
    obtain ⟨p, memP, rfl⟩ := List.mem_map.mp memId
    rw [List.map_singleton, List.mem_singleton] at memOther
    rw [memOther, inCents.numbered p memP] at same
    change p.invoiceId * 100 + 1 = call.invoiceId * 100 + 1 at same
    exact first p memP (by omega)

/-- After a payment there are the invoice that is paid, and the others as they were. -/
theorem mem_step_iff (ids : (s.allInvoices.map (·.id)).Nodup) {inv : FakeInvoice}
    (mem : inv ∈ s.allInvoices) (on : inv.id = call.invoiceId) {other : FakeInvoice} :
    other ∈ (call.step s).allInvoices ↔
      other = FakeBooks.FakeInvoice.pay call.amount inv ∨
        other ∈ s.allInvoices ∧ other.id ≠ call.invoiceId := by
  have known : call.invoiceId ∈ s.allInvoices.map (·.id) := on ▸ List.mem_map.mpr ⟨inv, mem, rfl⟩
  have here : payIf call.invoiceId call.amount inv =
      FakeBooks.FakeInvoice.pay call.amount inv := if_pos on
  have elsewhere : ∀ {old : FakeInvoice}, old.id ≠ call.invoiceId →
      payIf call.invoiceId call.amount old = old := fun apart => if_neg apart
  rw [(step_of_known ids known).1]
  constructor
  · intro memOther
    obtain ⟨old, memOld, rfl⟩ := List.mem_map.mp memOther
    by_cases same : old.id = call.invoiceId
    · rw [List.inj_on_of_nodup_map ids memOld mem (same.trans on.symm)]
      exact .inl here
    · rw [elsewhere same]
      exact .inr ⟨memOld, same⟩
  · rintro (rfl | ⟨memOther, apart⟩)
    · exact List.mem_map.mpr ⟨inv, mem, here⟩
    · exact List.mem_map.mpr ⟨other, memOther, elsewhere apart⟩

/-- A payment on an invoice keeps the ledger exactly when it is its first part. -/
theorem isLedger_step_iff (inCents : InCents s) {inv : FakeInvoice} (mem : inv ∈ s.allInvoices)
    (on : inv.id = call.invoiceId) :
    IsLedger (call.step s) ↔
      (IsCents call.amount ∧ call.amount ≤ inv.amountResidual) ∧
        ∀ p ∈ s.payments.flatten, p.invoiceId ≠ inv.id := by
  have known : call.invoiceId ∈ s.allInvoices.map (·.id) := on ▸ List.mem_map.mpr ⟨inv, mem, rfl⟩
  have before := inCents.ledger
  obtain ⟨total, paid⟩ := inCents.cents inv mem
  have recorded := before.recorded inv mem
  have memHere := (mem_step_iff inCents.ids mem on).mpr (.inl rfl)
  rw [← pay_balanced_iff total paid (before.balance inv mem), on, ← distinct_step_iff inCents known]
  constructor
  · intro after
    refine ⟨⟨after.balance _ memHere, after.residual _ memHere, ?_⟩, after.distinct⟩
    have sum := after.recorded _ memHere
    rw [sum, recordedFor_step inCents.ids known, recorded]
    exact congrArg _ (if_pos on.symm)
  · rintro ⟨⟨balance, nonneg, booked⟩, distinct⟩
    refine ⟨fun other memOther => ?_, fun other memOther => ?_, fun other memOther => ?_, distinct⟩
    · rcases (mem_step_iff inCents.ids mem on).mp memOther with rfl | ⟨old, -⟩
      · exact balance
      · exact before.balance other old
    · rcases (mem_step_iff inCents.ids mem on).mp memOther with rfl | ⟨old, -⟩
      · exact nonneg
      · exact before.residual other old
    · rw [recordedFor_step inCents.ids known]
      rcases (mem_step_iff inCents.ids mem on).mp memOther with rfl | ⟨old, apart⟩
      · rw [booked, recorded]
        exact congrArg _ (if_pos on.symm).symm
      · rw [if_neg (Ne.symm apart), add_zero]
        exact before.recorded other old

theorem isFirstPart_iff (inCents : InCents s) : IsLedger (call.step s) ↔ IsFirstPart s call := by
  by_cases known : call.invoiceId ∈ s.allInvoices.map (·.id)
  · obtain ⟨inv, mem, on⟩ := List.mem_map.mp known
    rw [isLedger_step_iff inCents mem on]
    constructor
    · rintro ⟨⟨grid, part⟩, first⟩ other memOther onOther
      have eq : other = inv :=
        List.inj_on_of_nodup_map inCents.ids memOther mem (onOther.trans on.symm)
      rw [eq]
      exact ⟨grid, part, first⟩
    · intro firstPart
      obtain ⟨grid, part, first⟩ := firstPart inv mem on
      exact ⟨⟨grid, part⟩, first⟩
  · rw [step_of_unknown inCents.ids known]
    refine iff_of_true inCents.ledger fun inv mem on => ?_
    exact absurd (List.mem_map.mpr ⟨inv, mem, on⟩) known

/-- A ledger that is kept stays in cents. -/
theorem InCents.step (inCents : InCents s) (after : IsLedger (call.step s)) :
    InCents (call.step s) := by
  by_cases known : call.invoiceId ∈ s.allInvoices.map (·.id)
  · obtain ⟨invoices, payments⟩ := step_of_known inCents.ids known
    refine ⟨?_, after, ?_, ?_⟩
    · rw [invoices, List.map_map]
      refine (List.map_congr_left fun inv _ => ?_).symm ▸ inCents.ids
      exact payIf_id ..
    · rw [invoices]
      intro other mem
      obtain ⟨old, memOld, rfl⟩ := List.mem_map.mp mem
      unfold payIf
      split
      · exact ⟨(inCents.cents old memOld).1, isCents_roundCents _⟩
      · exact inCents.cents old memOld
    · intro p mem
      rcases List.mem_append.mp (payments.mem_iff.mp mem) with earlier | last
      · exact inCents.numbered p earlier
      · rw [List.mem_singleton.mp last]
        rfl
  · rw [step_of_unknown inCents.ids known]
    exact inCents

end Step

/-! ## Runs -/

theorem Opened.isLedger_iff {s : FakePayments} (opened : Opened s) :
    IsLedger s ↔ ∀ inv ∈ s.allInvoices, 0 ≤ inv.amountTotal := by
  constructor
  · intro ledger inv mem
    rw [← (opened.opened inv mem).2.2]
    exact ledger.residual inv mem
  · intro nonneg
    refine ⟨fun inv mem => ?_, fun inv mem => ?_, fun inv mem => ?_, ?_⟩
    · rw [(opened.opened inv mem).2.1, (opened.opened inv mem).2.2, zero_add]
    · rw [(opened.opened inv mem).2.2]
      exact nonneg inv mem
    · rw [(opened.opened inv mem).2.1]
      unfold FakePayments.recordedFor
      rw [opened.unpaid]
      rfl
    · rw [opened.unpaid]
      exact List.nodup_nil

/-- From invoices as they are posted, the books are a ledger at every moment of a run exactly when
no invoice is over a negative total and every payment is the first part of its invoice. -/
theorem ledger_run_iff {s : FakePayments} (opened : Opened s) (calls : List PaymentCall) :
    (∀ earlier later, calls = earlier ++ later → IsLedger (run PaymentCall.step earlier s)) ↔
      (∀ inv ∈ s.allInvoices, 0 ≤ inv.amountTotal) ∧
        ∀ t ∈ history PaymentCall.step calls s, IsFirstPart t.1 t.2 := by
  by_cases ledger : IsLedger s
  · have start : InCents s :=
      { ids := opened.ids
        ledger
        cents := fun inv mem => ⟨(opened.opened inv mem).1, by
          rw [(opened.opened inv mem).2.1]
          exact isCents_zero⟩
        numbered := by
          rw [opened.unpaid]
          exact List.forall_mem_nil _ }
    rw [run_states_iff PaymentCall.step ledger, ← opened.isLedger_iff]
    refine Iff.trans ?_ (and_iff_right ledger).symm
    exact run_forall_iff InCents start
      (fun now call (_ : True) inCents => isFirstPart_iff inCents)
      (fun now call _ inCents firstPart => inCents.step ((isFirstPart_iff inCents).mpr firstPart))
      calls fun _ _ => trivial
  · exact iff_of_false (fun states => ledger (states [] calls rfl))
      fun both => ledger (opened.isLedger_iff.mpr both.1)

theorem ids_of_confirmed {books : List (ℤ × List FakeInvoice)}
    (confirmed : ∀ entry ∈ books, ∃ lines, entry.2 = [FakeBooks.openingInvoice entry.1 lines]) :
    (books.flatMap (·.2)).map (·.id) = books.map fun entry => entry.1 * 10 + 1 := by
  induction books with
  | nil => rfl
  | cons entry books ih =>
      obtain ⟨⟨lines, one⟩, rest⟩ := List.forall_mem_cons.mp confirmed
      rw [List.flatMap_cons, List.map_append, ih rest, one]
      rfl

/-- Invoices that confirmations posted, one for each order, are invoices as they are posted. -/
theorem opened_of_confirmed {s : FakePayments} (orders : (s.invoices.map (·.1)).Nodup)
    (confirmed : ∀ entry ∈ s.invoices, ∃ lines,
      entry.2 = [FakeBooks.openingInvoice entry.1 lines])
    (unpaid : s.payments.flatten = []) : Opened s where
  ids := by
    unfold FakePayments.allInvoices
    rw [ids_of_confirmed confirmed]
    refine List.Nodup.map_on (fun entry mem other memOther same => ?_) (orders.of_map _)
    exact List.inj_on_of_nodup_map orders mem memOther (by omega)
  opened := by
    intro inv mem
    obtain ⟨entry, memEntry, memInv⟩ := List.mem_flatMap.mp mem
    obtain ⟨lines, one⟩ := confirmed entry memEntry
    rw [one] at memInv
    rw [List.mem_singleton.mp memInv]
    exact ⟨isCents_roundCents _, rfl, rfl⟩
  unpaid := unpaid

/-- A line of one service at a price. -/
def soldService (price : ℚ) : RawOrderLine :=
  { id := 1001, productId := 103, productName := "Service", categoryId := 1,
    productType := "SERVICE", qty := 1, priceUnit := price, discountPct := 0, unitCost := 0,
    taxRatePct := 18 }

/-- An invoice over 100.00, and one over 50.00. -/
def tillBooks : FakePayments :=
  { products := ∅
    stock := ∅
    orders := ∅
    invoices :=
      [(1, [FakeBooks.openingInvoice 1 [soldService 100]]),
       (2, [FakeBooks.openingInvoice 2 [soldService 50]])] }

theorem tillBooks_opened : Opened tillBooks := by
  refine opened_of_confirmed (by decide) (fun entry mem => ?_) rfl
  simp only [tillBooks, List.mem_cons, List.not_mem_nil, or_false] at mem
  rcases mem with rfl | rfl
  · exact ⟨_, rfl⟩
  · exact ⟨_, rfl⟩

/-- A part of one invoice, all of the other, and a payment for no invoice. -/
theorem tillBooks_ledger :
    Opened tillBooks ∧
      ∀ earlier later, [⟨11, 30⟩, ⟨21, 50⟩, ⟨31, 5⟩] = earlier ++ later →
        IsLedger (run PaymentCall.step earlier tillBooks) := by
  refine ⟨tillBooks_opened, (ledger_run_iff tillBooks_opened _).mpr ⟨by decide +kernel, ?_⟩⟩
  decide +kernel

/-- The second part of an invoice takes the id of the first. -/
theorem tillBooks_second_part :
    Opened tillBooks ∧
      ¬ ∀ earlier later, [⟨11, 30⟩, ⟨11, 30⟩] = earlier ++ later →
        IsLedger (run PaymentCall.step earlier tillBooks) := by
  refine ⟨tillBooks_opened, fun ledger => ?_⟩
  exact absurd (ledger _ [] (List.append_nil _).symm).distinct (by decide +kernel)

end DealFlow
