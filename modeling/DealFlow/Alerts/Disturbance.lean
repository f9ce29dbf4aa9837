import DealFlow.Alerts.Stalled

/-!
# Detectors that disturb what they measure

A detector records the alerts it raises and resolves in the audit log, and every audit event marks
its deal as active.  So the stalled alert a pass raises is gone after the next one: by then the deal
has been active a moment ago.  `leavesAlone_iff` says when detectors leave alone what they measure:
where they find every alert open that should be and no others, or where the deals they write events
about have been active at this very moment anyway.
-/

namespace DealFlow

open Lib

/-- The last activity on every deal is what it was. -/
def SameActivity (before after : AlertDb) : Prop :=
  ∀ dealId, (after.deals.row dealId).map (·.lastActivityAt) =
    (before.deals.row dealId).map (·.lastActivityAt)

/-- Two passes in a row leave open what one does, and no detector changes the activity of a deal. -/
structure LeavesAlone (db : AlertDb) (now : Timestamp) (stalledDays : ℤ)
    (pickings : PickingReader) (graceDays : ℤ) : Prop where
  twice : ∀ id dealId type,
    (detectStalledDeals now (detectStalledDeals now db stalledDays).1 stalledDays).1.openAt id
        dealId type =
      (detectStalledDeals now db stalledDays).1.openAt id dealId type
  stalled : SameActivity db (detectStalledDeals now db stalledDays).1
  slippage : SameActivity db (detectDeliverySlippages now pickings db graceDays).1
  anomaly : ∀ dealId, SameActivity db (detectDealDiscountAnomaly now db dealId).1

/-- On every deal the alerts that should be open are open and no others, or the deal has been active
at this moment. -/
structure AlertsInOrder (db : AlertDb) (now : Timestamp) (stalledDays : ℤ)
    (pickings : PickingReader)
    (graceDays : ℤ) : Prop where
  stalled : ∀ dealId d, db.deals.row dealId = some d →
    db.hasOpen dealId .stalledDeal = stalledNow now stalledDays d ∨ d.lastActivityAt = now
  slippage : ∀ dealId d, db.deals.row dealId = some d → d.status ∈ monitoredStatuses →
    db.hasOpen dealId .deliverySlippage = (slippageOf now pickings graceDays d).isSome ∨
      d.lastActivityAt = now
  anomaly : ∀ dealId d, db.deals.row dealId = some d →
    (anomalyVerdict db.deals db.snapshots d).opens (db.hasOpen dealId .discountAnomaly) =
      db.hasOpen dealId .discountAnomaly ∨ d.lastActivityAt = now

/-! ## Deals marked as active -/

section Touched

variable {before after : AlertDb} {now : Timestamp}

/-- Where a pass marks the deals of a kind as active, it leaves the activity as it is exactly where
those have been active at this moment. -/
theorem sameActivity_iff (marks : ℕ → Prop) [DecidablePred marks]
    (rows : ∀ dealId, after.deals.row dealId =
      if marks dealId then (before.deals.row dealId).map (DealRow.touch now)
      else before.deals.row dealId) :
    SameActivity before after ↔
      ∀ dealId d, before.deals.row dealId = some d → marks dealId → d.lastActivityAt = now := by
  constructor
  · intro same dealId d row marked
    have here := same dealId
    rw [rows, if_pos marked, row] at here
    exact (Option.some.inj here).symm
  · intro recent dealId
    rw [rows]
    split
    · next marked =>
        cases row : before.deals.row dealId with
        | none => rfl
        | some d => exact congrArg some (recent dealId d row marked).symm
    · rfl

/-- A deal that has been active at this moment is not changed by marking it. -/
theorem touch_self {d : DealRow} (recent : d.lastActivityAt = now) : d.touch now = d := by
  subst recent
  rfl

end Touched

/-! ## The three detectors -/

section Detectors

variable {db : AlertDb} (now : Timestamp)

theorem stalled_sameActivity_iff (stalledDays : ℤ) (one : db.OneOpen) :
    SameActivity db (detectStalledDeals now db stalledDays).1 ↔
      ∀ dealId d, db.deals.row dealId = some d →
        db.hasOpen dealId .stalledDeal = stalledNow now stalledDays d ∨
          d.lastActivityAt = now := by
  obtain ⟨-, -, rows, -⟩ := detectStalledDeals_outcome now stalledDays one
  rw [sameActivity_iff
    (fun dealId => ¬ db.stalledAfter now stalledDays dealId = db.hasOpen dealId .stalledDeal)
    fun dealId => (rows dealId).trans (ite_not ..).symm]
  refine forall₃_congr fun dealId d row => ?_
  unfold AlertDb.stalledAfter
  rw [row, eq_comm, Classical.or_iff_not_imp_left]

theorem slippage_sameActivity_iff (pickings : PickingReader) (graceDays : ℤ) (one : db.OneOpen) :
    SameActivity db (detectDeliverySlippages now pickings db graceDays).1 ↔
      ∀ dealId d, db.deals.row dealId = some d → d.status ∈ monitoredStatuses →
        db.hasOpen dealId .deliverySlippage = (slippageOf now pickings graceDays d).isSome ∨
          d.lastActivityAt = now := by
  rw [detectDeliverySlippages_eq, sameActivity_iff
    (fun dealId => dealId ∈ db.dealsIn monitoredStatuses ∧
      db.writesOn (fun _ _ => slippageVerdict now pickings graceDays) .deliverySlippage dealId =
        true)
    fun dealId => ?_]
  · refine forall₃_congr fun dealId d row => ?_
    rw [mem_dealsIn_of_row row, writesOn_iff _ _ row, slippageVerdict_opens, and_imp,
      Classical.or_iff_not_imp_left]
    exact imp_congr_right fun _ => imp_congr_left ne_comm
  · by_cases mem : dealId ∈ db.dealsIn monitoredStatuses
    · rw [(pass_outcome _ _ now mem (dealsIn_nodup db _) one (steadyAt_own now _ _ _ _)).2]
      simp only [mem, true_and]
    · rw [pass_row _ _ now mem one, if_neg fun marked => mem marked.1]

theorem anomaly_sameActivity_iff (dealId : ℕ) (one : db.OneOpen) :
    SameActivity db (detectDealDiscountAnomaly now db dealId).1 ↔
      ∀ d, db.deals.row dealId = some d →
        (anomalyVerdict db.deals db.snapshots d).opens (db.hasOpen dealId .discountAnomaly) =
          db.hasOpen dealId .discountAnomaly ∨ d.lastActivityAt = now := by
  obtain ⟨-, -, deals, -⟩ := detectBy_outcome
    (fun deals snapshots d => anomalyVerdict deals snapshots d) .discountAnomaly now dealId one
  rw [detectDealDiscountAnomaly_eq, sameActivity_iff
    (fun other => other = dealId ∧ db.writesOn
      (fun deals snapshots d => anomalyVerdict deals snapshots d) .discountAnomaly dealId = true)
    fun other => ?_]
  · have marks := fun d (row : db.deals.row dealId = some d) => writesOn_iff
      (fun deals snapshots d => anomalyVerdict deals snapshots d) .discountAnomaly row
    constructor
    · intro recent d row
      rw [Classical.or_iff_not_imp_left]
      exact fun changes => recent dealId d row ⟨rfl, (marks d row).mpr changes⟩
    · intro settled other d row marked
      obtain ⟨rfl, writes⟩ := marked
      exact (settled d row).resolve_left ((marks d row).mp writes)
  · rw [deals, Table.row_modify]
    refine if_congr ?_ rfl rfl
    split
    · next writes => simp [writes]
    · next quiet => simp [quiet]

/-- A pass that changes the activity of no deal opens and closes nothing when it is repeated. -/
theorem twice_of_sameActivity (stalledDays : ℤ) (one : db.OneOpen)
    (settled : ∀ dealId d, db.deals.row dealId = some d →
      db.hasOpen dealId .stalledDeal = stalledNow now stalledDays d ∨ d.lastActivityAt = now)
    (id dealId : ℕ) (type : AlertType) :
    (detectStalledDeals now (detectStalledDeals now db stalledDays).1 stalledDays).1.openAt id
        dealId type =
      (detectStalledDeals now db stalledDays).1.openAt id dealId type := by
  obtain ⟨one₁, opened, rows, -⟩ := detectStalledDeals_outcome now stalledDays one
  have sameRows : ∀ dealId, (detectStalledDeals now db stalledDays).1.deals.row dealId =
      db.deals.row dealId := by
    intro dealId
    rw [rows]
    split
    · rfl
    · next changes =>
        cases row : db.deals.row dealId with
        | none => rfl
        | some d =>
            unfold AlertDb.stalledAfter at changes
            rw [row] at changes
            have recent := (settled dealId d row).resolve_left fun same => changes same.symm
            exact congrArg some (touch_self recent)
  refine detectStalledDeals_quiet now stalledDays one₁ (fun dealId => ?_) id dealId type
  rw [opened, if_pos rfl]
  unfold AlertDb.stalledAfter
  rw [sameRows]
  split
  · next none =>
      rw [opened, if_pos rfl]
      unfold AlertDb.stalledAfter
      rw [none]
  · rfl

end Detectors

/-- In every state alerts get to, the detectors leave alone what they measure exactly where they
find the alerts in order. -/
theorem leavesAlone_iff (deals : Table DealRow) (snapshots : Snapshots) (ops : List AlertOp)
    (now : Timestamp) (stalledDays : ℤ) (pickings : PickingReader) (graceDays : ℤ) :
    LeavesAlone (run AlertOp.step ops { deals, snapshots }) now stalledDays pickings graceDays ↔
      AlertsInOrder (run AlertOp.step ops { deals, snapshots }) now stalledDays pickings
        graceDays := by
  have one : (run AlertOp.step ops { deals, snapshots }).OneOpen :=
    oneOpen_run ops fun _ _ _ _ here _ => by cases here
  generalize run AlertOp.step ops { deals, snapshots } = db at *
  constructor
  · intro alone
    exact ⟨(stalled_sameActivity_iff now stalledDays one).mp alone.stalled,
      (slippage_sameActivity_iff now pickings graceDays one).mp alone.slippage,
      fun dealId => (anomaly_sameActivity_iff now dealId one).mp (alone.anomaly dealId)⟩
  · intro inOrder
    exact ⟨twice_of_sameActivity now stalledDays one inOrder.stalled,
      (stalled_sameActivity_iff now stalledDays one).mpr inOrder.stalled,
      (slippage_sameActivity_iff now pickings graceDays one).mpr inOrder.slippage,
      fun dealId => (anomaly_sameActivity_iff now dealId one).mpr (inOrder.anomaly dealId)⟩

/-- A quotation sent out ten days ago and not touched since. -/
def demoQuiet : Table DealRow :=
  Table.empty.insert
    { status := .sent, odooSaleOrderId := 3001, ownerOdooUserId := 4, lastActivityAt := 0 }

/-- The first pass raises an alert on it, and the second resolves that: the deal is active again. -/
theorem demoQuiet_disturbed :
    ¬ LeavesAlone { deals := demoQuiet } 864000 7 (fun _ => none) 0 ∧
      (detectStalledDeals 864000 { deals := demoQuiet }).1.openAt 1 1 .stalledDeal = true ∧
      (detectStalledDeals 864000 (detectStalledDeals 864000 { deals := demoQuiet }).1).1.openAt 1 1
        .stalledDeal = false := by
  have opened : (detectStalledDeals 864000 { deals := demoQuiet }).1.openAt 1 1 .stalledDeal =
      true := by decide +kernel
  have closed : (detectStalledDeals 864000 (detectStalledDeals 864000 { deals := demoQuiet }).1
      ).1.openAt 1 1 .stalledDeal = false := by decide +kernel
  refine ⟨fun alone => ?_, opened, closed⟩
  have same := alone.twice 1 1 .stalledDeal
  rw [opened, closed] at same
  cases same

end DealFlow
