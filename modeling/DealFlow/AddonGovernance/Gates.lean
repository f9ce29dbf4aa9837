import DealFlow.Addon.SalesAdapter

/-!
# The three discount gates

An order is judged three times: by the evaluation, which locks it, by the confirmation's own gate
and by the adapter's.  On an order that is unlocked and neither approved nor rejected the two gates
are one (`confirmGate_ok_iff`, `adapterGate_ok_iff`): no discount is above what a rep may give,
blended or on a line.  The evaluation holds a line only to the ceiling of its category, which may be
higher, and also asks for a margin that is not negative (`evaluation_unlocked_iff`).
-/

namespace DealFlow.Addon

open Lib

/-! ## What the gates ask for -/

/-- No discount is above what a rep may give. -/
structure WithinRepDiscount (db : Db) (orderId : ℕ) : Prop where
  blended : db.blendedDiscount orderId ≤ defaultMaxRepDiscount
  lines : ∀ entry ∈ db.pricedLines orderId, entry.2.discount ≤ defaultMaxRepDiscount

/-- The blended discount is within what a rep may give, every line within its category's ceiling. -/
structure WithinCeilings (db : Db) (orderId : ℕ) : Prop where
  blended : db.blendedDiscount orderId ≤ defaultMaxRepDiscount
  lines : ∀ entry ∈ db.pricedLines orderId, entry.2.discount ≤ entry.2.ceiling

theorem categoryCeiling_bounds (category : String) :
    defaultMaxRepDiscount ≤ categoryCeiling category ∧ categoryCeiling category < 100 := by
  unfold categoryCeiling defaultMaxRepDiscount
  split
  · norm_num
  · split
    · norm_num
    · split <;> norm_num

section Gates

variable {base : BaseOdoo} {env : Env} {db : Db} {orderId : ℕ} {order : SaleOrder}

theorem WithinRepDiscount.withinCeilings (within : WithinRepDiscount db orderId) :
    WithinCeilings db orderId where
  blended := within.blended
  lines entry mem := (within.lines entry mem).trans (categoryCeiling_bounds _).1

theorem exceedsThreshold_eq_false_iff :
    exceedsThreshold (db.blendedDiscount orderId) (db.pricedLines orderId) = false ↔
      WithinRepDiscount db orderId := by
  unfold exceedsThreshold
  rw [Bool.or_eq_false_iff, List.any_eq_false]
  constructor
  · rintro ⟨blended, lines⟩
    refine ⟨not_lt.mp (of_decide_eq_false blended), fun entry mem => ?_⟩
    exact not_lt.mp fun above => lines entry mem (decide_eq_true above)
  · rintro ⟨blended, lines⟩
    refine ⟨decide_eq_false blended.not_gt, fun entry mem above => ?_⟩
    exact (lines entry mem).not_gt (of_decide_eq_true above)

/-- The category ceilings add nothing to the threshold. -/
theorem exceedsLimits_eq_false_iff :
    exceedsLimits db orderId = false ↔ WithinRepDiscount db orderId := by
  unfold exceedsLimits
  rw [Bool.or_eq_false_iff, exceedsThreshold_eq_false_iff]
  refine ⟨And.left, fun within => ⟨within, ?_⟩⟩
  unfold hasCategoryBreach
  rw [List.any_eq_false]
  exact fun entry mem above =>
    (within.withinCeilings.lines entry mem).not_gt (of_decide_eq_true above)

theorem adapterBreaches_eq_nil_iff {lines : List (ℕ × SaleOrderLine)} :
    adapterBreaches lines = [] ↔ ∀ entry ∈ lines, entry.2.discount ≤ entry.2.ceiling := by
  unfold adapterBreaches
  rw [List.filterMap_eq_nil_iff]
  refine forall₂_congr fun entry _ => ?_
  split
  · next above => exact iff_of_false nofun above.not_ge
  · next within => exact iff_of_true rfl (not_lt.mp within)

/-- The confirmation's gate on an open, unlocked order. -/
theorem confirmGate_ok_iff (row : db.orders.row orderId = some order)
    (unlocked : order.dealflowLocked = false)
    (notApproved : order.dealflowApprovalState ≠ .approved)
    (notRejected : order.dealflowApprovalState ≠ .rejected) :
    confirmGate db orderId = .ok () ↔ WithinRepDiscount db orderId := by
  unfold confirmGate
  rw [row]
  dsimp only
  rw [require_bind_eq_ok, require_eq_ok, ← exceedsLimits_eq_false_iff, unlocked]
  constructor
  · rintro ⟨-, pass⟩
    exact Bool.eq_false_iff.mpr fun exceeds => pass ⟨Or.inr exceeds, notApproved⟩
  · intro within
    refine ⟨notRejected, ?_⟩
    rw [within]
    rintro ⟨locked | exceeds, -⟩
    · cases locked
    · cases exceeds

/-- The adapter's gate on an open, unlocked order. -/
theorem adapterGate_ok_iff (unlocked : order.dealflowLocked = false)
    (notApproved : order.dealflowApprovalState ≠ .approved)
    (notRejected : order.dealflowApprovalState ≠ .rejected) :
    adapterGate db orderId order = .ok () ↔ WithinRepDiscount db orderId := by
  unfold adapterGate
  dsimp only
  rw [require_bind_eq_ok, require_bind_eq_ok, require_eq_ok, unlocked]
  constructor
  · rintro ⟨-, -, pass⟩
    refine exceedsThreshold_eq_false_iff.mp (Bool.eq_false_iff.mpr fun exceeds => ?_)
    exact pass ⟨Or.inl exceeds, notApproved⟩
  · intro within
    refine ⟨notRejected, nofun, ?_⟩
    rw [exceedsThreshold_eq_false_iff.mpr within,
      adapterBreaches_eq_nil_iff.mpr within.withinCeilings.lines]
    rintro ⟨exceeds | breach, -⟩
    · cases exceeds
    · exact breach rfl

/-! ## The evaluation -/

theorem lineBreaches_eq_nil_iff {round : ℚ → ℚ} {lines : List (ℕ × SaleOrderLine)} :
    lines.filterMap (lineBreach round) = [] ↔
      ∀ entry ∈ lines, entry.2.discount ≤ entry.2.ceiling := by
  rw [List.filterMap_eq_nil_iff]
  refine forall₂_congr fun entry _ => ?_
  unfold lineBreach
  dsimp only
  split
  · next above => exact iff_of_false nofun above.not_ge
  · next within => exact iff_of_true rfl (not_lt.mp within)

/-- A free deal breaches a ceiling or blends above the threshold. -/
theorem WithinCeilings.notFree (within : WithinCeilings db orderId) :
    (db.findings base float64 orderId).isFreeDeal = false := by
  refine Bool.or_eq_false_iff.mpr ⟨?_, ?_⟩
  · rw [List.any_eq_false]
    intro entry mem free
    have below := (within.lines entry mem).trans_lt (categoryCeiling_bounds _).2
    exact below.not_ge (of_decide_eq_true free)
  · refine Bool.and_eq_false_iff.mpr (Or.inr (decide_eq_false ?_))
    have blended : db.blendedDiscount orderId ≤ 10 := within.blended
    exact not_le.mpr (blended.trans_lt (by norm_num))

theorem healthy_iff :
    (db.findings base float64 orderId).healthStatus = .healthy ↔
      WithinCeilings db orderId ∧ 0 ≤ (db.findings base float64 orderId).totalMargin := by
  unfold GovernanceFindings.healthStatus
  constructor
  · intro healthy
    split at healthy
    · cases healthy
    · next notCritical =>
        split at healthy
        · cases healthy
        · next notAtRisk =>
            obtain ⟨noBreach, blended⟩ := not_or.mp notAtRisk
            obtain ⟨-, -, margin⟩ := not_or.mp notCritical |>.imp_right not_or.mp
            exact ⟨⟨not_lt.mp blended, lineBreaches_eq_nil_iff.mp (not_not.mp noBreach)⟩,
              not_lt.mp margin⟩
  · rintro ⟨within, margin⟩
    have blended : db.blendedDiscount orderId ≤ 10 := within.blended
    rw [if_neg, if_neg]
    · rintro (breach | above)
      · exact breach (lineBreaches_eq_nil_iff.mpr within.lines)
      · exact within.blended.not_gt above
    · rintro (free | above | negative)
      · rw [within.notFree] at free
        cases free
      · have below : (10 : ℚ) < defaultFinanceDiscountThreshold := by
          norm_num [defaultFinanceDiscountThreshold]
        exact (blended.trans_lt below).not_ge above
      · exact margin.not_gt negative

/-- A write of one field that is neither the lock nor the state. -/
theorem writeField_row {vals : SaleOrderVals} {after : Db}
    (ok : writeOrders base env [orderId] vals db = .ok after) (noLines : vals.orderLine = none)
    (noState : vals.dealflowApprovalState = none) (noTerms : vals.termsModified = false) :
    after.orders.row orderId = (db.orders.row orderId).map (·.assign vals) := by
  have noApproval : vals.dealflowApprovalState ≠ some .approved := by
    rw [noState]
    exact nofun
  rw [writeOrders_plain noLines noApproval noTerms] at ok
  rw [superWriteFields_ok ok, Table.row_modify, if_pos (List.mem_singleton_self orderId)]

/-- What an evaluation reports and does to the lock. -/
theorem evaluation_outcome {round : ℚ → ℚ} {report : EvaluationReport} {after : Db}
    (ok : evaluateGovernance base env round orderId db = .ok (report, after)) :
    report.riskScore = (db.findings base round orderId).riskScore round ∧
      report.healthStatus = (db.findings base round orderId).healthStatus ∧
      (after.orders.row orderId).map (·.dealflowLocked) =
        (db.orders.row orderId).map fun order =>
          if (db.findings base round orderId).healthStatus ≠ .healthy ∧
              order.dealflowApprovalState ≠ .approved then true
          else order.dealflowLocked := by
  obtain ⟨scored, risk, ok⟩ := bind_eq_ok.mp ok
  obtain ⟨judged, health, ok⟩ := bind_eq_ok.mp ok
  obtain ⟨locked, lock, ok⟩ := bind_eq_ok.mp ok
  obtain ⟨stamped, stamp, ok⟩ := bind_eq_ok.mp ok
  cases ok
  refine ⟨rfl, rfl, ?_⟩
  have afterRisk := writeField_row risk rfl rfl rfl
  have afterHealth := writeField_row health rfl rfl rfl
  have afterStamp := writeField_row stamp rfl rfl rfl
  rw [afterRisk] at afterHealth
  rw [afterStamp]
  have approval : judged.approvalState orderId = db.approvalState orderId := by
    unfold Db.approvalState
    rw [afterHealth]
    cases db.orders.row orderId <;> rfl
  unfold lockUnhealthy at lock
  rw [approval] at lock
  unfold Db.approvalState at lock
  cases row : db.orders.row orderId with
  | none =>
      rw [row] at afterHealth lock
      split at lock
      · rw [writeField_row lock rfl rfl rfl, afterHealth]
        rfl
      · cases lock
        rw [afterHealth]
        rfl
  | some order =>
      rw [row] at afterHealth lock
      split at lock
      · next locks =>
          have notApproved : order.dealflowApprovalState ≠ .approved :=
            fun eq => locks.2 (congrArg some eq)
          rw [writeField_row lock rfl rfl rfl, afterHealth]
          exact (congrArg some (if_pos ⟨locks.1, notApproved⟩)).symm
      · next leaves =>
          have leaves' : ¬ ((db.findings base round orderId).healthStatus ≠ .healthy ∧
              order.dealflowApprovalState ≠ .approved) :=
            fun locks => leaves ⟨locks.1, fun eq => locks.2 (Option.some.inj eq)⟩
          cases lock
          rw [afterHealth]
          exact (congrArg some (if_neg leaves')).symm

/-- What an evaluation does to the lock of an order that is not approved. -/
theorem evaluation_locked {report : EvaluationReport} {after : Db}
    (row : db.orders.row orderId = some order)
    (notApproved : order.dealflowApprovalState ≠ .approved)
    (ok : actionDealflowEvaluateGovernance base env orderId db = .ok (report, after)) :
    (after.orders.row orderId).map (·.dealflowLocked) =
      some (if (db.findings base float64 orderId).healthStatus = .healthy then order.dealflowLocked
        else true) := by
  obtain ⟨-, -, lock⟩ := evaluation_outcome ok
  rw [lock, row, Option.map_some]
  by_cases healthy : (db.findings base float64 orderId).healthStatus = .healthy
  · rw [if_neg fun locks => locks.1 healthy, if_pos healthy]
  · rw [if_pos ⟨healthy, notApproved⟩, if_neg healthy]

/-- An evaluation leaves an open, unlocked order unlocked where no line is above its category's
ceiling, the blended discount is within what a rep may give and the margin is not negative. -/
theorem evaluation_unlocked_iff {report : EvaluationReport} {after : Db}
    (row : db.orders.row orderId = some order) (unlocked : order.dealflowLocked = false)
    (notApproved : order.dealflowApprovalState ≠ .approved)
    (ok : actionDealflowEvaluateGovernance base env orderId db = .ok (report, after)) :
    (after.orders.row orderId).map (·.dealflowLocked) = some false ↔
      WithinCeilings db orderId ∧ 0 ≤ (db.findings base float64 orderId).totalMargin := by
  rw [evaluation_locked row notApproved ok, ← healthy_iff, unlocked]
  split
  · next healthy => exact iff_of_true rfl healthy
  · next unhealthy => exact iff_of_false nofun unhealthy

/-! ## Agreement -/

/-- The gates agree on an order: an evaluation leaves it unlocked exactly where the confirmation's
gate lets it through, and the adapter's gate lets through what the confirmation's does. -/
structure GatesAgree (base : BaseOdoo) (env : Env) (db : Db) (orderId : ℕ) (order : SaleOrder) :
    Prop where
  evaluation : ∀ report after,
    actionDealflowEvaluateGovernance base env orderId db = .ok (report, after) →
      ((after.orders.row orderId).map (·.dealflowLocked) = some false ↔
        confirmGate db orderId = .ok ())
  adapter : adapterGate db orderId order = .ok () ↔ confirmGate db orderId = .ok ()

/-- What the evaluation and the two gates let pass on an open, unlocked order, and where they
part. -/
theorem governanceGates_open (row : db.orders.row orderId = some order)
    (unlocked : order.dealflowLocked = false)
    (notApproved : order.dealflowApprovalState ≠ .approved)
    (notRejected : order.dealflowApprovalState ≠ .rejected) :
    (confirmGate db orderId = .ok () ↔ WithinRepDiscount db orderId) ∧
      (adapterGate db orderId order = .ok () ↔ WithinRepDiscount db orderId) ∧
      ∀ report after, actionDealflowEvaluateGovernance base env orderId db = .ok (report, after) →
        ((after.orders.row orderId).map (·.dealflowLocked) = some false ↔
          WithinCeilings db orderId ∧ 0 ≤ (db.findings base float64 orderId).totalMargin) ∧
        (((after.orders.row orderId).map (·.dealflowLocked) = some false ↔
            confirmGate db orderId = .ok ()) ↔
          (WithinCeilings db orderId →
            (0 ≤ (db.findings base float64 orderId).totalMargin ↔
              WithinRepDiscount db orderId))) := by
  have confirm := confirmGate_ok_iff row unlocked notApproved notRejected
  refine ⟨confirm, adapterGate_ok_iff unlocked notApproved notRejected, fun report after ok => ?_⟩
  have evaluated := evaluation_unlocked_iff row unlocked notApproved ok
  refine ⟨evaluated, ?_⟩
  rw [evaluated, confirm]
  constructor
  · intro same ceilings
    exact ⟨fun margin => same.mp ⟨ceilings, margin⟩, fun rep => (same.mpr rep).2⟩
  · intro same
    exact ⟨fun both => (same both.1).mp both.2,
      fun rep => ⟨rep.withinCeilings, (same rep.withinCeilings).mpr rep⟩⟩

end Gates

/-- A draft order with a hardware line at 12 %, within the ceiling of its category, and a service
without a discount. -/
def hardwareQuote : Db where
  orders := Table.empty.insert { name := "S00001", partner := { id := 3 } }
  lines :=
    (Table.empty.insert
      { orderId := 1, productId := some { id := 1, categName := some "Hardware" }, priceUnit := 100,
        discount := 12 }).insert
      { orderId := 1, productId := some { id := 2, categName := some "Service" }, priceUnit := 100 }
  negotiations := Table.empty

def salesRep : Env := { user := Group.dealflowSalesRep.member 7 }

/-- The evaluation leaves it unlocked, but the line is above what a rep may give. -/
theorem hardwareQuote_gates_part :
    ¬ GatesAgree openOdoo salesRep hardwareQuote 1
      { name := "S00001", partner := { id := 3 } } := by
  intro agree
  have gate : confirmGate hardwareQuote 1 = .ok () ↔ WithinRepDiscount hardwareQuote 1 :=
    confirmGate_ok_iff rfl rfl (by decide) (by decide)
  have above : ¬ ∀ entry ∈ hardwareQuote.pricedLines 1,
      entry.2.discount ≤ defaultMaxRepDiscount := by
    decide +kernel
  have refused : confirmGate hardwareQuote 1 ≠ .ok () := fun passed => above (gate.mp passed).lines
  have unlocked : (actionDealflowEvaluateGovernance openOdoo salesRep 1 hardwareQuote).toOption.map
      (fun result => (result.2.orders.row 1).map (·.dealflowLocked)) = some (some false) := by
    decide +kernel
  have evaluation := agree.evaluation
  revert evaluation unlocked
  rcases actionDealflowEvaluateGovernance openOdoo salesRep 1 hardwareQuote with e | ⟨report, after⟩
  · exact nofun
  · intro unlocked evaluation
    exact refused ((evaluation report after rfl).mp (Option.some.inj unlocked))

-- three at a cost of 1.10 each, sold at cost: in doubles the margin is below zero
example : (actionDealflowEvaluateGovernance openOdoo salesRep 1
    { hardwareQuote with
      lines := Table.empty.insert
        { orderId := 1, productId := some { id := 1, standardPrice := 11 / 10 }, productUomQty := 3
          priceUnit := 11 / 10 } }).toOption.map
      (fun result => (result.2.orders.row 1).map (·.dealflowLocked)) = some (some true) := by
  decide +kernel

theorem hardwareQuote_gates :
    (confirmGate hardwareQuote 1 = .ok () ↔ WithinRepDiscount hardwareQuote 1) ∧
      (adapterGate hardwareQuote 1 { name := "S00001", partner := { id := 3 } } = .ok () ↔
        WithinRepDiscount hardwareQuote 1) ∧
      ∀ report after,
        actionDealflowEvaluateGovernance openOdoo salesRep 1 hardwareQuote = .ok (report, after) →
        ((after.orders.row 1).map (·.dealflowLocked) = some false ↔
          WithinCeilings hardwareQuote 1 ∧
            0 ≤ (hardwareQuote.findings openOdoo float64 1).totalMargin) ∧
        (((after.orders.row 1).map (·.dealflowLocked) = some false ↔
            confirmGate hardwareQuote 1 = .ok ()) ↔
          (WithinCeilings hardwareQuote 1 →
            (0 ≤ (hardwareQuote.findings openOdoo float64 1).totalMargin ↔
              WithinRepDiscount hardwareQuote 1))) :=
  governanceGates_open rfl rfl (by decide) (by decide)

end DealFlow.Addon
