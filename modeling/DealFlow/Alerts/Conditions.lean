import DealFlow.Alerts.Baseline
import DealFlow.Alerts.Stalled

/-!
# Alerts that outlive their condition

A detector raises and clears alerts on the deals it goes over.  A deal that has left its statuses,
or has too small a sample, it does not visit, and an alert that is open on such a deal stays open
for good; `NoneStale` says that there is none.  And anomalies are held against the deals with the
latest activity, while their detector itself writes activity; `VerdictsStand` says that what it
writes on a deal or after it leaves the verdict on the deal as it was.  The two together are what
`recompute_all_alerts` needs for the open slippage and anomaly alerts to be those whose condition
holds (`alertsReflect`).
-/

namespace DealFlow

open Lib

/-- The open slippage and anomaly alerts are on the deals whose condition holds. -/
structure Reflects (now : Timestamp) (pickings : PickingReader) (db : AlertDb) : Prop where
  slippage : ∀ dealId d, db.deals.row dealId = some d →
    (db.hasOpen dealId .deliverySlippage = true ↔
      d.status ∈ monitoredStatuses ∧ (slippageOf now pickings 0 d).isSome = true)
  anomaly : ∀ dealId d, db.deals.row dealId = some d →
    (db.hasOpen dealId .discountAnomaly = true ↔
      d.status ∈ anomalyStatuses ∧
        (anomalyVerdict db.deals db.snapshots d).effect = some true)

/-- No alert is open on a deal its detector will not come to a verdict on. -/
structure NoneStale (db : AlertDb) : Prop where
  slippage : ∀ dealId d, db.deals.row dealId = some d → d.status ∉ monitoredStatuses →
    db.hasOpen dealId .deliverySlippage = false
  unmonitored : ∀ dealId d, db.deals.row dealId = some d → d.status ∉ anomalyStatuses →
    db.hasOpen dealId .discountAnomaly = false
  smallSample : ∀ dealId d, db.deals.row dealId = some d →
    (anomalyVerdict db.deals db.snapshots d).effect = none →
      db.hasOpen dealId .discountAnomaly = false

/-- The anomaly verdict on a deal, where some deals have been marked as active. -/
def AlertDb.effectAfter (db : AlertDb) (now : Timestamp) (touched : List ℕ) (d : DealRow) :
    Option Bool :=
  (anomalyVerdict (db.deals.modify touched (DealRow.touch now)) db.snapshots d).effect

/-- The deals whose anomaly alerts are opened or closed by the time the deals of a list have been
looked at. -/
def AlertDb.anomalyMarks (db : AlertDb) (now : Timestamp) (dealIds : List ℕ) : List ℕ :=
  db.marks (fun deals snapshots d => anomalyVerdict deals snapshots d) .discountAnomaly now []
    dealIds

/-- No event about an anomaly changes the verdict on a deal that has been looked at. -/
def VerdictsStand (now : Timestamp) (db : AlertDb) : Prop :=
  ∀ before dealId after d, db.dealsIn anomalyStatuses = before ++ dealId :: after →
    db.deals.row dealId = some d →
      db.effectAfter now (db.anomalyMarks now before) d =
        db.effectAfter now (db.anomalyMarks now (before ++ dealId :: after)) d

/-- None does where no rep, team or company has more eligible deals than a baseline looks at. -/
theorem verdictsStand_of_fits {now : Timestamp} {db : AlertDb}
    (fits : ∀ dealId d, db.deals.row dealId = some d → ∀ group ∈ baselineGroups d,
      (eligibleDeals db.deals group).length ≤ 20) : VerdictsStand now db := by
  intro before dealId after d _ row
  unfold AlertDb.effectAfter
  rw [anomalyVerdict_touch _ _ now d db.snapshots (fits dealId d row),
    anomalyVerdict_touch _ _ now d db.snapshots (fits dealId d row)]

/-! ## What each part of the pass leaves -/

section Recompute

variable {db : AlertDb} (now : Timestamp) (pickings : PickingReader)

theorem touch_row {deals : Table DealRow} (touched : List ℕ) {dealId : ℕ} {d : DealRow}
    (row : deals.row dealId = some d) :
    (deals.modify touched (DealRow.touch now)).row dealId =
      some (if dealId ∈ touched then d.touch now else d) := by
  rw [Table.row_modify, row]
  split <;> rfl

/-- The part of the pass before the anomalies. -/
theorem beforeAnomalies_outcome (one : db.OneOpen) :
    (∃ touched : List ℕ, (db.beforeAnomalies now pickings).deals =
        db.deals.modify touched (DealRow.touch now)) ∧
      (db.beforeAnomalies now pickings).snapshots = db.snapshots ∧
      (∀ dealId, (db.beforeAnomalies now pickings).hasOpen dealId .discountAnomaly =
        db.hasOpen dealId .discountAnomaly) ∧
      ∀ dealId d, db.deals.row dealId = some d →
        (db.beforeAnomalies now pickings).hasOpen dealId .deliverySlippage =
          if d.status ∈ monitoredStatuses then (slippageOf now pickings 0 d).isSome
          else db.hasOpen dealId .deliverySlippage := by
  obtain ⟨one₁, opened₁, -, snapshots₁⟩ := detectStalledDeals_outcome now 7 one
  obtain ⟨touched₁, deals₁⟩ := detectStalledDeals_touches now 7 one
  unfold AlertDb.beforeAnomalies
  rw [detectDeliverySlippages_eq]
  generalize (detectStalledDeals now db).1 = db₁ at *
  obtain ⟨frame, ⟨touched, -, deals⟩, snapshots⟩ := pass_frame
    (fun _ _ => slippageVerdict now pickings 0) .deliverySlippage now
    (db₁.dealsIn monitoredStatuses) one₁
  refine ⟨⟨touched₁ ++ touched, ?_⟩, snapshots.trans snapshots₁, fun dealId => ?_,
    fun dealId d row => ?_⟩
  · rw [deals, deals₁, Table.modify_modify (DealRow.touch_touch now)]
  · rw [frame dealId .discountAnomaly (Or.inr nofun), opened₁, if_neg nofun]
  · have row₁ : db₁.deals.row dealId = some (if dealId ∈ touched₁ then d.touch now else d) := by
      rw [deals₁]
      exact touch_row now _ row
    have status : dealId ∈ db₁.dealsIn monitoredStatuses ↔ d.status ∈ monitoredStatuses := by
      rw [mem_dealsIn_of_row row₁]
      split <;> rfl
    split
    · next monitored =>
        rw [(pass_outcome _ _ now (status.mpr monitored) (dealsIn_nodup db₁ _) one₁
          (steadyAt_own now _ _ _ dealId)).1, opensOn_eq _ _ row₁, slippageVerdict_opens]
        split <;> rfl
    · next other =>
        rw [frame dealId _ (Or.inl (mt status.mp other)), opened₁, if_neg nofun]

/-- The anomalies, on a deal as the other detectors leave it. -/
theorem anomalies_outcome (one : db.OneOpen) {before after : List ℕ} {dealId : ℕ}
    (listed : db.dealsIn anomalyStatuses = before ++ dealId :: after) {d : DealRow}
    (row : db.deals.row dealId = some d) :
    ((db.dealsIn anomalyStatuses).foldl (detectBy now .discountAnomaly
        fun deals snapshots d => anomalyVerdict deals snapshots d) db).hasOpen dealId
        .discountAnomaly =
      (db.effectAfter now (db.anomalyMarks now before) d).getD
        (db.hasOpen dealId .discountAnomaly) := by
  have nodup := dealsIn_nodup db anomalyStatuses
  rw [listed] at nodup ⊢
  have reached : (db.marked now (db.anomalyMarks now before)).deals.row dealId =
      some (if dealId ∈ db.anomalyMarks now before then d.touch now else d) := touch_row now _ row
  rw [pass_visit _ _ now one nodup]
  refine (opensOn_eq _ _ reached).trans ?_
  split <;> rfl

/-- The whole pass, on a deal of the database it starts from. -/
theorem recompute_outcome (one : db.OneOpen) :
    (∃ touched : List ℕ, (recomputeAllAlerts now pickings db).1.deals =
        db.deals.modify touched (DealRow.touch now)) ∧
      (recomputeAllAlerts now pickings db).1.snapshots = db.snapshots ∧
      (∀ dealId d, db.deals.row dealId = some d →
        (recomputeAllAlerts now pickings db).1.hasOpen dealId .deliverySlippage =
          if d.status ∈ monitoredStatuses then (slippageOf now pickings 0 d).isSome
          else db.hasOpen dealId .deliverySlippage) ∧
      ∀ dealId d, db.deals.row dealId = some d → d.status ∉ anomalyStatuses →
        (recomputeAllAlerts now pickings db).1.hasOpen dealId .discountAnomaly =
          db.hasOpen dealId .discountAnomaly := by
  obtain ⟨⟨touched₂, deals₂⟩, snapshots₂, anomaly₂, slippage₂⟩ :=
    beforeAnomalies_outcome now pickings one
  have one₂ := oneOpen_beforeAnomalies now pickings one
  rw [recomputeAllAlerts_eq]
  generalize db.beforeAnomalies now pickings = db₂ at *
  obtain ⟨frame, ⟨touched, -, deals⟩, snapshots⟩ := pass_frame
    (fun deals snapshots d => anomalyVerdict deals snapshots d) .discountAnomaly now
    (db₂.dealsIn anomalyStatuses) one₂
  refine ⟨⟨touched₂ ++ touched, ?_⟩, snapshots.trans snapshots₂, fun dealId d row => ?_,
    fun dealId d row other => ?_⟩
  · rw [deals, deals₂, Table.modify_modify (DealRow.touch_touch now)]
  · rw [frame dealId .deliverySlippage (Or.inr nofun), slippage₂ dealId d row]
  · have row₂ := touch_row now touched₂ row
    rw [← deals₂] at row₂
    have left : dealId ∉ db₂.dealsIn anomalyStatuses := by
      rw [mem_dealsIn_of_row row₂]
      split <;> exact other
    rw [frame dealId .discountAnomaly (Or.inl left), anomaly₂]

end Recompute

/-! ## When open alerts reflect their conditions -/

section Reflect

variable {db : AlertDb} {now : Timestamp} (pickings : PickingReader)

/-- A deal after the pass is to the conditions what it was before it. -/
theorem conditions_after {after : AlertDb} {touched : List ℕ} {dealId : ℕ} {d : DealRow}
    (row : db.deals.row dealId = some d) (snapshots : after.snapshots = db.snapshots)
    (deals : after.deals = db.deals.modify touched (DealRow.touch now)) :
    ∃ e, after.deals.row dealId = some e ∧ e.status = d.status ∧
      slippageOf now pickings 0 e = slippageOf now pickings 0 d ∧
      anomalyVerdict after.deals after.snapshots e =
        anomalyVerdict (db.deals.modify touched (DealRow.touch now)) db.snapshots d := by
  refine ⟨_, deals ▸ touch_row now _ row, ?_⟩
  rw [snapshots, deals]
  split <;> exact ⟨rfl, rfl, rfl⟩

/-- Whether there is a verdict at all does not turn on activity. -/
theorem effectAfter_none_iff (one : db.OneOpen) (touched : List ℕ) (d : DealRow) :
    (db.beforeAnomalies now pickings).effectAfter now touched d = none ↔
      (anomalyVerdict db.deals db.snapshots d).effect = none := by
  obtain ⟨⟨first, deals⟩, snapshots, -⟩ := beforeAnomalies_outcome now pickings one
  unfold AlertDb.effectAfter
  rw [effect_eq_none_touch, deals, snapshots, effect_eq_none_touch]

/-- The deals that may show an anomaly are looked at, each when its turn comes. -/
theorem listed_of_watched (one : db.OneOpen) {dealId : ℕ} {d : DealRow}
    (row : db.deals.row dealId = some d) (watched : d.status ∈ anomalyStatuses) :
    ∃ before later d₂, (db.beforeAnomalies now pickings).dealsIn anomalyStatuses =
        before ++ dealId :: later ∧
      (db.beforeAnomalies now pickings).deals.row dealId = some d₂ ∧
      ∀ touched, (db.beforeAnomalies now pickings).effectAfter now touched d₂ =
        (db.beforeAnomalies now pickings).effectAfter now touched d := by
  obtain ⟨⟨touched, deals⟩, -⟩ := beforeAnomalies_outcome now pickings one
  have row₂ := touch_row now touched row
  rw [← deals] at row₂
  have mem : dealId ∈ (db.beforeAnomalies now pickings).dealsIn anomalyStatuses := by
    rw [mem_dealsIn_of_row row₂]
    split <;> exact watched
  obtain ⟨before, later, listed⟩ := List.append_of_mem mem
  refine ⟨before, later, _, listed, row₂, fun touched => ?_⟩
  split <;> rfl

/-- What the pass makes of such a deal is up to the verdict when its turn comes, and the condition
that holds after the pass to the verdict when all have had theirs. -/
theorem anomaly_after (one : db.OneOpen) {before later : List ℕ} {dealId : ℕ} {d₂ e : DealRow}
    (listed : (db.beforeAnomalies now pickings).dealsIn anomalyStatuses = before ++ dealId :: later)
    (row₂ : (db.beforeAnomalies now pickings).deals.row dealId = some d₂)
    (rowE : (recomputeAllAlerts now pickings db).1.deals.row dealId = some e) :
    (recomputeAllAlerts now pickings db).1.hasOpen dealId .discountAnomaly =
        ((db.beforeAnomalies now pickings).effectAfter now
          ((db.beforeAnomalies now pickings).anomalyMarks now before) d₂).getD
            (db.hasOpen dealId .discountAnomaly) ∧
      e.status ∈ anomalyStatuses ∧
      (anomalyVerdict (recomputeAllAlerts now pickings db).1.deals
          (recomputeAllAlerts now pickings db).1.snapshots e).effect =
        (db.beforeAnomalies now pickings).effectAfter now
          ((db.beforeAnomalies now pickings).anomalyMarks now (before ++ dealId :: later)) d₂ := by
  obtain ⟨-, -, anomaly₂, -⟩ := beforeAnomalies_outcome now pickings one
  have one₂ := oneOpen_beforeAnomalies now pickings one
  rw [recomputeAllAlerts_eq] at rowE ⊢
  rw [← anomaly₂]
  generalize db.beforeAnomalies now pickings = db₂ at *
  have status : d₂.status ∈ anomalyStatuses := by
    rw [← mem_dealsIn_of_row row₂, listed]
    exact List.mem_append_right _ List.mem_cons_self
  have marked := pass_marks_self (fun deals snapshots d => anomalyVerdict deals snapshots d)
    .discountAnomaly now one₂ (dealsIn_nodup db₂ anomalyStatuses)
  obtain ⟨-, -, snapshots⟩ := pass_frame
    (fun deals snapshots d => anomalyVerdict deals snapshots d) .discountAnomaly now
    (db₂.dealsIn anomalyStatuses) one₂
  rw [marked] at rowE ⊢
  rw [snapshots, ← listed]
  cases Option.some.inj (rowE.symm.trans (touch_row now _ row₂))
  refine ⟨anomalies_outcome now one₂ listed row₂, ?_, ?_⟩
  · split <;> exact status
  · split <;> rfl

theorem noneStale_of_reflects (one : db.OneOpen)
    (reflects : Reflects now pickings (recomputeAllAlerts now pickings db).1) : NoneStale db := by
  obtain ⟨⟨touched, deals⟩, snapshots, slippage, unmonitored⟩ := recompute_outcome now pickings one
  refine ⟨fun dealId d row other => ?_, fun dealId d row other => ?_, fun dealId d row small => ?_⟩
  · obtain ⟨e, rowE, status, -, -⟩ := conditions_after pickings row snapshots deals
    have here := reflects.slippage dealId e rowE
    rw [slippage dealId d row, if_neg other, status] at here
    exact Bool.eq_false_iff.mpr fun opened => other (here.mp opened).1
  · obtain ⟨e, rowE, status, -, -⟩ := conditions_after pickings row snapshots deals
    have here := reflects.anomaly dealId e rowE
    rw [unmonitored dealId d row other, status] at here
    exact Bool.eq_false_iff.mpr fun opened => other (here.mp opened).1
  · -- the sample is too small whenever the pass gets to the deal
    obtain ⟨e, rowE, -, -, verdict⟩ := conditions_after pickings row snapshots deals
    have here := reflects.anomaly dealId e rowE
    rw [verdict, (effect_eq_none_touch db.deals touched now d db.snapshots).mpr small] at here
    have asBefore : (recomputeAllAlerts now pickings db).1.hasOpen dealId .discountAnomaly =
        db.hasOpen dealId .discountAnomaly := by
      by_cases watched : d.status ∈ anomalyStatuses
      · obtain ⟨before, later, d₂, listed, row₂, same⟩ := listed_of_watched pickings one row watched
        rw [(anomaly_after pickings one listed row₂ rowE).1, same,
          (effectAfter_none_iff pickings one _ d).mpr small, Option.getD_none]
      · exact unmonitored dealId d row watched
    rw [asBefore] at here
    exact Bool.eq_false_iff.mpr fun opened => nomatch (here.mp opened).2

theorem verdictsStand_of_reflects (one : db.OneOpen)
    (reflects : Reflects now pickings (recomputeAllAlerts now pickings db).1) :
    VerdictsStand now (db.beforeAnomalies now pickings) := by
  intro before dealId later d₂ listed row₂
  obtain ⟨⟨touched, deals⟩, snapshots, -, -⟩ := recompute_outcome now pickings one
  obtain ⟨⟨first, deals₂⟩, -⟩ := beforeAnomalies_outcome now pickings one
  have row : ∃ d, db.deals.row dealId = some d := by
    rw [deals₂, Table.row_modify] at row₂
    cases here : db.deals.row dealId with
    | none => simp [here] at row₂
    | some d => exact ⟨d, rfl⟩
  obtain ⟨d, row⟩ := row
  obtain ⟨e, rowE, -⟩ := conditions_after pickings row snapshots deals
  obtain ⟨opened, watched, verdict⟩ := anomaly_after pickings one listed row₂ rowE
  have here := reflects.anomaly dealId e rowE
  rw [opened, verdict] at here
  have none : ∀ touched more,
      (db.beforeAnomalies now pickings).effectAfter now touched d₂ = none ↔
        (db.beforeAnomalies now pickings).effectAfter now more d₂ = none := fun touched more => by
    rw [effectAfter_none_iff pickings one, effectAfter_none_iff pickings one]
  specialize none ((db.beforeAnomalies now pickings).anomalyMarks now before)
    ((db.beforeAnomalies now pickings).anomalyMarks now (before ++ dealId :: later))
  -- neither verdict is missing, and the open alert shows both
  generalize (db.beforeAnomalies now pickings).effectAfter now _ d₂ = visited at *
  generalize (db.beforeAnomalies now pickings).effectAfter now _ d₂ = final at *
  cases visited with
  | none => exact (none.mp rfl).symm
  | some shown =>
      cases final with
      | none => cases none.mpr rfl
      | some holds =>
          simp only [Option.getD_some, watched, true_and, Option.some.injEq] at here
          exact congrArg some (Bool.eq_iff_iff.mpr here)

theorem reflects_of_noneStale (one : db.OneOpen) (none : NoneStale db)
    (stand : VerdictsStand now (db.beforeAnomalies now pickings)) :
    Reflects now pickings (recomputeAllAlerts now pickings db).1 := by
  obtain ⟨⟨touched, deals⟩, snapshots, slippage, unmonitored⟩ := recompute_outcome now pickings one
  have before : ∀ dealId e, (recomputeAllAlerts now pickings db).1.deals.row dealId = some e →
      ∃ d, db.deals.row dealId = some d := by
    intro dealId e row
    rw [deals, Table.row_modify] at row
    cases here : db.deals.row dealId with
    | none => simp [here] at row
    | some d => exact ⟨d, rfl⟩
  refine ⟨fun dealId e rowE => ?_, fun dealId e rowE => ?_⟩
  · obtain ⟨d, row⟩ := before dealId e rowE
    obtain ⟨e', rowE', status, late, -⟩ := conditions_after pickings row snapshots deals
    cases Option.some.inj (rowE.symm.trans rowE')
    rw [slippage dealId d row, status, late]
    split
    · next monitored => simp [monitored]
    · next other => simp [other, none.slippage dealId d row other]
  · obtain ⟨d, row⟩ := before dealId e rowE
    by_cases watched : d.status ∈ anomalyStatuses
    · obtain ⟨first, later, d₂, listed, row₂, same⟩ := listed_of_watched pickings one row watched
      obtain ⟨opened, status, verdict⟩ := anomaly_after pickings one listed row₂ rowE
      rw [opened, verdict, ← stand first dealId later d₂ listed row₂, same]
      cases effect : (db.beforeAnomalies now pickings).effectAfter now _ d with
      | none =>
          have small := (effectAfter_none_iff pickings one _ d).mp effect
          simp [none.smallSample dealId d row small]
      | some opened => simp [status]
    · obtain ⟨e', rowE', status, -, -⟩ := conditions_after pickings row snapshots deals
      cases Option.some.inj (rowE.symm.trans rowE')
      rw [status, unmonitored dealId d row watched, none.unmonitored dealId d row watched]
      simp [watched]

end Reflect

/-- An order promised for time 0, in the given status. -/
def demoDelivery (status : DealStatus) (lastActivityAt : Timestamp) : DealRow :=
  { status, odooSaleOrderId := 4001, ownerOdooUserId := 4, promisedDeliveryDate := some 0,
    lastActivityAt }

/-- It is five days late and an alert is raised; then it is delivered. -/
def demoDelivered : List AlertOp :=
  [.changeDeals (Table.empty.insert (demoDelivery .confirmed 0)) fun _ => none,
   .recompute 432000 fun _ => some [],
   .changeDeals (Table.empty.insert (demoDelivery .fulfilled 432000)) fun _ => none]

end DealFlow
