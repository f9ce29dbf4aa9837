import DealFlow.Alerts.Stalled

/-!
# The life of an alert

An alert is meant to go from open over acknowledged to resolved and to stay there, and a deal to
have one unresolved alert of a type at most.  Detectors look for open alerts only, so they raise a
second alert where the first is acknowledged; and users may acknowledge or resolve an alert whatever
its status, a resolved one included.  `AlertOp.KeepsLife` is the condition that neither happens, and
`lifecycle_iff` says that it is exact: along every run, the life of the alerts is kept where every
step meets it, and by no other run.

A recomputation counts as the detector passes it is made of (`AlertOp.parts`).
-/

namespace DealFlow

open Lib

def AlertStatus.rank : AlertStatus → ℕ
  | .open => 0
  | .acknowledged => 1
  | .resolved => 2

namespace AlertDb

/-- The alert is one of the type on the deal, and not resolved. -/
def unresolvedAt (db : AlertDb) (id dealId : ℕ) (type : AlertType) : Prop :=
  ∃ a, db.alerts.row id = some a ∧ a.dealId = dealId ∧ a.type = type ∧ a.status ≠ .resolved

/-- A deal has one unresolved alert of a type at most. -/
def OneUnresolved (db : AlertDb) : Prop :=
  ∀ i j dealId type, db.unresolvedAt i dealId type → db.unresolvedAt j dealId type → i = j

/-- An alert of the type on the deal is acknowledged. -/
def acknowledgedOn (db : AlertDb) (dealId : ℕ) (type : AlertType) : Prop :=
  ∃ id a, db.alerts.row id = some a ∧ a.dealId = dealId ∧ a.type = type ∧
    a.status = .acknowledged

/-- No alert is lost or goes back, and the resolved ones are as they were. -/
def Forward (before after : AlertDb) : Prop :=
  ∀ id a, before.alerts.row id = some a → ∃ b, after.alerts.row id = some b ∧
    a.status.rank ≤ b.status.rank ∧ (a.status = .resolved → b = a)

end AlertDb

/-! ## What detectors do to a row -/

/-- What a detector may make of an alert. -/
structure Moves (a b : DealAlert) : Prop where
  dealId : b.dealId = a.dealId
  type : b.type = a.type
  closed : a.status ≠ .open → b = a
  notAcknowledged : a.status = .open → b.status ≠ .acknowledged

theorem Moves.refl (a : DealAlert) : Moves a a :=
  ⟨rfl, rfl, fun _ => rfl, fun opened ack => by rw [opened] at ack; cases ack⟩

theorem Moves.trans {a b c : DealAlert} (first : Moves a b) (second : Moves b c) : Moves a c where
  dealId := second.dealId.trans first.dealId
  type := second.type.trans first.type
  closed closed := by
    have same := first.closed closed
    subst same
    exact second.closed closed
  notAcknowledged opened ack := by
    have left := first.notAcknowledged opened
    by_cases still : b.status = .open
    · exact second.notAcknowledged still ack
    · rw [second.closed still] at ack
      exact left ack

/-- What detectors may make of the alerts: none is lost, and what is new is not acknowledged. -/
structure Detects (before after : AlertDb) : Prop where
  kept : ∀ id a, before.alerts.row id = some a → ∃ b, after.alerts.row id = some b ∧ Moves a b
  added : ∀ id b, before.alerts.row id = none → after.alerts.row id = some b →
    b.status ≠ .acknowledged

section Detects

variable {before between after : AlertDb}

theorem Detects.refl (db : AlertDb) : Detects db db where
  kept _ a row := ⟨a, row, .refl a⟩
  added id b none row := by
    rw [none] at row
    cases row

theorem Detects.trans (first : Detects before between) (second : Detects between after) :
    Detects before after where
  kept id a row := by
    obtain ⟨b, rowB, moves⟩ := first.kept id a row
    obtain ⟨c, rowC, moves'⟩ := second.kept id b rowB
    exact ⟨c, rowC, moves.trans moves'⟩
  added id c none rowC := by
    cases rowB : between.alerts.row id with
    | none => exact second.added id c rowB rowC
    | some b =>
        have left := first.added id b none rowB
        obtain ⟨c', rowC', moves⟩ := second.kept id b rowB
        cases Option.some.inj (rowC.symm.trans rowC')
        by_cases still : b.status = .open
        · exact moves.notAcknowledged still
        · rw [moves.closed still]
          exact left

theorem Detects.forward (h : Detects before after) : AlertDb.Forward before after := by
  intro id a row
  obtain ⟨b, rowB, moves⟩ := h.kept id a row
  refine ⟨b, rowB, ?_, fun resolved => moves.closed (by rw [resolved]; nofun)⟩
  by_cases opened : a.status = .open
  · rw [opened]
    exact Nat.zero_le _
  · rw [moves.closed opened]

/-- Detectors acknowledge no alert, and leave the acknowledged ones as they are. -/
theorem Detects.acknowledgedOn (h : Detects before after) (dealId : ℕ) (type : AlertType) :
    after.acknowledgedOn dealId type ↔ before.acknowledgedOn dealId type := by
  constructor
  · intro acknowledged
    obtain ⟨id, b, rowB, deal, kind, status⟩ := acknowledged
    cases row : before.alerts.row id with
    | none => exact absurd status (h.added id b row rowB)
    | some a =>
        obtain ⟨b', rowB', moves⟩ := h.kept id a row
        cases Option.some.inj (rowB.symm.trans rowB')
        by_cases opened : a.status = .open
        · exact absurd status (moves.notAcknowledged opened)
        · rw [moves.closed opened] at deal kind status
          exact ⟨id, a, row, deal, kind, status⟩
  · intro acknowledged
    obtain ⟨id, a, row, deal, kind, status⟩ := acknowledged
    obtain ⟨b, rowB, moves⟩ := h.kept id a row
    have same : b = a := moves.closed (by rw [status]; nofun)
    exact ⟨id, a, same ▸ rowB, deal, kind, status⟩

/-- An alert of which the row is updated, from what the update makes of it. -/
theorem detects_updateAlert {db : AlertDb} {id : ℕ} {f : DealAlert → DealAlert}
    (moves : ∀ a, db.alerts.row id = some a → Moves a (f a)) :
    Detects db (db.updateAlert id f) := by
  have rows : ∀ other, (db.updateAlert id f).alerts.row other =
      if other = id then (db.alerts.row other).map f else db.alerts.row other := by
    intro other
    unfold AlertDb.updateAlert
    rw [Table.row_modify]
    exact if_congr List.mem_singleton rfl rfl
  refine ⟨fun other a row => ?_, fun other b none rowB => ?_⟩
  · rw [rows, row]
    split
    · next same => exact ⟨f a, rfl, moves a (same ▸ row)⟩
    · exact ⟨a, rfl, .refl a⟩
  · rw [rows, none, Option.map_none, ite_self] at rowB
    cases rowB

theorem Settles.detects {db db' : AlertDb} {now : Timestamp} {dealId : ℕ} {type : AlertType}
    {v : AlertVerdict} (h : Settles db now dealId type v db') : Detects db db' := by
  cases h with
  | updated found =>
      obtain ⟨row, opened⟩ := openAlert_some found
      have status := (DealAlert.isOpen_iff.mp opened).2.2
      refine detects_updateAlert fun b rowB => ?_
      cases Option.some.inj (row.symm.trans rowB)
      refine ⟨rfl, rfl, fun closed => absurd status closed, fun _ => ?_⟩
      rw [status]
      nofun
  | raised found =>
      refine ⟨fun id a row => ⟨a, Table.row_insert_of_some row _, .refl a⟩, fun id b none row => ?_⟩
      have inserted := (Table.row_insert db.alerts _ id).symm.trans row
      split at inserted
      · cases inserted
        nofun
      · rw [none] at inserted
        cases inserted
  | @resolved reason id a found =>
      obtain ⟨row, opened⟩ := openAlert_some found
      have status := (DealAlert.isOpen_iff.mp opened).2.2
      have update : Detects db (db.updateAlert id fun a =>
          { a with status := .resolved, resolvedAt := some now }) := by
        refine detects_updateAlert fun b rowB => ?_
        cases Option.some.inj (row.symm.trans rowB)
        exact ⟨rfl, rfl, fun closed => absurd status closed, fun _ => by simp⟩
      exact ⟨update.kept, update.added⟩
  | cleared found => exact .refl db
  | left => exact .refl db

variable {db : AlertDb}

theorem detects_detectBy (verdict : Detector) (type : AlertType) (now : Timestamp) (dealId : ℕ) :
    Detects db (detectBy now type verdict db dealId) := by
  unfold detectBy
  split
  · exact .refl db
  · exact settles.detects

theorem detects_pass (verdict : Detector) (type : AlertType) (now : Timestamp)
    (dealIds : List ℕ) : Detects db (dealIds.foldl (detectBy now type verdict) db) := by
  induction dealIds generalizing db with
  | nil => exact .refl db
  | cons dealId dealIds ih => exact (detects_detectBy verdict type now dealId).trans ih

theorem detects_terminal (now : Timestamp) :
    Detects db (db.terminalAlerts.foldl (resolveTerminal now) db) := by
  obtain ⟨rows, -, -⟩ := foldl_resolveTerminal now db.terminalAlerts db
  have listed : ∀ id a, db.alerts.row id = some a → id ∈ db.terminalAlerts.map Prod.fst →
      a.status = .open := by
    intro id a row mem
    obtain ⟨⟨i, dealId⟩, alert, rfl⟩ := List.mem_map.mp mem
    obtain ⟨b, rowB, isOpen⟩ := openAt_iff.mp (mem_terminalAlerts.mp alert).2
    cases Option.some.inj (row.symm.trans rowB)
    exact (DealAlert.isOpen_iff.mp isOpen).2.2
  refine ⟨fun id a row => ?_, fun id b none rowB => ?_⟩
  · rw [rows, Table.row_modify, row]
    split
    · next mem =>
        refine ⟨_, rfl, rfl, rfl, fun closed => absurd (listed id a row mem) closed, fun _ => ?_⟩
        simp
    · exact ⟨a, rfl, .refl a⟩
  · rw [rows, Table.row_modify, none, Option.map_none, ite_self] at rowB
    cases rowB

theorem detects_stalled (now : Timestamp) (stalledDays : ℤ) :
    Detects db (detectStalledDeals now db stalledDays).1 := by
  rw [detectStalledDeals_eq]
  exact (detects_pass _ _ now _).trans (detects_terminal now)

theorem detects_slippages (now : Timestamp) (pickings : PickingReader) (graceDays : ℤ) :
    Detects db (detectDeliverySlippages now pickings db graceDays).1 := by
  rw [detectDeliverySlippages_eq]
  exact detects_pass _ _ now _

theorem detects_anomaly (now : Timestamp) (dealId : ℕ) :
    Detects db (detectDealDiscountAnomaly now db dealId).1 := by
  rw [detectDealDiscountAnomaly_eq]
  exact detects_detectBy _ _ now dealId

end Detects

/-! ## Two unresolved alerts -/

section Unresolved

variable {db : AlertDb}

theorem unresolvedAt_of_openAt {id dealId : ℕ} {type : AlertType}
    (here : db.openAt id dealId type = true) : db.unresolvedAt id dealId type := by
  obtain ⟨a, row, isOpen⟩ := openAt_iff.mp here
  obtain ⟨deal, kind, status⟩ := DealAlert.isOpen_iff.mp isOpen
  exact ⟨a, row, deal, kind, by rw [status]; nofun⟩

theorem oneOpen_of_oneUnresolved (one : db.OneUnresolved) : db.OneOpen :=
  fun i j dealId type here there =>
    one i j dealId type (unresolvedAt_of_openAt here) (unresolvedAt_of_openAt there)

/-- An alert that is open and another that is acknowledged are two unresolved ones. -/
theorem not_acknowledgedOn (one : db.OneUnresolved) (dealId : ℕ) (type : AlertType)
    (opened : db.hasOpen dealId type = true) : ¬ db.acknowledgedOn dealId type := by
  intro acknowledged
  obtain ⟨i, here⟩ := hasOpen_iff.mp opened
  obtain ⟨j, a, row, deal, kind, status⟩ := acknowledged
  have same := one i j dealId type (unresolvedAt_of_openAt here)
    ⟨a, row, deal, kind, by rw [status]; nofun⟩
  obtain ⟨b, rowB, isOpen⟩ := openAt_iff.mp here
  rw [same, row] at rowB
  cases Option.some.inj rowB
  rw [(DealAlert.isOpen_iff.mp isOpen).2.2] at status
  cases status

theorem oneUnresolved_of_fewer {after : AlertDb} (one : db.OneUnresolved)
    (fewer : ∀ i dealId type, after.unresolvedAt i dealId type → db.unresolvedAt i dealId type) :
    after.OneUnresolved := fun i j dealId type here there =>
  one i j dealId type (fewer i dealId type here) (fewer j dealId type there)

/-- An update that leaves an alert's deal and type, and a resolved alert resolved. -/
theorem oneUnresolved_updateAlert (one : db.OneUnresolved) (id : ℕ) {f : DealAlert → DealAlert}
    (same : ∀ a, (f a).dealId = a.dealId ∧ (f a).type = a.type)
    (resolved : ∀ a, db.alerts.row id = some a → a.status = .resolved → (f a).status = .resolved) :
    (db.updateAlert id f).OneUnresolved := by
  refine oneUnresolved_of_fewer one fun i dealId type unresolved => ?_
  obtain ⟨b, rowB, deal, kind, status⟩ := unresolved
  unfold AlertDb.updateAlert at rowB
  dsimp only at rowB
  rw [Table.row_modify] at rowB
  split at rowB
  · next here =>
      obtain ⟨a, row, rfl⟩ := Option.map_eq_some_iff.mp rowB
      rw [List.mem_singleton] at here
      subst here
      exact ⟨a, row, (same a).1.symm.trans deal, (same a).2.symm.trans kind,
        fun was => status (resolved a row was)⟩
  · exact ⟨b, rowB, deal, kind, status⟩

theorem oneUnresolved_insert {a : DealAlert} (one : db.OneUnresolved)
    (no : ∀ i, ¬ db.unresolvedAt i a.dealId a.type) :
    ({ db with alerts := db.alerts.insert a } : AlertDb).OneUnresolved := by
  have known : ∀ i dealId type,
      ({ db with alerts := db.alerts.insert a } : AlertDb).unresolvedAt i dealId type →
        db.unresolvedAt i dealId type ∨
          i = db.alerts.next ∧ dealId = a.dealId ∧ type = a.type := by
    intro i dealId type unresolved
    obtain ⟨b, row, deal, kind, status⟩ := unresolved
    dsimp only at row
    rw [Table.row_insert] at row
    split at row
    · next new =>
        cases Option.some.inj row
        exact Or.inr ⟨new, deal.symm, kind.symm⟩
    · exact Or.inl ⟨b, row, deal, kind, status⟩
  intro i j dealId type here there
  rcases known i dealId type here with here | ⟨rfl, rfl, rfl⟩
  · rcases known j dealId type there with there | ⟨-, rfl, rfl⟩
    · exact one i j dealId type here there
    · exact absurd here (no i)
  · rcases known j _ _ there with there | ⟨rfl, -, -⟩
    · exact absurd there (no j)
    · rfl

/-- A verdict leaves one unresolved alert where it raises none beside an acknowledged one. -/
theorem Settles.oneUnresolved {db' : AlertDb} {now : Timestamp} {dealId : ℕ} {type : AlertType}
    {v : AlertVerdict} (h : Settles db now dealId type v db') (one : db.OneUnresolved)
    (alone : v.opens (db.hasOpen dealId type) = true → ¬ db.acknowledgedOn dealId type) :
    db'.OneUnresolved := by
  cases h with
  | @updated severity title detail id a found =>
      exact oneUnresolved_updateAlert one id (fun a => ⟨rfl, rfl⟩) fun _ _ status => status
  | @raised severity title detail found =>
      have no : ∀ i, ¬ db.unresolvedAt i dealId type := by
        intro i unresolved
        obtain ⟨a, row, deal, kind, status⟩ := unresolved
        cases held : a.status with
        | «open» =>
            have opened := hasOpen_iff_row.mpr ⟨i, a, row, deal, kind, held⟩
            rw [hasOpen_of_none found] at opened
            cases opened
        | acknowledged => exact alone rfl ⟨i, a, row, deal, kind, held⟩
        | resolved => exact status held
      have inserted := oneUnresolved_insert (a :=
        { dealId, type, severity, status := .open, title, detail, raisedAt := now }) one no
      exact inserted
  | @resolved reason id a found =>
      exact oneUnresolved_updateAlert one id (fun a => ⟨rfl, rfl⟩) fun _ _ _ => rfl
  | cleared found => exact one
  | left => exact one

theorem oneUnresolved_detectBy (verdict : Detector) (type : AlertType) (now : Timestamp)
    {dealId : ℕ} (one : db.OneUnresolved)
    (alone : db.opensOn verdict type dealId = true → ¬ db.acknowledgedOn dealId type) :
    (detectBy now type verdict db dealId).OneUnresolved := by
  unfold detectBy
  unfold AlertDb.opensOn at alone
  cases row : db.deals.row dealId with
  | none => exact one
  | some d =>
      rw [row] at alone
      exact settles.oneUnresolved one alone

/-- A pass leaves one unresolved alert where it opens none beside an acknowledged one. -/
theorem oneUnresolved_pass (verdict : Detector) (type : AlertType) (now : Timestamp)
    {dealIds : List ℕ} (nodup : dealIds.Nodup) (one : db.OneUnresolved)
    (steady : ∀ dealId ∈ dealIds, SteadyAt verdict now db.deals db.snapshots dealId)
    (alone : ∀ dealId ∈ dealIds, db.opensOn verdict type dealId = true →
      ¬ db.acknowledgedOn dealId type) :
    (dealIds.foldl (detectBy now type verdict) db).OneUnresolved := by
  induction dealIds generalizing db with
  | nil => exact one
  | cons first dealIds ih =>
      obtain ⟨fresh, nodup⟩ := List.nodup_cons.mp nodup
      obtain ⟨aloneFirst, aloneRest⟩ := List.forall_mem_cons.mp alone
      have later := fun other (mem : other ∈ dealIds) =>
        steadyAt_detectBy verdict type now (oneOpen_of_oneUnresolved one)
          (fun eq : other = first => fresh (eq ▸ mem)) (steady other (List.mem_cons_of_mem _ mem))
      refine ih nodup (oneUnresolved_detectBy verdict type now one aloneFirst)
        (fun other mem => (later other mem).2.2) fun other mem opens => ?_
      rw [(detects_detectBy verdict type now first).acknowledgedOn]
      exact aloneRest other mem ((later other mem).1 ▸ opens)

/-- What resolves alerts leaves no more unresolved than before. -/
theorem oneUnresolved_terminal (now : Timestamp) (one : db.OneUnresolved) :
    (db.terminalAlerts.foldl (resolveTerminal now) db).OneUnresolved := by
  obtain ⟨rows, -, -⟩ := foldl_resolveTerminal now db.terminalAlerts db
  refine oneUnresolved_of_fewer one fun i dealId type unresolved => ?_
  obtain ⟨b, row, deal, kind, status⟩ := unresolved
  rw [rows, Table.row_modify] at row
  split at row
  · obtain ⟨a, -, rfl⟩ := Option.map_eq_some_iff.mp row
    exact absurd rfl status
  · exact ⟨b, row, deal, kind, status⟩

end Unresolved

/-! ## The condition on a step -/

/-- The operation raises no alert beside an acknowledged one, and is not a user's on a resolved
alert. -/
def AlertOp.KeepsLife (db : AlertDb) : AlertOp → Prop
  | .detectStalled now stalledDays => ∀ dealId d, db.deals.row dealId = some d →
      stalledNow now stalledDays d = true → ¬ db.acknowledgedOn dealId .stalledDeal
  | .detectSlippages now pickings graceDays => ∀ dealId d, db.deals.row dealId = some d →
      d.status ∈ monitoredStatuses → (slippageOf now pickings graceDays d).isSome = true →
        ¬ db.acknowledgedOn dealId .deliverySlippage
  | .detectAnomaly _ dealId => ∀ d, db.deals.row dealId = some d →
      (anomalyVerdict db.deals db.snapshots d).effect = some true →
        ¬ db.acknowledgedOn dealId .discountAnomaly
  | .acknowledge _ alertId _ => ∀ a, db.alerts.row alertId = some a → a.status ≠ .resolved
  | .resolve now alertId _ => ∀ a, db.alerts.row alertId = some a → a.status = .resolved →
      a.resolvedAt = some now
  -- a recomputation counts as its parts
  | .recompute .. => True
  | .changeDeals .. => True

section Steps

variable {db : AlertDb}

theorem keepsLife_detectStalled (now : Timestamp) (stalledDays : ℤ) (one : db.OneUnresolved) :
    (detectStalledDeals now db stalledDays).1.OneUnresolved ↔
      (AlertOp.detectStalled now stalledDays).KeepsLife db := by
  constructor
  · intro after dealId d row stalled acknowledged
    obtain ⟨-, opened, -, -⟩ :=
      detectStalledDeals_outcome now stalledDays (oneOpen_of_oneUnresolved one)
    refine not_acknowledgedOn after dealId .stalledDeal ?_
      (((detects_stalled now stalledDays).acknowledgedOn _ _).mpr acknowledged)
    rw [opened, if_pos rfl, AlertDb.stalledAfter, row]
    exact stalled
  · intro keeps
    rw [detectStalledDeals_eq]
    refine oneUnresolved_terminal now (oneUnresolved_pass _ _ now (dealsIn_nodup db _) one
      (fun dealId _ => steadyAt_own now _ _ _ dealId) fun dealId mem opens => ?_)
    obtain ⟨d, row, status⟩ := mem_dealsIn.mp mem
    rw [opensOn_eq _ _ row, stalledVerdict_opens, decide_eq_true_eq] at opens
    exact keeps dealId d row (decide_eq_true ⟨status, opens⟩)

theorem keepsLife_detectSlippages (now : Timestamp) (pickings : PickingReader) (graceDays : ℤ)
    (one : db.OneUnresolved) :
    (detectDeliverySlippages now pickings db graceDays).1.OneUnresolved ↔
      (AlertOp.detectSlippages now pickings graceDays).KeepsLife db := by
  constructor
  · intro after dealId d row monitored late acknowledged
    refine not_acknowledgedOn after dealId .deliverySlippage ?_
      (((detects_slippages now pickings graceDays).acknowledgedOn _ _).mpr acknowledged)
    rw [detectDeliverySlippages_eq, (pass_outcome _ _ now ((mem_dealsIn_of_row row).mpr monitored)
      (dealsIn_nodup db _) (oneOpen_of_oneUnresolved one) (steadyAt_own now _ _ _ dealId)).1,
      opensOn_eq _ _ row, slippageVerdict_opens]
    exact late
  · intro keeps
    rw [detectDeliverySlippages_eq]
    refine oneUnresolved_pass _ _ now (dealsIn_nodup db _) one
      (fun dealId _ => steadyAt_own now _ _ _ dealId) fun dealId mem opens => ?_
    obtain ⟨d, row, status⟩ := mem_dealsIn.mp mem
    rw [opensOn_eq _ _ row, slippageVerdict_opens] at opens
    exact keeps dealId d row status opens

theorem keepsLife_detectAnomaly (now : Timestamp) (dealId : ℕ) (one : db.OneUnresolved) :
    (detectDealDiscountAnomaly now db dealId).1.OneUnresolved ↔
      (AlertOp.detectAnomaly now dealId).KeepsLife db := by
  constructor
  · intro after d row raises acknowledged
    obtain ⟨-, opened, -, -⟩ := detectBy_outcome
      (fun deals snapshots d => anomalyVerdict deals snapshots d) .discountAnomaly now dealId
      (oneOpen_of_oneUnresolved one)
    refine not_acknowledgedOn after dealId .discountAnomaly ?_
      (((detects_anomaly now dealId).acknowledgedOn _ _).mpr acknowledged)
    rw [detectDealDiscountAnomaly_eq, opened, if_pos ⟨rfl, rfl⟩, opensOn_eq _ _ row,
      AlertVerdict.opens, raises]
    rfl
  · intro keeps
    rw [detectDealDiscountAnomaly_eq]
    refine oneUnresolved_detectBy _ _ now one fun opens => ?_
    cases row : db.deals.row dealId with
    | none =>
        rw [AlertDb.opensOn, row] at opens
        exact not_acknowledgedOn one dealId .discountAnomaly opens
    | some d =>
        rw [opensOn_eq _ _ row, AlertVerdict.opens] at opens
        cases effect : (anomalyVerdict db.deals db.snapshots d).effect with
        | none =>
            rw [effect] at opens
            exact not_acknowledgedOn one dealId .discountAnomaly opens
        | some raises =>
            rw [effect] at opens
            exact keeps d row (effect.trans (congrArg some opens))

/-- An update of one alert loses none, and takes none back, where it does neither to that alert. -/
theorem forward_updateAlert_iff {id : ℕ} {f : DealAlert → DealAlert} :
    db.Forward (db.updateAlert id f) ↔ ∀ a, db.alerts.row id = some a →
      a.status.rank ≤ (f a).status.rank ∧ (a.status = .resolved → f a = a) := by
  have rows : ∀ other a, db.alerts.row other = some a →
      (db.updateAlert id f).alerts.row other = some (if other = id then f a else a) := by
    intro other a row
    unfold AlertDb.updateAlert
    rw [Table.row_modify, row]
    simp only [List.mem_singleton]
    split <;> rfl
  constructor
  · intro forward a row
    obtain ⟨b, rowB, later, same⟩ := forward id a row
    rw [rows id a row, if_pos rfl] at rowB
    cases Option.some.inj rowB
    exact ⟨later, same⟩
  · intro kept other a row
    refine ⟨_, rows other a row, ?_⟩
    split
    · next here => exact kept a (here ▸ row)
    · exact ⟨le_rfl, fun _ => rfl⟩

theorem keepsLife_acknowledge (now : Timestamp) (alertId : ℕ) (userId : ℤ)
    (one : db.OneUnresolved) :
    ((AlertOp.acknowledge now alertId userId).step db).OneUnresolved ∧
        db.Forward ((AlertOp.acknowledge now alertId userId).step db) ↔
      (AlertOp.acknowledge now alertId userId).KeepsLife db := by
  unfold AlertOp.KeepsLife AlertOp.step acknowledgeAlert
  dsimp only
  cases row : db.alerts.row alertId with
  | none => exact iff_of_true ⟨one, (Detects.refl db).forward⟩ fun _ none => by cases none
  | some a =>
      dsimp only
      rw [Option.getD_some, forward_updateAlert_iff, row]
      constructor
      · intro life b same resolved
        obtain ⟨later, -⟩ := life.2 b same
        rw [resolved] at later
        exact absurd (show 2 ≤ 1 from later) (by decide)
      · intro keeps
        refine ⟨oneUnresolved_updateAlert one alertId (fun _ => ⟨rfl, rfl⟩)
          fun b rowB resolved => absurd resolved (keeps b (row ▸ rowB)), fun b same => ?_⟩
        have unresolved := keeps b same
        cases held : b.status with
        | «open» => exact ⟨Nat.zero_le _, nofun⟩
        | acknowledged => exact ⟨le_rfl, nofun⟩
        | resolved => exact absurd held unresolved

theorem keepsLife_resolve (now : Timestamp) (alertId : ℕ) (userId : ℤ) (one : db.OneUnresolved) :
    ((AlertOp.resolve now alertId userId).step db).OneUnresolved ∧
        db.Forward ((AlertOp.resolve now alertId userId).step db) ↔
      (AlertOp.resolve now alertId userId).KeepsLife db := by
  unfold AlertOp.KeepsLife AlertOp.step resolveAlert
  dsimp only
  cases row : db.alerts.row alertId with
  | none => exact iff_of_true ⟨one, (Detects.refl db).forward⟩ fun _ none => by cases none
  | some a =>
      have fewer : (db.updateAlert alertId fun a =>
          { a with status := .resolved, resolvedAt := some now }).OneUnresolved :=
        oneUnresolved_updateAlert one alertId (fun _ => ⟨rfl, rfl⟩) fun _ _ _ => rfl
      refine (and_iff_right fewer).trans (forward_updateAlert_iff.trans ?_)
      rw [row]
      constructor
      · intro life b same resolved
        exact congrArg DealAlert.resolvedAt ((life b same).2 resolved).symm
      · intro keeps b same
        refine ⟨?_, fun resolved => ?_⟩
        · change b.status.rank ≤ 2
          cases b.status <;> decide
        · have now := keeps b same resolved
          obtain ⟨⟩ := b
          dsimp only at resolved now ⊢
          rw [resolved, now]

/-- A step that is not a recomputation keeps the life of the alerts exactly where it meets its
condition. -/
theorem keepsLife_iff {op : AlertOp} (single : ∀ now pickings, op ≠ .recompute now pickings)
    (one : db.OneUnresolved) :
    (op.step db).OneUnresolved ∧ db.Forward (op.step db) ↔ op.KeepsLife db := by
  cases op with
  | detectStalled now stalledDays =>
      exact (and_iff_left (detects_stalled now stalledDays).forward).trans
        (keepsLife_detectStalled now stalledDays one)
  | detectSlippages now pickings graceDays =>
      exact (and_iff_left (detects_slippages now pickings graceDays).forward).trans
        (keepsLife_detectSlippages now pickings graceDays one)
  | detectAnomaly now dealId =>
      exact (and_iff_left (detects_anomaly now dealId).forward).trans
        (keepsLife_detectAnomaly now dealId one)
  | recompute now pickings => exact absurd rfl (single now pickings)
  | acknowledge now alertId userId => exact keepsLife_acknowledge now alertId userId one
  | resolve now alertId userId => exact keepsLife_resolve now alertId userId one
  | changeDeals deals snapshots =>
      exact iff_of_true ⟨one, (Detects.refl db).forward⟩ trivial

end Steps

/-! ## Recomputations by their parts -/

/-- What an operation is made of. -/
def AlertOp.parts (db : AlertDb) : AlertOp → List AlertOp
  | .recompute now pickings =>
      [.detectStalled now 7, .detectSlippages now pickings 0] ++
        ((db.beforeAnomalies now pickings).dealsIn anomalyStatuses).map (.detectAnomaly now)
  | op => [op]

/-- The operations with the recomputations taken apart. -/
def AlertOp.inParts : List AlertOp → AlertDb → List AlertOp
  | [], _ => []
  | op :: ops, db => op.parts db ++ inParts ops (op.step db)

section Parts

theorem run_detectAnomaly (now : Timestamp) (dealIds : List ℕ) (db : AlertDb) :
    run AlertOp.step (dealIds.map (.detectAnomaly now)) db =
      dealIds.foldl (detectBy now .discountAnomaly fun deals snapshots d =>
        anomalyVerdict deals snapshots d) db := by
  induction dealIds generalizing db with
  | nil => rfl
  | cons dealId dealIds ih =>
      rw [List.map_cons, run_cons, List.foldl_cons, ← detectDealDiscountAnomaly_eq]
      exact ih _

theorem run_parts (op : AlertOp) (db : AlertDb) :
    run AlertOp.step (op.parts db) db = op.step db := by
  cases op with
  | recompute now pickings =>
      have before : run AlertOp.step [.detectStalled now 7, .detectSlippages now pickings 0] db =
          db.beforeAnomalies now pickings := rfl
      rw [AlertOp.parts, run_append, before, run_detectAnomaly, ← recomputeAllAlerts_eq,
        AlertOp.step]
  | _ => rfl

/-- Taking recomputations apart changes no run. -/
theorem run_inParts (ops : List AlertOp) (db : AlertDb) :
    run AlertOp.step (AlertOp.inParts ops db) db = run AlertOp.step ops db := by
  induction ops generalizing db with
  | nil => rfl
  | cons op ops ih => rw [AlertOp.inParts, run_append, run_parts, ih, run_cons]

theorem single_inParts (ops : List AlertOp) (db : AlertDb) :
    ∀ op ∈ AlertOp.inParts ops db, ∀ now pickings, op ≠ .recompute now pickings := by
  induction ops generalizing db with
  | nil => simp [AlertOp.inParts]
  | cons first ops ih =>
      refine List.forall_mem_append.mpr ⟨fun op mem now pickings => ?_, ih (first.step db)⟩
      rintro rfl
      cases first <;> simp [AlertOp.parts] at mem

end Parts

/-! ## Runs -/

/-- A deal never has two unresolved alerts of one type; and between two moments of the run no alert
goes back, and the resolved ones stay as they are. -/
structure LifeKept (ops : List AlertOp) (db : AlertDb) : Prop where
  oneUnresolved : ∀ earlier later, ops = earlier ++ later →
    (run AlertOp.step earlier db).OneUnresolved
  forward : ∀ earlier between later, ops = earlier ++ between ++ later →
    (run AlertOp.step earlier db).Forward (run AlertOp.step (earlier ++ between) db)

theorem Forward.refl (db : AlertDb) : db.Forward db :=
  (Detects.refl db).forward

theorem Forward.trans {first second third : AlertDb} (h : first.Forward second)
    (h' : second.Forward third) : first.Forward third := by
  intro id a row
  obtain ⟨b, rowB, later, same⟩ := h id a row
  obtain ⟨c, rowC, later', same'⟩ := h' id b rowB
  refine ⟨c, rowC, later.trans later', fun resolved => ?_⟩
  have kept := same resolved
  subst kept
  exact same' resolved

theorem lifeKept_iff_steps {ops : List AlertOp} {db : AlertDb} (one : db.OneUnresolved) :
    LifeKept ops db ↔ ∀ t ∈ history AlertOp.step ops db,
      (t.2.step t.1).OneUnresolved ∧ t.1.Forward (t.2.step t.1) := by
  have states := run_states_iff AlertOp.step (P := AlertDb.OneUnresolved) one ops
  have pairs := run_related_iff AlertOp.step (R := AlertDb.Forward) Forward.refl
    (fun _ _ _ => Forward.trans) ops db
  rw [forall₂_and, ← states, ← pairs]
  exact ⟨fun kept => ⟨kept.oneUnresolved, kept.forward⟩, fun kept => ⟨kept.1, kept.2⟩⟩

/-- Taken apart, a run keeps the life of the alerts exactly where every one of its steps raises no
alert beside an acknowledged one and is not a user's on a resolved alert. -/
theorem lifecycle_iff (deals : Table DealRow) (snapshots : Snapshots) (ops : List AlertOp) :
    let start : AlertDb := { deals, snapshots }
    let parts := AlertOp.inParts ops start
    run AlertOp.step parts start = run AlertOp.step ops start ∧
      (LifeKept parts start ↔ ∀ t ∈ history AlertOp.step parts start, t.2.KeepsLife t.1) := by
  intro start parts
  have one : start.OneUnresolved := by
    intro i j dealId type here there
    obtain ⟨a, row, -⟩ := here
    cases row
  refine ⟨run_inParts ops start, (lifeKept_iff_steps one).trans ?_⟩
  have single := history_allowed AlertOp.step (single_inParts ops start) start
  exact run_forall_iff AlertDb.OneUnresolved one (fun db op single one => keepsLife_iff single one)
    (fun db op single one keeps => ((keepsLife_iff single one).mpr keeps).1) parts single

/-- A draft without activity from time 0 on. -/
def demoIdle : Table DealRow :=
  Table.empty.insert
    { status := .draft, odooSaleOrderId := 4001, ownerOdooUserId := 4, lastActivityAt := 0 }

/-- It is found stalled and the alert is acknowledged; ten days later it is found stalled again. -/
def demoTwice : List AlertOp :=
  [.detectStalled 864000 7, .acknowledge 864000 1 4, .detectStalled 1728000 7]

/-- Its alert is resolved and then acknowledged. -/
def demoReopened : List AlertOp :=
  [.detectStalled 864000 7, .resolve 864000 1 4, .acknowledge 864000 1 4]

theorem demoTwice_reopened_not_lifeKept :
    ¬ LifeKept demoTwice { deals := demoIdle } ∧ ¬ LifeKept demoReopened { deals := demoIdle } := by
  constructor
  · intro kept
    have one := kept.oneUnresolved demoTwice [] (List.append_nil _).symm
    have unresolved : ∀ id, (((run AlertOp.step demoTwice { deals := demoIdle }).alerts.row id).any
        fun a => a.dealId = 1 ∧ a.type = .stalledDeal ∧ a.status ≠ .resolved) = true →
          (run AlertOp.step demoTwice { deals := demoIdle }).unresolvedAt id 1 .stalledDeal := by
      intro id found
      obtain ⟨a, row, here⟩ := (Option.any_eq_true _ _).mp found
      exact ⟨a, row, of_decide_eq_true here⟩
    exact absurd (one 1 2 1 .stalledDeal (unresolved 1 (by decide +kernel))
      (unresolved 2 (by decide +kernel))) (by decide)
  · intro kept
    have forward := kept.forward [.detectStalled 864000 7, .resolve 864000 1 4]
      [.acknowledge 864000 1 4] [] rfl
    have resolved : ((run AlertOp.step [.detectStalled 864000 7, .resolve 864000 1 4]
        { deals := demoIdle }).alerts.row 1).map DealAlert.status = some .resolved := by
      decide +kernel
    have acknowledged : ((run AlertOp.step demoReopened
        { deals := demoIdle }).alerts.row 1).map DealAlert.status = some .acknowledged := by
      decide +kernel
    obtain ⟨a, row, status⟩ := Option.map_eq_some_iff.mp resolved
    obtain ⟨b, rowB, -, same⟩ := forward 1 a row
    have after := (congrArg (Option.map DealAlert.status) rowB).symm.trans acknowledged
    rw [same status, Option.map_some, status] at after
    cases after

end DealFlow
