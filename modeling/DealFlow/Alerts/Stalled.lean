import DealFlow.Alerts.Pass
import DealFlow.Lib.Run

/-!
# Stalled deals are detected exactly

A pass of the stalled-deal detector first settles the deals that may stall and then resolves the
alerts of the others; the two lists of statuses it goes by cover every status there is.  What it
measures on a deal it reads before it writes an event about it, so a pass is steady, and after it an
alert is open where the deal was stalled before it (`detectStalledDeals_outcome`).
-/

namespace DealFlow

open Lib

/-- The deal is one that may stall, and has gone without activity for long enough. -/
def stalledNow (now : Timestamp) (stalledDays : ℤ) (d : DealRow) : Bool :=
  d.status ∈ stallingStatuses ∧ daysBetween d.lastActivityAt now ≥ stalledDays

theorem status_covered (status : DealStatus) :
    status ∈ terminalStatuses ↔ status ∉ stallingStatuses := by
  cases status <;> decide

theorem mem_dealsIn {db : AlertDb} {statuses : List DealStatus} {dealId : ℕ} :
    dealId ∈ db.dealsIn statuses ↔ ∃ d, db.deals.row dealId = some d ∧ d.status ∈ statuses := by
  unfold AlertDb.dealsIn
  rw [List.mem_map]
  constructor
  · intro found
    obtain ⟨entry, mem, rfl⟩ := found
    obtain ⟨row, status⟩ := List.mem_filter.mp mem
    exact ⟨entry.2, Table.mem_entries.mp row, of_decide_eq_true status⟩
  · intro found
    obtain ⟨d, row, status⟩ := found
    exact ⟨(dealId, d), List.mem_filter.mpr ⟨Table.mem_entries.mpr row, decide_eq_true status⟩, rfl⟩

theorem mem_dealsIn_of_row {db : AlertDb} {statuses : List DealStatus} {dealId : ℕ} {d : DealRow}
    (row : db.deals.row dealId = some d) :
    dealId ∈ db.dealsIn statuses ↔ d.status ∈ statuses := by
  rw [mem_dealsIn]
  constructor
  · intro found
    obtain ⟨e, same, status⟩ := found
    exact Option.some.inj (row.symm.trans same) ▸ status
  · exact fun status => ⟨d, row, status⟩

theorem dealsIn_nodup (db : AlertDb) (statuses : List DealStatus) :
    (db.dealsIn statuses).Nodup :=
  db.deals.entries_nodup.sublist (List.filter_sublist.map Prod.fst)

/-! ## Terminal deals -/

section Terminal

variable (now : Timestamp) {db : AlertDb}

/-- The deal has a terminal status. -/
def AlertDb.isTerminal (db : AlertDb) (dealId : ℕ) : Bool :=
  (db.deals.row dealId).any fun d => d.status ∈ terminalStatuses

theorem isTerminal_touched {db₁ : AlertDb} {touched : List ℕ}
    (deals : db₁.deals = db.deals.modify touched (DealRow.touch now)) (dealId : ℕ) :
    db₁.isTerminal dealId = db.isTerminal dealId := by
  unfold AlertDb.isTerminal
  rw [deals, Table.row_modify]
  split
  · exact Option.any_map ..
  · rfl

theorem mem_terminalAlerts {id dealId : ℕ} :
    (id, dealId) ∈ db.terminalAlerts ↔
      db.isTerminal dealId = true ∧ db.openAt id dealId .stalledDeal = true := by
  unfold AlertDb.terminalAlerts
  rw [List.mem_map, openAt_iff]
  constructor
  · intro found
    obtain ⟨entry, mem, eq⟩ := found
    obtain ⟨row, test⟩ := List.mem_filter.mp mem
    obtain ⟨terminal, type, status⟩ := of_decide_eq_true test
    cases eq
    exact ⟨terminal, entry.2, Table.mem_entries.mp row,
      DealAlert.isOpen_iff.mpr ⟨rfl, type, status⟩⟩
  · intro found
    obtain ⟨terminal, a, row, isOpen⟩ := found
    obtain ⟨deal, type, status⟩ := DealAlert.isOpen_iff.mp isOpen
    refine ⟨(id, a), List.mem_filter.mpr ⟨Table.mem_entries.mpr row, ?_⟩, by rw [deal]⟩
    exact decide_eq_true ⟨deal ▸ terminal, type, status⟩

/-- What resolving a list of alerts does to the rows. -/
theorem foldl_resolveTerminal (alerts : List (ℕ × ℕ)) (db : AlertDb) :
    (alerts.foldl (resolveTerminal now) db).alerts =
        db.alerts.modify (alerts.map Prod.fst)
          (fun a => { a with status := .resolved, resolvedAt := some now }) ∧
      (alerts.foldl (resolveTerminal now) db).deals =
        db.deals.modify (alerts.map Prod.snd) (DealRow.touch now) ∧
      (alerts.foldl (resolveTerminal now) db).snapshots = db.snapshots := by
  induction alerts generalizing db with
  | nil => exact ⟨(Table.modify_nil _ _).symm, (Table.modify_nil _ _).symm, rfl⟩
  | cons alert alerts ih =>
      obtain ⟨rows, deals, snapshots⟩ := ih (resolveTerminal now db alert)
      rw [List.foldl_cons, rows, deals, snapshots, List.map_cons, List.map_cons]
      refine ⟨Table.modify_modify
          (f := fun a : DealAlert => { a with status := .resolved, resolvedAt := some now })
          (fun _ => rfl) db.alerts [alert.1] _,
        Table.modify_modify (DealRow.touch_touch now) db.deals [alert.2] _, rfl⟩

/-- What is open once the terminal alerts have been resolved. -/
theorem openAt_terminal (i dealId : ℕ) (type : AlertType) :
    (db.terminalAlerts.foldl (resolveTerminal now) db).openAt i dealId type =
      if i ∈ db.terminalAlerts.map Prod.fst then false else db.openAt i dealId type := by
  obtain ⟨rows, -, -⟩ := foldl_resolveTerminal now db.terminalAlerts db
  unfold AlertDb.openAt
  rw [rows, Table.row_modify]
  split
  · rw [Option.any_map]
    cases db.alerts.row i <;> simp [DealAlert.isOpen]
  · rfl

/-- Which open alerts are terminal ones. -/
theorem mem_terminalIds {i dealId : ℕ} {type : AlertType} (here : db.openAt i dealId type = true) :
    i ∈ db.terminalAlerts.map Prod.fst ↔ type = .stalledDeal ∧ db.isTerminal dealId = true := by
  rw [List.mem_map]
  constructor
  · intro found
    obtain ⟨⟨id, deal⟩, mem, rfl⟩ := found
    obtain ⟨terminal, there⟩ := mem_terminalAlerts.mp mem
    obtain ⟨rfl, rfl⟩ := openAt_key here there
    exact ⟨rfl, terminal⟩
  · intro found
    obtain ⟨rfl, terminal⟩ := found
    exact ⟨(i, dealId), mem_terminalAlerts.mpr ⟨terminal, here⟩, rfl⟩

/-- The deals that are marked as active. -/
theorem mem_terminalDeals {dealId : ℕ} :
    dealId ∈ db.terminalAlerts.map Prod.snd ↔
      db.isTerminal dealId = true ∧ db.hasOpen dealId .stalledDeal = true := by
  rw [List.mem_map, hasOpen_iff]
  constructor
  · intro found
    obtain ⟨⟨id, deal⟩, mem, rfl⟩ := found
    obtain ⟨terminal, there⟩ := mem_terminalAlerts.mp mem
    exact ⟨terminal, id, there⟩
  · intro found
    obtain ⟨terminal, id, there⟩ := found
    exact ⟨(id, dealId), mem_terminalAlerts.mpr ⟨terminal, there⟩, rfl⟩

/-- After the second half of the pass no terminal deal has a stalled alert open, and those that had
one are marked as active. -/
theorem terminal_outcome (one : db.OneOpen) :
    (db.terminalAlerts.foldl (resolveTerminal now) db).OneOpen ∧
      (∀ dealId type, (db.terminalAlerts.foldl (resolveTerminal now) db).hasOpen dealId type =
        if type = .stalledDeal ∧ db.isTerminal dealId = true then false
        else db.hasOpen dealId type) ∧
      (∀ dealId, (db.terminalAlerts.foldl (resolveTerminal now) db).deals.row dealId =
        if db.isTerminal dealId = true ∧ db.hasOpen dealId .stalledDeal = true then
          (db.deals.row dealId).map (DealRow.touch now)
        else db.deals.row dealId) ∧
      (db.terminalAlerts.foldl (resolveTerminal now) db).snapshots = db.snapshots := by
  obtain ⟨-, deals, snapshots⟩ := foldl_resolveTerminal now db.terminalAlerts db
  refine ⟨oneOpen_of_fewer one fun i dealId type opened => ?_, fun dealId type => ?_,
    fun dealId => ?_, snapshots⟩
  · rw [openAt_terminal] at opened
    split at opened
    · cases opened
    · exact opened
  · split
    · next gone =>
        rw [Bool.eq_false_iff, ne_eq, hasOpen_iff]
        intro opened
        obtain ⟨i, still⟩ := opened
        rw [openAt_terminal] at still
        split at still
        · cases still
        · next kept => exact kept ((mem_terminalIds still).mpr gone)
    · next other =>
        refine hasOpen_congr fun i => ?_
        rw [openAt_terminal]
        split
        · next mem =>
            refine (Bool.eq_false_iff.mpr fun here => ?_).symm
            exact other ((mem_terminalIds here).mp mem)
        · rfl
  · rw [deals, Table.row_modify]
    exact if_congr mem_terminalDeals rfl rfl

end Terminal

/-! ## The whole pass -/

section Pass

variable (now : Timestamp) (stalledDays : ℤ) {db : AlertDb}

/-- What is open of the stalled alerts after a pass. -/
def AlertDb.stalledAfter (db : AlertDb) (dealId : ℕ) : Bool :=
  match db.deals.row dealId with
  | none => db.hasOpen dealId .stalledDeal
  | some d => stalledNow now stalledDays d

theorem stalledVerdict_opens (d : DealRow) (was : Bool) :
    (stalledVerdict now stalledDays d).opens was =
      decide (daysBetween d.lastActivityAt now ≥ stalledDays) := by
  unfold stalledVerdict
  dsimp only
  split
  · next stalled => exact (decide_eq_true stalled).symm
  · next active => exact (decide_eq_false active).symm

/-- A deal is settled by the first half of the pass or by the second. -/
theorem stalling_cases (db : AlertDb) (dealId : ℕ) :
    (db.deals.row dealId = none ∧ db.isTerminal dealId = false ∧
        dealId ∉ db.dealsIn stallingStatuses) ∨
      (∃ d, db.deals.row dealId = some d ∧ d.status ∈ stallingStatuses ∧
        db.isTerminal dealId = false ∧ dealId ∈ db.dealsIn stallingStatuses) ∨
      (∃ d, db.deals.row dealId = some d ∧ d.status ∉ stallingStatuses ∧
        db.isTerminal dealId = true ∧ dealId ∉ db.dealsIn stallingStatuses) := by
  cases row : db.deals.row dealId with
  | none =>
      refine Or.inl ⟨rfl, ?_, fun mem => ?_⟩
      · unfold AlertDb.isTerminal
        rw [row]
        rfl
      · obtain ⟨e, same, -⟩ := mem_dealsIn.mp mem
        rw [row] at same
        cases same
  | some d =>
      have terminal : db.isTerminal dealId = decide (d.status ∈ terminalStatuses) := by
        unfold AlertDb.isTerminal
        rw [row, Option.any_some]
      rw [terminal, mem_dealsIn_of_row row, decide_eq_false_iff_not, decide_eq_true_eq,
        status_covered]
      by_cases stalling : d.status ∈ stallingStatuses
      · exact Or.inr (Or.inl ⟨d, rfl, stalling, not_not_intro stalling, stalling⟩)
      · exact Or.inr (Or.inr ⟨d, rfl, stalling, stalling, stalling⟩)

theorem detectStalledDeals_eq (db : AlertDb) :
    (detectStalledDeals now db stalledDays).1 =
      let db₁ := (db.dealsIn stallingStatuses).foldl
        (detectBy now .stalledDeal fun _ _ => stalledVerdict now stalledDays) db
      db₁.terminalAlerts.foldl (resolveTerminal now) db₁ := by
  unfold detectStalledDeals
  dsimp only
  rw [sweep_fst]
  simp only [detectStalledDeal_eq]

/-- A pass opens a stalled alert on the deals that are stalled and on no others, and marks the deals
as active on which that changes anything. -/
theorem detectStalledDeals_outcome (one : db.OneOpen) :
    (detectStalledDeals now db stalledDays).1.OneOpen ∧
      (∀ dealId type, (detectStalledDeals now db stalledDays).1.hasOpen dealId type =
        if type = .stalledDeal then db.stalledAfter now stalledDays dealId
        else db.hasOpen dealId type) ∧
      (∀ dealId, (detectStalledDeals now db stalledDays).1.deals.row dealId =
        if db.stalledAfter now stalledDays dealId = db.hasOpen dealId .stalledDeal then
          db.deals.row dealId
        else (db.deals.row dealId).map (DealRow.touch now)) ∧
      (detectStalledDeals now db stalledDays).1.snapshots = db.snapshots := by
  have one₁ := oneOpen_pass (fun _ _ => stalledVerdict now stalledDays) .stalledDeal now
    (db.dealsIn stallingStatuses) one
  obtain ⟨frame, ⟨touched, within, deals₁⟩, snapshots₁⟩ :=
    pass_frame (fun _ _ => stalledVerdict now stalledDays) .stalledDeal now
      (db.dealsIn stallingStatuses) one
  have settledRow := fun dealId (mem : dealId ∈ db.dealsIn stallingStatuses) =>
    pass_outcome (fun _ _ => stalledVerdict now stalledDays) .stalledDeal now mem
      (dealsIn_nodup db stallingStatuses) one (steadyAt_own now _ _ _ dealId)
  have otherRow := fun dealId (left : dealId ∉ db.dealsIn stallingStatuses) =>
    pass_row (fun _ _ => stalledVerdict now stalledDays) .stalledDeal now left one
  rw [detectStalledDeals_eq]
  generalize (db.dealsIn stallingStatuses).foldl
    (detectBy now .stalledDeal fun _ _ => stalledVerdict now stalledDays) db = db₁ at *
  obtain ⟨one₂, opened₂, rows₂, snapshots₂⟩ := terminal_outcome now one₁
  have terminal := isTerminal_touched now deals₁
  refine ⟨one₂, fun dealId type => ?_, fun dealId => ?_, snapshots₂.trans snapshots₁⟩
  · rw [opened₂, terminal]
    by_cases kind : type = .stalledDeal
    · subst kind
      rw [if_pos rfl]
      unfold AlertDb.stalledAfter stalledNow
      rcases stalling_cases db dealId with
        ⟨row, going, left⟩ | ⟨d, row, status, going, taken⟩ | ⟨d, row, status, gone, left⟩
      · simp only [row, going, frame dealId _ (Or.inl left), Bool.false_eq_true, and_false,
          if_false]
      · simp only [row, going, status, (settledRow dealId taken).1, opensOn_eq _ _ row,
          stalledVerdict_opens, Bool.false_eq_true, and_false, if_false, true_and]
      · simp only [row, gone, status, and_self, if_true, false_and, decide_false]
    · rw [if_neg fun key => kind key.1, if_neg kind]
      exact frame dealId type (Or.inr kind)
  · rw [rows₂, terminal]
    unfold AlertDb.stalledAfter stalledNow
    rcases stalling_cases db dealId with
      ⟨row, going, left⟩ | ⟨d, row, status, going, taken⟩ | ⟨d, row, status, gone, left⟩
    · simp only [row, going, otherRow dealId left, Bool.false_eq_true, false_and,
        Option.map_none, ite_self]
    · simp only [row, going, status, (settledRow dealId taken).2, writesOn_iff _ _ row,
        stalledVerdict_opens, Bool.false_eq_true, false_and, if_false, true_and]
      exact ite_not ..
    · simp only [row, gone, status, otherRow dealId left, frame dealId _ (Or.inl left), false_and,
        true_and, decide_false]
      cases db.hasOpen dealId .stalledDeal <;> rfl

/-- A pass changes no deal but by marking it as active. -/
theorem detectStalledDeals_touches (one : db.OneOpen) :
    ∃ touched : List ℕ, (detectStalledDeals now db stalledDays).1.deals =
      db.deals.modify touched (DealRow.touch now) := by
  obtain ⟨-, ⟨first, -, deals₁⟩, -⟩ :=
    pass_frame (fun _ _ => stalledVerdict now stalledDays) .stalledDeal now
      (db.dealsIn stallingStatuses) one
  rw [detectStalledDeals_eq]
  dsimp only
  rw [(foldl_resolveTerminal now _ _).2.1, deals₁, Table.modify_modify (DealRow.touch_touch now)]
  exact ⟨_, rfl⟩

/-- A pass that finds every stalled alert as it should be opens and closes nothing. -/
theorem detectStalledDeals_quiet (one : db.OneOpen)
    (settled : ∀ dealId, db.stalledAfter now stalledDays dealId = db.hasOpen dealId .stalledDeal)
    (i dealId : ℕ) (type : AlertType) :
    (detectStalledDeals now db stalledDays).1.openAt i dealId type = db.openAt i dealId type := by
  have quiet : ∀ dealId ∈ db.dealsIn stallingStatuses,
      db.writesOn (fun _ _ => stalledVerdict now stalledDays) .stalledDeal dealId = false := by
    intro dealId mem
    obtain ⟨d, row, status⟩ := mem_dealsIn.mp mem
    have asIs := settled dealId
    unfold AlertDb.stalledAfter stalledNow at asIs
    rw [row] at asIs
    rw [Bool.eq_false_iff, ne_eq, writesOn_iff _ _ row, stalledVerdict_opens, not_not, ← asIs]
    simp only [status, true_and]
  have same := pass_quiet (fun _ _ => stalledVerdict now stalledDays) .stalledDeal now
    (dealsIn_nodup db stallingStatuses) one (fun dealId _ => steadyAt_own now _ _ _ dealId) quiet
  obtain ⟨-, ⟨touched, -, deals₁⟩, -⟩ :=
    pass_frame (fun _ _ => stalledVerdict now stalledDays) .stalledDeal now
      (db.dealsIn stallingStatuses) one
  rw [detectStalledDeals_eq]
  generalize (db.dealsIn stallingStatuses).foldl
    (detectBy now .stalledDeal fun _ _ => stalledVerdict now stalledDays) db = db₁ at *
  have nothing : db₁.terminalAlerts = [] := by
    refine List.eq_nil_iff_forall_not_mem.mpr fun alert mem => ?_
    obtain ⟨terminal, here⟩ := mem_terminalAlerts.mp mem
    rw [isTerminal_touched now deals₁] at terminal
    have opened := hasOpen_iff.mpr ⟨_, (same _ _ _).symm.trans here⟩
    have asIs := settled alert.2
    unfold AlertDb.stalledAfter stalledNow at asIs
    rcases stalling_cases db alert.2 with
      ⟨row, going, -⟩ | ⟨d, row, -, going, -⟩ | ⟨d, row, status, -, -⟩
    · exact absurd terminal (Bool.eq_false_iff.mp going)
    · exact absurd terminal (Bool.eq_false_iff.mp going)
    · rw [row, opened] at asIs
      exact status (of_decide_eq_true asIs).1
  dsimp only
  rw [nothing]
  exact same i dealId type

end Pass

/-! ## No run opens a second alert -/

section Runs

variable {db : AlertDb}

theorem slippageVerdict_opens (now : Timestamp) (pickings : PickingReader) (graceDays : ℤ)
    (d : DealRow) (was : Bool) :
    (slippageVerdict now pickings graceDays d).opens was =
      (slippageOf now pickings graceDays d).isSome := by
  unfold slippageVerdict
  cases slippageOf now pickings graceDays d <;> rfl

theorem detectDeliverySlippages_eq (now : Timestamp) (pickings : PickingReader) (graceDays : ℤ)
    (db : AlertDb) :
    (detectDeliverySlippages now pickings db graceDays).1 =
      (db.dealsIn monitoredStatuses).foldl
        (detectBy now .deliverySlippage fun _ _ => slippageVerdict now pickings graceDays) db := by
  unfold detectDeliverySlippages
  rw [sweep_fst]
  simp only [detectDeliverySlippage_eq]

theorem oneOpen_detectDeliverySlippages (now : Timestamp) (pickings : PickingReader)
    (graceDays : ℤ) (one : db.OneOpen) :
    (detectDeliverySlippages now pickings db graceDays).1.OneOpen := by
  rw [detectDeliverySlippages_eq]
  exact oneOpen_pass _ _ now _ one

theorem oneOpen_detectDealDiscountAnomaly (now : Timestamp) (dealId : ℕ) (one : db.OneOpen) :
    (detectDealDiscountAnomaly now db dealId).1.OneOpen := by
  rw [detectDealDiscountAnomaly_eq]
  exact (detectBy_outcome _ _ now dealId one).1

/-- The database the anomalies are looked for in. -/
def AlertDb.beforeAnomalies (db : AlertDb) (now : Timestamp) (pickings : PickingReader) : AlertDb :=
  (detectDeliverySlippages now pickings (detectStalledDeals now db).1).1

theorem recomputeAllAlerts_eq (now : Timestamp) (pickings : PickingReader) (db : AlertDb) :
    (recomputeAllAlerts now pickings db).1 =
      ((db.beforeAnomalies now pickings).dealsIn anomalyStatuses).foldl
        (detectBy now .discountAnomaly fun deals snapshots d => anomalyVerdict deals snapshots d)
        (db.beforeAnomalies now pickings) := by
  unfold recomputeAllAlerts AlertDb.beforeAnomalies
  generalize detectStalledDeals now db = stalled
  obtain ⟨db₁, raised⟩ := stalled
  dsimp only
  generalize detectDeliverySlippages now pickings db₁ = slippage
  obtain ⟨db₂, late⟩ := slippage
  dsimp only
  rw [sweep_fst]
  simp only [detectDealDiscountAnomaly_eq]

theorem oneOpen_beforeAnomalies (now : Timestamp) (pickings : PickingReader) (one : db.OneOpen) :
    (db.beforeAnomalies now pickings).OneOpen :=
  oneOpen_detectDeliverySlippages now pickings 0 (detectStalledDeals_outcome now 7 one).1

theorem oneOpen_recomputeAllAlerts (now : Timestamp) (pickings : PickingReader)
    (one : db.OneOpen) : (recomputeAllAlerts now pickings db).1.OneOpen := by
  rw [recomputeAllAlerts_eq]
  exact oneOpen_pass _ _ now _ (oneOpen_beforeAnomalies now pickings one)

/-- What closes an alert leaves no more open than before. -/
theorem oneOpen_updateAlert_closed (one : db.OneOpen) (id : ℕ) {f : DealAlert → DealAlert}
    (closed : ∀ a, (f a).status ≠ .open) : (db.updateAlert id f).OneOpen := by
  refine oneOpen_of_fewer one fun i dealId type opened => ?_
  rw [openAt_updateAlert_closed db id closed] at opened
  exact (Bool.and_eq_true_iff.mp opened).2

theorem oneOpen_acknowledgeAlert (now : Timestamp) (alertId : ℕ) (userId : ℤ)
    (one : db.OneOpen) : ((acknowledgeAlert now alertId userId db).getD db).OneOpen := by
  unfold acknowledgeAlert
  split
  · exact one
  · exact oneOpen_updateAlert_closed one alertId fun _ => by simp

theorem oneOpen_resolveAlert (now : Timestamp) (alertId : ℕ) (userId : ℤ) (one : db.OneOpen) :
    ((resolveAlert now alertId userId db).getD db).OneOpen := by
  unfold resolveAlert
  split
  · exact one
  · have closed : (db.updateAlert alertId fun a =>
        { a with status := .resolved, resolvedAt := some now }).OneOpen :=
      oneOpen_updateAlert_closed one alertId fun _ => by simp
    exact closed

theorem oneOpen_step (op : AlertOp) (one : db.OneOpen) : (op.step db).OneOpen := by
  cases op with
  | detectStalled now stalledDays => exact (detectStalledDeals_outcome _ _ one).1
  | detectSlippages now pickings graceDays =>
      exact oneOpen_detectDeliverySlippages now pickings graceDays one
  | detectAnomaly now dealId => exact oneOpen_detectDealDiscountAnomaly now dealId one
  | recompute now pickings => exact oneOpen_recomputeAllAlerts now pickings one
  | acknowledge now alertId userId => exact oneOpen_acknowledgeAlert now alertId userId one
  | resolve now alertId userId => exact oneOpen_resolveAlert now alertId userId one
  | changeDeals deals snapshots => exact one

theorem oneOpen_run (ops : List AlertOp) (one : db.OneOpen) : (run AlertOp.step ops db).OneOpen :=
  (run_invariant AlertOp.step AlertDb.OneOpen one (fun _ op => oneOpen_step op) ops).2

end Runs

/-- Whatever has happened to the alerts, no deal has two stalled alerts open, and a pass leaves one
open on the deals that may stall and were without activity for as many days as it asks. -/
theorem stalledDetection_exact (deals : Table DealRow) (snapshots : Snapshots)
    (ops : List AlertOp) (now : Timestamp) (stalledDays : ℤ) :
    let db := run AlertOp.step ops { deals, snapshots }
    (∀ i j a b, db.alerts.row i = some a → db.alerts.row j = some b → a.dealId = b.dealId →
        a.type = .stalledDeal ∧ a.status = .open → b.type = .stalledDeal ∧ b.status = .open →
          i = j) ∧
      ∀ dealId d, db.deals.row dealId = some d →
        ((∃ id a, (detectStalledDeals now db stalledDays).1.alerts.row id = some a ∧
            a.dealId = dealId ∧ a.type = .stalledDeal ∧ a.status = .open) ↔
          (d.status = .draft ∨ d.status = .sent ∨ d.status = .underNegotiation) ∧
            quantize 2 (max 0 (((now - d.lastActivityAt : ℤ) : ℚ) / 86400)) ≥ stalledDays) := by
  intro db
  have one : db.OneOpen := oneOpen_run ops fun _ _ _ _ here _ => by cases here
  refine ⟨?_, fun dealId d row => ?_⟩
  · intro i j a b rowA rowB same openA openB
    refine one i j a.dealId .stalledDeal (openAt_iff.mpr ⟨a, rowA, ?_⟩)
      (openAt_iff.mpr ⟨b, rowB, ?_⟩)
    · exact DealAlert.isOpen_iff.mpr ⟨rfl, openA⟩
    · exact DealAlert.isOpen_iff.mpr ⟨same.symm, openB⟩
  · have opened := (detectStalledDeals_outcome now stalledDays one).2.1 dealId .stalledDeal
    have after : db.stalledAfter now stalledDays dealId = stalledNow now stalledDays d := by
      unfold AlertDb.stalledAfter
      rw [row]
    rw [if_pos rfl, after] at opened
    rw [← hasOpen_iff_row, opened, stalledNow, decide_eq_true_eq]
    exact and_congr_left fun _ => by simp [stallingStatuses]

end DealFlow
