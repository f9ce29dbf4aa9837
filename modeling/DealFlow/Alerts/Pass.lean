import DealFlow.Alerts.Settle

/-!
# One pass of a detector

All detectors go over a list of deals and settle a verdict on each.  A verdict may look at the rows
of all deals, and a pass changes the activity of the deals it writes events about, so what becomes
of a deal could depend on when the pass gets to it; `SteadyAt` says that it does not.  Such a deal
is left as the verdict says that falls on it before the pass (`pass_outcome`), and a deal that is
not on the list as it was (`pass_frame`).  Any other is left as the verdict says that falls on it
once the deals before it have been marked (`pass_visit`, `pass_marks`).
-/

namespace DealFlow

open Lib

/-- A verdict on a deal, by the rows of all deals. -/
abbrev Detector := Table DealRow → Snapshots → DealRow → AlertVerdict

/-- The verdict of a detector on a deal carried out. -/
def detectBy (now : Timestamp) (type : AlertType) (verdict : Detector) (db : AlertDb)
    (dealId : ℕ) : AlertDb :=
  match db.deals.row dealId with
  | none => db
  | some d => (db.settle now dealId type (verdict db.deals db.snapshots d)).1

theorem sweep_fst {α : Type} (detect : AlertDb → ℕ → AlertDb × Option α) (dealIds : List ℕ)
    (db : AlertDb) :
    (sweep detect dealIds db).1 = dealIds.foldl (fun db dealId => (detect db dealId).1) db := by
  induction dealIds generalizing db with
  | nil => rfl
  | cons dealId dealIds ih => exact ih (detect db dealId).1

theorem detectStalledDeal_eq (now : Timestamp) (stalledDays : ℤ) (db : AlertDb) (dealId : ℕ) :
    (detectStalledDeal now stalledDays db dealId).1 =
      detectBy now .stalledDeal (fun _ _ => stalledVerdict now stalledDays) db dealId := by
  unfold detectStalledDeal detectBy
  cases db.deals.row dealId <;> rfl

theorem detectDeliverySlippage_eq (now : Timestamp) (pickings : PickingReader) (graceDays : ℤ)
    (db : AlertDb) (dealId : ℕ) :
    (detectDeliverySlippage now pickings graceDays db dealId).1 =
      detectBy now .deliverySlippage (fun _ _ => slippageVerdict now pickings graceDays) db
        dealId := by
  unfold detectDeliverySlippage detectBy
  cases db.deals.row dealId <;> rfl

theorem detectDealDiscountAnomaly_eq (now : Timestamp) (db : AlertDb) (dealId : ℕ) :
    (detectDealDiscountAnomaly now db dealId).1 =
      detectBy now .discountAnomaly (fun deals snapshots d => anomalyVerdict deals snapshots d) db
        dealId := by
  unfold detectDealDiscountAnomaly detectBy
  cases db.deals.row dealId <;> rfl

/-! ## What a pass would do to a deal -/

section Pass

variable (verdict : Detector) (type : AlertType) (now : Timestamp)

/-- Whether the verdict leaves an alert open on a deal. -/
def AlertDb.opensOn (db : AlertDb) (dealId : ℕ) : Bool :=
  match db.deals.row dealId with
  | none => db.hasOpen dealId type
  | some d => (verdict db.deals db.snapshots d).opens (db.hasOpen dealId type)

/-- Whether the verdict on a deal writes an event. -/
def AlertDb.writesOn (db : AlertDb) (dealId : ℕ) : Bool :=
  match db.deals.row dealId with
  | none => false
  | some d => (verdict db.deals db.snapshots d).writes (db.hasOpen dealId type)

/-- The verdict on a deal stays as it is when other deals are marked as active. -/
def SteadyAt (deals : Table DealRow) (snapshots : Snapshots) (dealId : ℕ) : Prop :=
  ∀ touched : List ℕ, dealId ∉ touched → ∀ d, deals.row dealId = some d →
    (verdict (deals.modify touched (DealRow.touch now)) snapshots d).effect =
      (verdict deals snapshots d).effect

/-- A verdict that looks at its own deal only is steady. -/
theorem steadyAt_own (verdict : DealRow → AlertVerdict) (deals : Table DealRow)
    (snapshots : Snapshots) (dealId : ℕ) :
    SteadyAt (fun _ _ => verdict) now deals snapshots dealId :=
  fun _ _ _ _ => rfl

variable {db : AlertDb} {dealIds : List ℕ}

theorem opensOn_eq {dealId : ℕ} {d : DealRow} (row : db.deals.row dealId = some d) :
    db.opensOn verdict type dealId =
      (verdict db.deals db.snapshots d).opens (db.hasOpen dealId type) := by
  unfold AlertDb.opensOn
  rw [row]

theorem writesOn_iff {dealId : ℕ} {d : DealRow} (row : db.deals.row dealId = some d) :
    db.writesOn verdict type dealId = true ↔
      (verdict db.deals db.snapshots d).opens (db.hasOpen dealId type) ≠
        db.hasOpen dealId type := by
  unfold AlertDb.writesOn
  rw [row]
  exact AlertVerdict.writes_iff ..

/-- One deal of a pass. -/
theorem detectBy_outcome (dealId : ℕ) (one : db.OneOpen) :
    (detectBy now type verdict db dealId).OneOpen ∧
      (∀ dealId' type', (detectBy now type verdict db dealId).hasOpen dealId' type' =
        if dealId' = dealId ∧ type' = type then db.opensOn verdict type dealId
        else db.hasOpen dealId' type') ∧
      (detectBy now type verdict db dealId).deals = db.deals.modify
        (if db.writesOn verdict type dealId = true then [dealId] else []) (DealRow.touch now) ∧
      (detectBy now type verdict db dealId).snapshots = db.snapshots := by
  unfold detectBy AlertDb.opensOn AlertDb.writesOn
  cases row : db.deals.row dealId with
  | none =>
      refine ⟨one, fun dealId' type' => ?_, (Table.modify_nil _ _).symm, rfl⟩
      dsimp only
      split
      · next key => rw [key.1, key.2]
      · rfl
  | some d =>
      have h : Settles db now dealId type (verdict db.deals db.snapshots d) _ := settles
      exact ⟨h.oneOpen one, h.hasOpen one, h.deals, h.snapshots⟩

/-- One deal of a pass marks no deal but that. -/
theorem detectBy_touches (dealId : ℕ) (one : db.OneOpen) :
    ∃ touched : List ℕ, (∀ id ∈ touched, id = dealId) ∧
      (detectBy now type verdict db dealId).deals =
        db.deals.modify touched (DealRow.touch now) := by
  obtain ⟨-, -, deals, -⟩ := detectBy_outcome verdict type now dealId one
  refine ⟨_, fun id mem => ?_, deals⟩
  split at mem
  · exact List.mem_singleton.mp mem
  · exact absurd mem List.not_mem_nil

/-- A deal that is not the first of a pass is looked at as if the first had not been. -/
theorem detectBy_other (one : db.OneOpen) {dealId other : ℕ} (ne : other ≠ dealId) :
    (detectBy now type verdict db dealId).deals.row other = db.deals.row other ∧
      ∀ type', (detectBy now type verdict db dealId).hasOpen other type' =
        db.hasOpen other type' := by
  obtain ⟨-, opened, -, -⟩ := detectBy_outcome verdict type now dealId one
  obtain ⟨touched, only, deals⟩ := detectBy_touches verdict type now dealId one
  refine ⟨?_, fun type' => by rw [opened, if_neg fun key => ne key.1]⟩
  rw [deals, Table.row_modify, if_neg fun mem => ne (only other mem)]

/-- A steady deal that is not the first stays steady, under the same verdict. -/
theorem steadyAt_detectBy (one : db.OneOpen) {dealId other : ℕ} (ne : other ≠ dealId)
    (steady : SteadyAt verdict now db.deals db.snapshots other) :
    (detectBy now type verdict db dealId).opensOn verdict type other =
        db.opensOn verdict type other ∧
      (detectBy now type verdict db dealId).writesOn verdict type other =
        db.writesOn verdict type other ∧
      SteadyAt verdict now (detectBy now type verdict db dealId).deals
        (detectBy now type verdict db dealId).snapshots other := by
  obtain ⟨-, -, -, snapshots⟩ := detectBy_outcome verdict type now dealId one
  obtain ⟨first, only, deals⟩ := detectBy_touches verdict type now dealId one
  obtain ⟨row, opened⟩ := detectBy_other verdict type now one ne
  have apart : other ∉ first := fun mem => ne (only other mem)
  refine ⟨?_, ?_, fun touched away d here => ?_⟩
  · unfold AlertDb.opensOn
    rw [row, opened, deals, snapshots]
    cases here : db.deals.row other with
    | none => rfl
    | some d => exact congrArg (Option.getD · _) (steady first apart d here)
  · unfold AlertDb.writesOn
    rw [row, opened, deals, snapshots]
    cases here : db.deals.row other with
    | none => rfl
    | some d =>
        unfold AlertVerdict.writes AlertVerdict.opens
        dsimp only
        rw [steady first apart d here]
  · rw [row] at here
    rw [deals, snapshots, Table.modify_modify (DealRow.touch_touch now), steady first apart d here]
    refine steady _ ?_ d here
    rw [List.mem_append, not_or]
    exact ⟨apart, away⟩

/-! ## The whole list -/

theorem oneOpen_pass (dealIds : List ℕ) (one : db.OneOpen) :
    (dealIds.foldl (detectBy now type verdict) db).OneOpen := by
  induction dealIds generalizing db with
  | nil => exact one
  | cons dealId dealIds ih => exact ih (detectBy_outcome verdict type now dealId one).1

/-- A pass leaves alone the deals that are not on its list and the alerts of other types, and marks
no deal but those of its list. -/
theorem pass_frame (dealIds : List ℕ) (one : db.OneOpen) :
    (∀ dealId type', dealId ∉ dealIds ∨ type' ≠ type →
        (dealIds.foldl (detectBy now type verdict) db).hasOpen dealId type' =
          db.hasOpen dealId type') ∧
      (∃ touched : List ℕ, (∀ id ∈ touched, id ∈ dealIds) ∧
        (dealIds.foldl (detectBy now type verdict) db).deals =
          db.deals.modify touched (DealRow.touch now)) ∧
      (dealIds.foldl (detectBy now type verdict) db).snapshots = db.snapshots := by
  induction dealIds generalizing db with
  | nil => exact ⟨fun _ _ _ => rfl, ⟨[], nofun, (Table.modify_nil _ _).symm⟩, rfl⟩
  | cons first dealIds ih =>
      obtain ⟨one₁, opened, -, snapshots⟩ := detectBy_outcome verdict type now first one
      obtain ⟨touched₁, only, deals⟩ := detectBy_touches verdict type now first one
      obtain ⟨openedRest, ⟨touched, within, dealsRest⟩, snapshotsRest⟩ := ih one₁
      refine ⟨fun dealId type' other => ?_, ⟨touched₁ ++ touched, ?_, ?_⟩,
        snapshotsRest.trans snapshots⟩
      · rw [List.foldl_cons, openedRest dealId type' (other.imp_left (mt (List.mem_cons_of_mem _))),
          opened, if_neg]
        rintro ⟨rfl, rfl⟩
        exact other.elim (fun left => left List.mem_cons_self) fun ne => ne rfl
      · refine List.forall_mem_append.mpr ⟨fun id mem => ?_, fun id mem => ?_⟩
        · exact only id mem ▸ List.mem_cons_self
        · exact List.mem_cons_of_mem _ (within id mem)
      · rw [List.foldl_cons, dealsRest, deals, Table.modify_modify (DealRow.touch_touch now)]

theorem pass_row {dealId : ℕ} (left : dealId ∉ dealIds) (one : db.OneOpen) :
    (dealIds.foldl (detectBy now type verdict) db).deals.row dealId = db.deals.row dealId := by
  obtain ⟨-, ⟨touched, within, deals⟩, -⟩ := pass_frame verdict type now dealIds one
  rw [deals, Table.row_modify, if_neg fun mem => left (within dealId mem)]

/-- What a pass makes of a steady deal on its list. -/
theorem pass_outcome {dealId : ℕ} (mem : dealId ∈ dealIds) (nodup : dealIds.Nodup)
    (one : db.OneOpen) (steady : SteadyAt verdict now db.deals db.snapshots dealId) :
    (dealIds.foldl (detectBy now type verdict) db).hasOpen dealId type =
        db.opensOn verdict type dealId ∧
      (dealIds.foldl (detectBy now type verdict) db).deals.row dealId =
        if db.writesOn verdict type dealId = true then
          (db.deals.row dealId).map (DealRow.touch now)
        else db.deals.row dealId := by
  induction dealIds generalizing db with
  | nil => exact absurd mem List.not_mem_nil
  | cons first dealIds ih =>
      obtain ⟨fresh, nodup⟩ := List.nodup_cons.mp nodup
      obtain ⟨one₁, opened, deals, -⟩ := detectBy_outcome verdict type now first one
      rw [List.foldl_cons]
      by_cases here : dealId = first
      · subst here
        rw [(pass_frame verdict type now dealIds one₁).1 dealId type (Or.inl fresh), opened,
          if_pos ⟨rfl, rfl⟩, pass_row verdict type now fresh one₁, deals, Table.row_modify]
        refine ⟨rfl, ?_⟩
        cases db.writesOn verdict type dealId <;> simp
      · obtain ⟨opens, writes, steady₁⟩ := steadyAt_detectBy verdict type now one here steady
        have later := (List.mem_cons.mp mem).resolve_left here
        obtain ⟨openedRest, rowRest⟩ := ih later nodup one₁ steady₁
        rw [openedRest, opens, rowRest, writes, (detectBy_other verdict type now one here).1]
        exact ⟨rfl, rfl⟩

/-- A pass that would write no event opens and closes nothing. -/
theorem pass_quiet (nodup : dealIds.Nodup) (one : db.OneOpen)
    (steady : ∀ dealId ∈ dealIds, SteadyAt verdict now db.deals db.snapshots dealId)
    (quiet : ∀ dealId ∈ dealIds, db.writesOn verdict type dealId = false)
    (i dealId' : ℕ) (type' : AlertType) :
    (dealIds.foldl (detectBy now type verdict) db).openAt i dealId' type' =
      db.openAt i dealId' type' := by
  induction dealIds generalizing db with
  | nil => rfl
  | cons dealId dealIds ih =>
      obtain ⟨fresh, nodup⟩ := List.nodup_cons.mp nodup
      obtain ⟨first, rest⟩ := List.forall_mem_cons.mp quiet
      have later := fun other (mem : other ∈ dealIds) =>
        steadyAt_detectBy verdict type now one (fun eq : other = dealId => fresh (eq ▸ mem))
          (steady other (List.mem_cons_of_mem _ mem))
      have here : (detectBy now type verdict db dealId).openAt i dealId' type' =
          db.openAt i dealId' type' := by
        unfold AlertDb.writesOn at first
        unfold detectBy
        cases row : db.deals.row dealId with
        | none => rfl
        | some d =>
            rw [row] at first
            exact settles.openAt first i dealId' type'
      refine (ih nodup (detectBy_outcome verdict type now dealId one).1
        (fun other mem => (later other mem).2.2) fun other mem => ?_).trans here
      rw [(later other mem).2.1]
      exact rest other mem

/-! ## Where a verdict turns on what the pass writes -/

/-- The database with some deals marked as active. -/
def AlertDb.marked (db : AlertDb) (touched : List ℕ) : AlertDb :=
  { db with deals := db.deals.modify touched (DealRow.touch now) }

/-- The deals a pass marks as active, after some it has marked already: those on which the verdict
that falls when the pass gets to them writes an event. -/
def AlertDb.marks (db : AlertDb) : List ℕ → List ℕ → List ℕ
  | touched, [] => touched
  | touched, dealId :: dealIds =>
      db.marks
        (if (db.marked now touched).writesOn verdict type dealId = true then touched ++ [dealId]
          else touched) dealIds

/-- A deal is looked at by the rows and by what is open on it. -/
theorem lookedAt_congr {db db' : AlertDb} (deals : db'.deals = db.deals)
    (snapshots : db'.snapshots = db.snapshots) {dealId : ℕ}
    (opened : db'.hasOpen dealId type = db.hasOpen dealId type) :
    db'.opensOn verdict type dealId = db.opensOn verdict type dealId ∧
      db'.writesOn verdict type dealId = db.writesOn verdict type dealId := by
  unfold AlertDb.opensOn AlertDb.writesOn
  rw [deals, snapshots, opened]
  exact ⟨rfl, rfl⟩

theorem pass_marks {db' : AlertDb} (one : db'.OneOpen) (nodup : dealIds.Nodup) {touched : List ℕ}
    (deals : db'.deals = (db.marked now touched).deals) (snapshots : db'.snapshots = db.snapshots)
    (opened : ∀ dealId ∈ dealIds, db'.hasOpen dealId type = db.hasOpen dealId type) :
    (dealIds.foldl (detectBy now type verdict) db').deals =
      (db.marked now (db.marks verdict type now touched dealIds)).deals := by
  induction dealIds generalizing db' touched with
  | nil => exact deals
  | cons dealId dealIds ih =>
      obtain ⟨fresh, nodup⟩ := List.nodup_cons.mp nodup
      obtain ⟨here, later⟩ := List.forall_mem_cons.mp opened
      obtain ⟨one₁, opened₁, deals₁, snapshots₁⟩ := detectBy_outcome verdict type now dealId one
      have writes : db'.writesOn verdict type dealId =
          (db.marked now touched).writesOn verdict type dealId :=
        (lookedAt_congr verdict type deals snapshots here).2
      rw [List.foldl_cons, AlertDb.marks]
      refine ih one₁ nodup ?_ (snapshots₁.trans snapshots) fun other mem => ?_
      · rw [deals₁, deals, writes]
        unfold AlertDb.marked
        dsimp only
        split
        · exact Table.modify_modify (DealRow.touch_touch now) _ _ _
        · exact Table.modify_nil _ _
      · have ne : ¬(other = dealId ∧ type = type) := fun key => fresh (key.1 ▸ mem)
        rw [opened₁, if_neg ne]
        exact later other mem

/-- A pass leaves its marks on the deals, and nothing else. -/
theorem pass_marks_self (one : db.OneOpen) (nodup : dealIds.Nodup) :
    (dealIds.foldl (detectBy now type verdict) db).deals =
      (db.marked now (db.marks verdict type now [] dealIds)).deals :=
  pass_marks verdict type now one nodup (Table.modify_nil _ _).symm rfl fun _ _ => rfl

/-- What a pass makes of a deal is up to the verdict that falls when it gets to the deal. -/
theorem pass_visit (one : db.OneOpen) {before after : List ℕ} {dealId : ℕ}
    (nodup : (before ++ dealId :: after).Nodup) :
    ((before ++ dealId :: after).foldl (detectBy now type verdict) db).hasOpen dealId type =
      (db.marked now (db.marks verdict type now [] before)).opensOn verdict type dealId := by
  obtain ⟨nodupBefore, nodupFrom, apart⟩ := List.nodup_append.mp nodup
  have left : dealId ∉ before := fun mem => apart dealId mem dealId List.mem_cons_self rfl
  obtain ⟨frame, -, snapshots⟩ := pass_frame verdict type now before one
  have reached := pass_marks_self verdict type now one nodupBefore
  have one₁ := oneOpen_pass verdict type now before one
  obtain ⟨one₂, opened, -, -⟩ := detectBy_outcome verdict type now dealId one₁
  rw [List.foldl_append, List.foldl_cons,
    (pass_frame verdict type now after one₂).1 dealId type
      (Or.inl (List.nodup_cons.mp nodupFrom).1), opened, if_pos ⟨rfl, rfl⟩]
  exact (lookedAt_congr verdict type reached snapshots (frame dealId type (Or.inl left))).1

end Pass

end DealFlow
