import DealFlow.Fulfillment.PlanRuns

/-!
# The lifecycle of a plan

Over every run of operations on the plans of a deal (`planLifecycle_run`) one plan at most is
PROPOSED, the status of a plan only takes the moves of `PlanMoves`, the lines of an APPLIED or
SUPERSEDED plan stay, and the record of pickings holds one call for each APPLIED plan, made when it
became APPLIED.

An operation proposes a plan, moves one plan, or does nothing; `PlansSound` is carried through each.
-/

namespace DealFlow

open Lib

/-- The moves of a plan's status. -/
inductive PlanMoves : FulfillmentPlanStatus → FulfillmentPlanStatus → Prop
  | accept : PlanMoves .proposed .accepted
  | override : PlanMoves .proposed .overridden
  | supersede : PlanMoves .proposed .superseded
  | overrideAccepted : PlanMoves .accepted .overridden
  | applyAccepted : PlanMoves .accepted .applied
  | applyOverridden : PlanMoves .overridden .applied

/-- The call that carries out a plan. -/
def FulfillmentPlan.pickingCall (orderId : ℤ) (p : FulfillmentPlan) : PickingCall :=
  { orderId, allocations := p.allocPayload, pickingIds := p.odooPickingIds.getD [] }

def proposedPlans (plans : List FulfillmentPlan) : List FulfillmentPlan :=
  plans.filter fun p => p.status = .proposed

def appliedPlans (plans : List FulfillmentPlan) : List FulfillmentPlan :=
  plans.filter fun p => p.status = .applied

/-- What holds in every state: one proposal at most, and one picking call for each APPLIED plan. -/
structure PlansSound {σ : Type} (orderId : ℤ) (w : PickedWorld σ) : Prop where
  order : w.db.deal.odooSaleOrderId = orderId
  ids : (w.plans.map (·.id)).Nodup
  below : ∀ p ∈ w.plans, p.id < w.db.nextId
  single : (proposedPlans w.plans).length ≤ 1
  calls : w.odoo.2.Perm ((appliedPlans w.plans).map (·.pickingCall orderId))

/-- The plan is APPLIED after a step and was not before. -/
def BecomesApplied {σ : Type} (before after : PickedWorld σ) (planId : ℕ) : Prop :=
  (∀ p ∈ before.plans, p.id = planId → p.status ≠ .applied) ∧
    ∃ p ∈ after.plans, p.id = planId ∧ p.status = .applied

/-- Pickings are created with the step that makes their plan APPLIED. -/
inductive PickingsFollow {σ : Type} (orderId : ℤ) (before after : PickedWorld σ) : Prop
  | none (calls : after.odoo.2 = before.odoo.2)
      (applied : ∀ planId, ¬ BecomesApplied before after planId)
  | one (plan : FulfillmentPlan) (mem : plan ∈ after.plans)
      (calls : after.odoo.2 = before.odoo.2 ++ [plan.pickingCall orderId])
      (applied : ∀ planId, BecomesApplied before after planId ↔ planId = plan.id)

/-- What a step may do to the plans. -/
structure PlanStep {σ : Type} (orderId : ℤ) (before after : PickedWorld σ) : Prop where
  moves : ∀ p ∈ before.plans, ∃ p' ∈ after.plans, p'.id = p.id ∧
    (p'.status = p.status ∨ PlanMoves p.status p'.status) ∧
    (p.status = .applied ∨ p.status = .superseded → p'.lines = p.lines)
  created : ∀ p' ∈ after.plans, (∀ p ∈ before.plans, p.id ≠ p'.id) → p'.status = .proposed
  pickings : PickingsFollow orderId before after

section Step

variable {σ : Type} {orderId : ℤ} {w w' : PickedWorld σ}

theorem PlanMoves.source {s s' : FulfillmentPlanStatus} (moves : PlanMoves s s') :
    s ≠ .applied ∧ s ≠ .superseded := by
  cases moves <;> simp

theorem PlanMoves.target {s s' : FulfillmentPlanStatus} (moves : PlanMoves s s') :
    s' ≠ .proposed := by
  cases moves <;> simp

/-- Two plans of one id are the same. -/
theorem PlansSound.unique (sound : PlansSound orderId w) {p q : FulfillmentPlan}
    (memP : p ∈ w.plans) (memQ : q ∈ w.plans) (same : p.id = q.id) : p = q :=
  List.inj_on_of_nodup_map sound.ids memP memQ same

/-- A step that leaves plans and record alone. -/
theorem PlansSound.idle (sound : PlansSound orderId w)
    (order : w'.db.deal.odooSaleOrderId = w.db.deal.odooSaleOrderId) (plans : w'.plans = w.plans)
    (nextId : w'.db.nextId = w.db.nextId) (calls : w'.odoo.2 = w.odoo.2) :
    PlansSound orderId w' ∧ PlanStep orderId w w' := by
  refine ⟨⟨order.trans sound.order, ?_, ?_, ?_, ?_⟩, ⟨?_, ?_, .none calls ?_⟩⟩
  · rw [plans]
    exact sound.ids
  · rw [plans, nextId]
    exact sound.below
  · rw [plans]
    exact sound.single
  · rw [plans, calls]
    exact sound.calls
  · intro p mem
    rw [plans]
    exact ⟨p, mem, rfl, .inl rfl, fun _ => rfl⟩
  · intro p' mem new
    rw [plans] at mem
    exact absurd rfl (new p' mem)
  · rintro planId ⟨before, p, mem, named, status⟩
    rw [plans] at mem
    exact before p mem named status

/-! ## One plan moves -/

/-- The row an operation rewrites is the one it found. -/
theorem PlansSound.updatePlan_eq (sound : PlansSound orderId w) {planId : ℕ}
    {plan : FulfillmentPlan} (found : FoundPlan w planId plan) :
    ∃ earlier later, w.plans = earlier ++ plan :: later ∧
      ∀ f, updatePlan planId f w.plans = earlier ++ f plan :: later := by
  have named : plan.id = planId :=
    of_decide_eq_true (List.find?_some (p := fun p : FulfillmentPlan => p.id = planId) found)
  obtain ⟨earlier, later, split⟩ := List.append_of_mem (List.mem_of_find?_eq_some found)
  have ids := sound.ids
  rw [split, List.map_append, List.map_cons, List.nodup_middle, List.nodup_cons] at ids
  have others : ∀ p ∈ earlier ++ later, p.id ≠ planId := by
    intro p mem same
    refine ids.1 ?_
    rw [← List.map_append, named, ← same]
    exact List.mem_map_of_mem mem
  refine ⟨earlier, later, split, fun f => ?_⟩
  have kept : ∀ plans : List FulfillmentPlan, (∀ p ∈ plans, p.id ≠ planId) →
      updatePlan planId f plans = plans := by
    intro plans other
    exact (List.map_congr_left fun p mem => if_neg (other p mem)).trans (List.map_id' plans)
  rw [split]
  unfold updatePlan at kept ⊢
  rw [List.map_append, List.map_cons, if_pos named,
    kept earlier fun p mem => others p (List.mem_append_left _ mem),
    kept later fun p mem => others p (List.mem_append_right _ mem)]

/-- What becomes of the record when one plan moves. -/
inductive CallsFollow (orderId : ℤ) (plan' : FulfillmentPlan) (w w' : PickedWorld σ) : Prop
  | none (status : plan'.status ≠ .applied) (calls : w'.odoo.2 = w.odoo.2)
  | one (status : plan'.status = .applied)
      (calls : w'.odoo.2 = w.odoo.2 ++ [plan'.pickingCall orderId])

/-- A step moves one plan and leaves the others. -/
structure PlanMoved (orderId : ℤ) (earlier later : List FulfillmentPlan)
    (plan plan' : FulfillmentPlan) (w w' : PickedWorld σ) : Prop where
  order : w'.db.deal.odooSaleOrderId = w.db.deal.odooSaleOrderId
  before : w.plans = earlier ++ plan :: later
  after : w'.plans = earlier ++ plan' :: later
  named : plan'.id = plan.id
  moves : PlanMoves plan.status plan'.status
  nextId : w'.db.nextId = w.db.nextId
  calls : CallsFollow orderId plan' w w'

section Move

variable {earlier later : List FulfillmentPlan} {plan plan' : FulfillmentPlan}
  (moved : PlanMoved orderId earlier later plan plan' w w')

include moved

theorem PlanMoved.mem_before {p : FulfillmentPlan} :
    p ∈ w.plans ↔ p = plan ∨ p ∈ earlier ++ later := by
  rw [moved.before]
  exact List.perm_middle.mem_iff.trans List.mem_cons

theorem PlanMoved.mem_after {p : FulfillmentPlan} :
    p ∈ w'.plans ↔ p = plan' ∨ p ∈ earlier ++ later := by
  rw [moved.after]
  exact List.perm_middle.mem_iff.trans List.mem_cons

/-- Only the plan that moved can become APPLIED. -/
theorem PlanMoved.becomesApplied_iff (sound : PlansSound orderId w) {planId : ℕ} :
    BecomesApplied w w' planId ↔ planId = plan.id ∧ plan'.status = .applied := by
  constructor
  · rintro ⟨before, p, mem, rfl, status⟩
    rcases moved.mem_after.mp mem with rfl | mem
    · exact ⟨moved.named, status⟩
    · exact absurd status (before p (moved.mem_before.mpr (.inr mem)) rfl)
  · rintro ⟨rfl, status⟩
    refine ⟨fun p mem same => ?_, plan', moved.mem_after.mpr (.inl rfl), moved.named, status⟩
    rw [sound.unique mem (moved.mem_before.mpr (.inl rfl)) same]
    exact moved.moves.source.1

/-- The record is still that of the APPLIED plans. -/
theorem PlanMoved.perm_calls (sound : PlansSound orderId w) :
    w'.odoo.2.Perm ((appliedPlans w'.plans).map (·.pickingCall orderId)) := by
  have perm := sound.calls
  have before : appliedPlans w.plans = appliedPlans earlier ++ appliedPlans later := by
    rw [moved.before]
    unfold appliedPlans
    rw [List.filter_append, List.filter_cons_of_neg (by simpa using moved.moves.source.1)]
  rw [before] at perm
  rw [moved.after]
  unfold appliedPlans at perm ⊢
  cases moved.calls with
  | none status calls =>
      rw [calls, List.filter_append, List.filter_cons_of_neg (by simpa using status)]
      exact perm
  | one status calls =>
      rw [calls, List.filter_append, List.filter_cons_of_pos (by simpa using status),
        List.map_append, List.map_cons]
      rw [List.map_append] at perm
      exact (perm.append_right _).trans (List.perm_append_singleton _ _ |>.trans
        List.perm_middle.symm)

theorem PlanMoved.sound (sound : PlansSound orderId w) : PlansSound orderId w' := by
  refine ⟨moved.order.trans sound.order, ?_, ?_, ?_, moved.perm_calls sound⟩
  · have ids := sound.ids
    rw [moved.before, List.map_append, List.map_cons, ← moved.named] at ids
    rw [moved.after, List.map_append, List.map_cons]
    exact ids
  · intro p mem
    rw [moved.nextId]
    rcases moved.mem_after.mp mem with rfl | mem
    · rw [moved.named]
      exact sound.below plan (moved.mem_before.mpr (.inl rfl))
    · exact sound.below p (moved.mem_before.mpr (.inr mem))
  · have single := sound.single
    unfold proposedPlans at single ⊢
    rw [moved.after, List.filter_append,
      List.filter_cons_of_neg (by simpa using moved.moves.target), ← List.filter_append]
    rw [moved.before] at single
    refine le_trans (List.Sublist.length_le (List.Sublist.filter _ ?_)) single
    exact List.Sublist.append_left (List.sublist_cons_self plan later) earlier

theorem PlanMoved.step (sound : PlansSound orderId w) : PlanStep orderId w w' := by
  obtain ⟨unapplied, unsuperseded⟩ := moved.moves.source
  refine ⟨?_, ?_, ?_⟩
  · intro p mem
    rcases moved.mem_before.mp mem with rfl | mem
    · refine ⟨plan', moved.mem_after.mpr (.inl rfl), moved.named, .inr moved.moves, ?_⟩
      rintro (applied | superseded)
      · exact absurd applied unapplied
      · exact absurd superseded unsuperseded
    · exact ⟨p, moved.mem_after.mpr (.inr mem), rfl, .inl rfl, fun _ => rfl⟩
  · intro p' mem new
    rcases moved.mem_after.mp mem with rfl | mem
    · exact absurd moved.named.symm (new plan (moved.mem_before.mpr (.inl rfl)))
    · exact absurd rfl (new p' (moved.mem_before.mpr (.inr mem)))
  · cases moved.calls with
    | none status calls =>
        exact .none calls fun planId applied =>
          status ((moved.becomesApplied_iff sound).mp applied).2
    | one status calls =>
        refine .one plan' (moved.mem_after.mpr (.inl rfl)) calls fun planId => ?_
        rw [moved.becomesApplied_iff sound, moved.named]
        exact and_iff_left status

end Move

/-- A step that moves one plan. -/
theorem PlansSound.move (sound : PlansSound orderId w) {earlier later : List FulfillmentPlan}
    {plan plan' : FulfillmentPlan}
    (order : w'.db.deal.odooSaleOrderId = w.db.deal.odooSaleOrderId)
    (plans : w.plans = earlier ++ plan :: later) (plans' : w'.plans = earlier ++ plan' :: later)
    (named : plan'.id = plan.id) (moves : PlanMoves plan.status plan'.status)
    (nextId : w'.db.nextId = w.db.nextId) (calls : CallsFollow orderId plan' w w') :
    PlansSound orderId w' ∧ PlanStep orderId w w' := by
  have moved : PlanMoved orderId earlier later plan plan' w w' :=
    ⟨order, plans, plans', named, moves, nextId, calls⟩
  exact ⟨moved.sound sound, moved.step sound⟩

/-! ## A new proposal -/

@[simp] theorem supersedeProposed_id (p : FulfillmentPlan) : (supersedeProposed p).id = p.id := by
  unfold supersedeProposed
  split
  · rfl
  · rfl

@[simp] theorem supersedeProposed_lines (p : FulfillmentPlan) :
    (supersedeProposed p).lines = p.lines := by
  unfold supersedeProposed
  split
  · rfl
  · rfl

theorem supersedeProposed_status (p : FulfillmentPlan) :
    (supersedeProposed p).status = p.status ∧ p.status ≠ .proposed ∨
      (supersedeProposed p).status = .superseded ∧ p.status = .proposed := by
  unfold supersedeProposed
  split
  · rename_i status
    exact .inr ⟨rfl, status⟩
  · rename_i status
    exact .inl ⟨rfl, status⟩

theorem proposedPlans_superseded (plans : List FulfillmentPlan) :
    proposedPlans (plans.map supersedeProposed) = [] := by
  unfold proposedPlans
  rw [List.filter_eq_nil_iff]
  intro p mem
  obtain ⟨q, -, rfl⟩ := List.mem_map.mp mem
  rcases supersedeProposed_status q with ⟨same, status⟩ | ⟨moved, -⟩
  · rw [same]
    simpa using status
  · rw [moved]
    simp

theorem appliedPlans_superseded (plans : List FulfillmentPlan) :
    appliedPlans (plans.map supersedeProposed) = appliedPlans plans := by
  unfold appliedPlans
  induction plans with
  | nil => rfl
  | cons p plans ih =>
      rw [List.map_cons]
      by_cases status : p.status = .proposed
      · rw [List.filter_cons_of_neg (by simp [supersedeProposed, status]),
          List.filter_cons_of_neg (by simp [status]), ih]
      · have same : supersedeProposed p = p := if_neg status
        rw [same, List.filter_cons, List.filter_cons, ih]

/-- A step that proposes a plan. -/
theorem PlansSound.propose (sound : PlansSound orderId w) {plan : FulfillmentPlan}
    (order : w'.db.deal.odooSaleOrderId = w.db.deal.odooSaleOrderId)
    (named : plan.id = w.db.nextId) (status : plan.status = .proposed)
    (plans : w'.plans = w.plans.map supersedeProposed ++ [plan])
    (nextId : w'.db.nextId = w.db.nextId + 1) (calls : w'.odoo.2 = w.odoo.2) :
    PlansSound orderId w' ∧ PlanStep orderId w w' := by
  have mem' : ∀ p, p ∈ w'.plans ↔ (∃ q ∈ w.plans, supersedeProposed q = p) ∨ p = plan := by
    intro p
    rw [plans, List.mem_append, List.mem_map, List.mem_singleton]
  have applied : appliedPlans w'.plans = appliedPlans w.plans := by
    rw [plans, ← appliedPlans_superseded w.plans]
    unfold appliedPlans
    rw [List.filter_append, List.filter_cons_of_neg (by simp [status]), List.filter_nil,
      List.append_nil]
  refine ⟨⟨order.trans sound.order, ?_, ?_, ?_, ?_⟩, ⟨?_, ?_, .none calls ?_⟩⟩
  · have same : (w.plans.map supersedeProposed).map (·.id) = w.plans.map (·.id) := by
      rw [List.map_map]
      exact List.map_congr_left fun p _ => supersedeProposed_id p
    rw [plans, List.map_append, same, List.map_singleton, List.nodup_append]
    refine ⟨sound.ids, List.nodup_singleton _, ?_⟩
    intro old memOld new memNew
    obtain ⟨p, mem, rfl⟩ := List.mem_map.mp memOld
    have older := sound.below p mem
    rw [List.mem_singleton.mp memNew, named]
    exact older.ne
  · intro p mem
    rw [nextId]
    rcases (mem' p).mp mem with ⟨q, memQ, rfl⟩ | rfl
    · have older := sound.below q memQ
      rw [supersedeProposed_id]
      omega
    · omega
  · have none := proposedPlans_superseded w.plans
    unfold proposedPlans at none ⊢
    rw [plans, List.filter_append, none, List.nil_append]
    exact List.length_filter_le _ _
  · rw [calls, applied]
    exact sound.calls
  · intro p mem
    refine ⟨supersedeProposed p, (mem' _).mpr (.inl ⟨p, mem, rfl⟩), supersedeProposed_id p, ?_,
      fun _ => supersedeProposed_lines p⟩
    rcases supersedeProposed_status p with ⟨same, -⟩ | ⟨moved, proposed⟩
    · exact .inl same
    · rw [moved, proposed]
      exact .inr .supersede
  · intro p' mem new
    rcases (mem' p').mp mem with ⟨q, memQ, rfl⟩ | rfl
    · exact absurd (supersedeProposed_id q).symm (new q memQ)
    · exact status
  · rintro planId ⟨before, p, mem, rfl, isApplied⟩
    have memApplied : p ∈ appliedPlans w'.plans :=
      List.mem_filter.mpr ⟨mem, by simpa using isApplied⟩
    rw [applied] at memApplied
    exact before p (List.mem_of_mem_filter memApplied) rfl isApplied

/-! ## Every operation -/

theorem plansSound_step (gateway : WarehouseGateway σ) (op : FulfillmentOp)
    (sound : PlansSound orderId w) :
    PlansSound orderId (op.step (recordingPickings gateway) w) ∧
      PlanStep orderId w (op.step (recordingPickings gateway) w) := by
  have kept : KeptByPlanCalls (recordingPickings gateway) fun _ => () :=
    ⟨fun _ _ => rfl, fun _ _ => rfl, fun _ => rfl, fun _ _ _ => rfl, fun _ _ _ => rfl⟩
  have order := (op.step_kept kept w).1
  cases op.planChange gateway w with
  | nothing plans nextId calls => exact sound.idle order plans nextId calls
  | proposed strategy now saleOrder products infos availability read plans nextId calls =>
      exact sound.propose order rfl rfl plans nextId calls
  | accepted planId actor now plan found status plans nextId calls =>
      obtain ⟨earlier, later, split, updated⟩ := sound.updatePlan_eq found
      refine sound.move order split (plans.trans (updated _)) rfl ?_ nextId
        (.none (by simp [acceptedPlan]) calls)
      rw [status]
      exact .accept
  | overridden planId allocations actor reason now plan saleOrder profiles lines called read found
      status taken plans nextId calls =>
      obtain ⟨earlier, later, split, updated⟩ := sound.updatePlan_eq found
      refine sound.move order split (plans.trans (updated _)) rfl ?_ nextId
        (.none (by simp [overriddenPlan]) calls)
      simp only [List.mem_cons, List.not_mem_nil, or_false] at status
      rcases status with status | status
      · rw [status]
        exact .override
      · rw [status]
        exact .overrideAccepted
  | applied planId actor now plan pickingIds called guarded answered plans nextId calls =>
      obtain ⟨found, status⟩ := guardPlan_ok guarded
      obtain ⟨earlier, later, split, updated⟩ := sound.updatePlan_eq found
      rw [sound.order] at calls
      refine sound.move order split (plans.trans (updated _)) rfl ?_ nextId (.one rfl calls)
      simp only [List.mem_cons, List.not_mem_nil, or_false] at status
      rcases status with status | status
      · rw [status]
        exact .applyAccepted
      · rw [status]
        exact .applyOverridden

/-- A deal without plans, of whose order nothing is picked. -/
theorem plansSound_start (unplanned : w.plans = []) (unpicked : w.odoo.2 = []) :
    PlansSound w.db.deal.odooSaleOrderId w := by
  refine ⟨rfl, ?_, ?_, ?_, ?_⟩
  · rw [unplanned]
    exact List.nodup_nil
  · simp [unplanned]
  · simp [unplanned, proposedPlans]
  · rw [unplanned, unpicked]
    exact List.Perm.refl _

end Step

/-- The lifecycle along every run. -/
theorem planLifecycle_run {σ : Type} (gateway : WarehouseGateway σ) (ops : List FulfillmentOp)
    (start : PickedWorld σ) (unplanned : start.plans = []) (unpicked : start.odoo.2 = []) :
    (∀ t ∈ history (FulfillmentOp.step (recordingPickings gateway)) ops start,
        PlansSound start.db.deal.odooSaleOrderId t.1 ∧
          PlanStep start.db.deal.odooSaleOrderId t.1
            (t.2.step (recordingPickings gateway) t.1)) ∧
      PlansSound start.db.deal.odooSaleOrderId
        (run (FulfillmentOp.step (recordingPickings gateway)) ops start) := by
  obtain ⟨before, last⟩ := run_invariant (FulfillmentOp.step (recordingPickings gateway))
    (PlansSound start.db.deal.odooSaleOrderId) (plansSound_start unplanned unpicked)
    (fun now op sound => (plansSound_step gateway op sound).1) ops
  exact ⟨fun t mem => ⟨before t mem, (plansSound_step gateway t.2 (before t mem)).2⟩, last⟩

/-- Five desks on a confirmed order, with twenty in stock. -/
def deskBooks : FakeBooks :=
  { products := AList.insert 103
      { name := "Desk", categoryId := 1, type := "STOCKABLE", standardPrice := 70
        listPrice := 100 } ∅
    stock := AList.insert 103 (AList.insert 1 20 ∅) ∅
    orders := AList.insert 101
      { header :=
          { id := 101, name := "SO00101", partnerId := 1, partnerName := "Acme Corp"
            state := "sale", currency := "INR", userId := 4, teamId := some 1, companyId := 1 }
        lines :=
          [{ id := 1001, productId := 103, qty := 5, priceUnit := 100, discountPct := 0
             taxRatePct := 18 }] } ∅ }

/-- Their deal, with no plan yet. -/
def deskWorld : PickedWorld FakeBooks :=
  { db :=
      { deal :=
          { id := 1, reference := "DF-00001", odooSaleOrderId := 101, odooOrderName := "SO00101"
            odooPartnerId := 1, partnerNameCache := "Acme Corp", ownerOdooUserId := 4
            status := .confirmed }
        nextId := 2 }
    odoo := (deskBooks, []) }

def warehouseRep : DealflowUser := { odooUserId := 5, role := .salesRep }

/-- A plan is proposed, accepted and applied. -/
def shipDesks : List FulfillmentOp :=
  [.propose none 1, .accept 2 warehouseRep 2, .apply 2 warehouseRep 3]

theorem shipDesks_lifecycle :
    PlansSound 101
        (run (FulfillmentOp.step (recordingPickings fakeWarehouseGateway)) shipDesks deskWorld) ∧
      (run (FulfillmentOp.step (recordingPickings fakeWarehouseGateway)) shipDesks
        deskWorld).odoo.2 =
        [{ orderId := 101
           allocations := [{ lineId := 1001, productId := 103, warehouseId := 1, qty := 5 }]
           pickingIds := [1] }] :=
  ⟨(planLifecycle_run fakeWarehouseGateway shipDesks deskWorld rfl rfl).2, by decide +kernel⟩

end DealFlow
