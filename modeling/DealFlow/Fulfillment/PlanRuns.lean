import DealFlow.Lib.Fallible
import DealFlow.Lib.Run
import DealFlow.Services.FulfillmentService

/-!
# Runs of operations on plans

`FulfillmentOp` is a call of one of the five operations on the plans of a deal.  They act on a
gateway that also keeps a record of the pickings it created (`recordingPickings`): a call that
raises has created none.

`PlanChange` says everything an operation may do to the plans and the record
(`FulfillmentOp.planChange`): nothing, one new proposal, or one plan accepted, overridden or
applied.
-/

namespace DealFlow

open Lib

/-- The pickings created by one call. -/
structure PickingCall where
  orderId : ℤ
  allocations : List AllocationPayload
  pickingIds : List ℤ
  deriving DecidableEq, Repr

/-- A call on the first of two components. -/
def onFirst {σ τ α : Type} (call : OdooCall σ α) : OdooCall (σ × τ) α := fun s =>
  ((call s.1).1, (call s.1).2, s.2)

/-- The gateway with a record of the pickings it created. -/
def recordingPickings {σ : Type} (gateway : WarehouseGateway σ) :
    WarehouseGateway (σ × List PickingCall) where
  getSaleOrder orderId := onFirst (gateway.getSaleOrder orderId)
  getAvailability productIds := onFirst (gateway.getAvailability productIds)
  applyLineChanges orderId changes := onFirst (gateway.applyLineChanges orderId changes)
  addLine orderId productId qty discount := onFirst (gateway.addLine orderId productId qty discount)
  setGovernance orderId approvalState riskScore locked :=
    onFirst (gateway.setGovernance orderId approvalState riskScore locked)
  confirm orderId := onFirst (gateway.confirm orderId)
  applyFulfillmentPlan orderId allocations := fun s =>
    match gateway.applyFulfillmentPlan orderId allocations s.1 with
    | (.error e, odoo) => (.error e, odoo, s.2)
    | (.ok pickingIds, odoo) =>
        (.ok pickingIds, odoo, s.2 ++ [{ orderId, allocations, pickingIds }])
  registerPayment invoiceId amount := onFirst (gateway.registerPayment invoiceId amount)
  getProducts productIds := onFirst (gateway.getProducts productIds)
  getWarehouses := onFirst gateway.getWarehouses
  getAvailabilityIn productIds warehouseIds :=
    onFirst (gateway.getAvailabilityIn productIds warehouseIds)

/-! ## Operations -/

/-- Carry out an operation. -/
def perform {σ α : Type} (x : FulfillmentM σ α) (w : FulfillmentWorld σ) :
    Except FulfillmentError α × FulfillmentWorld σ :=
  x w

inductive FulfillmentOp
  | propose (strategy : Option String) (now : Timestamp)
  | accept (planId : ℕ) (actor : DealflowUser) (now : Timestamp)
  | override (planId : ℕ) (allocations : List FulfillmentOverrideLineItem) (actor : DealflowUser)
      (reason : String) (now : Timestamp)
  | apply (planId : ℕ) (actor : DealflowUser) (now : Timestamp)
  | consolidate (actor : DealflowUser) (now : Timestamp)
  /-- Another operation moves the deal on. -/
  | moveDeal (status : DealStatus)

def FulfillmentOp.step {σ : Type} (gateway : WarehouseGateway σ) (op : FulfillmentOp)
    (w : FulfillmentWorld σ) : FulfillmentWorld σ :=
  match op with
  | .propose strategy now => (perform (proposeFulfillmentPlan gateway strategy now) w).2
  | .accept planId actor now => (perform (acceptFulfillmentPlan planId actor now) w).2
  | .override planId allocations actor reason now =>
      (perform (overrideFulfillmentPlan gateway planId allocations actor reason now) w).2
  | .apply planId actor now => (perform (applyPlan gateway planId actor now) w).2
  | .consolidate actor now => (perform (consolidateBackorder gateway actor now) w).2
  | .moveDeal status => { w with db := w.db.updateDeal fun d => { d with status } }

/-- The deal with its plans, on a gateway with a record of its pickings. -/
abbrev PickedWorld (σ : Type) := FulfillmentWorld (σ × List PickingCall)

/-! ## Rules for operations -/

section Perform

variable {σ α β : Type} {w w' : FulfillmentWorld σ}

theorem perform_bind (x : FulfillmentM σ α) (f : α → FulfillmentM σ β)
    (w : FulfillmentWorld σ) :
    perform (x >>= f) w =
      match perform x w with
      | (.error e, w') => (.error e, w')
      | (.ok a, w') => perform (f a) w' := by
  unfold perform
  change (ExceptT.bindCont f (x w).1) (x w).2 = _
  rcases x w with ⟨answer, w'⟩
  cases answer with
  | error e => rfl
  | ok a => rfl

theorem perform_get_bind (f : FulfillmentWorld σ → FulfillmentM σ α) (w : FulfillmentWorld σ) :
    perform (get >>= f) w = perform (f w) w := rfl

/-- What goes through in sequence goes through one by one. -/
theorem perform_bind_ok {x : FulfillmentM σ α} {f : α → FulfillmentM σ β} {b : β}
    (ok : perform (x >>= f) w = (.ok b, w')) :
    ∃ a between, perform x w = (.ok a, between) ∧ perform (f a) between = (.ok b, w') := by
  rw [perform_bind] at ok
  rcases first : perform x w with ⟨answer, between⟩
  rw [first] at ok
  cases answer with
  | error e => cases ok
  | ok a => exact ⟨a, between, rfl, ok⟩

/-- The operation does not change what `view` shows. -/
def Leaves {γ : Type} (view : FulfillmentWorld σ → γ) (x : FulfillmentM σ α) : Prop :=
  ∀ w, view (perform x w).2 = view w

variable {γ : Type} {view : FulfillmentWorld σ → γ}

theorem Leaves.bind {x : FulfillmentM σ α} {f : α → FulfillmentM σ β} (first : Leaves view x)
    (rest : ∀ a, Leaves view (f a)) : Leaves view (x >>= f) := by
  intro w
  rw [perform_bind]
  rcases eq : perform x w with ⟨answer, between⟩
  have kept : view between = view w := by
    rw [← first w, eq]
  cases answer with
  | error e => exact kept
  | ok a => exact (rest a between).trans kept

theorem leaves_pure (a : α) : Leaves view (pure a : FulfillmentM σ α) := fun _ => rfl

theorem leaves_throw (e : FulfillmentError) : Leaves view (throw e : FulfillmentM σ α) :=
  fun _ => rfl

theorem leaves_get : Leaves view (get : FulfillmentM σ (FulfillmentWorld σ)) := fun _ => rfl

theorem leaves_ite {c : Prop} [Decidable c] {x y : FulfillmentM σ α} (left : Leaves view x)
    (right : Leaves view y) : Leaves view (if c then x else y) := by
  split
  · exact left
  · exact right

theorem perform_askOdoo (call : OdooCall σ α) (w : FulfillmentWorld σ) :
    perform (askOdoo call) w =
      (((call w.odoo).1.mapError fun e => .service (.odoo e)),
        { w with odoo := (call w.odoo).2 }) := by
  unfold perform askOdoo
  rcases call w.odoo with ⟨answer, odoo⟩
  cases answer with
  | error e => rfl
  | ok a => rfl

theorem perform_askOdoo_bind (call : OdooCall σ α) (f : α → FulfillmentM σ β)
    (w : FulfillmentWorld σ) :
    perform (askOdoo call >>= f) w =
      match (call w.odoo).1 with
      | .error e => (.error (.service (.odoo e)), { w with odoo := (call w.odoo).2 })
      | .ok a => perform (f a) { w with odoo := (call w.odoo).2 } := by
  rw [perform_bind, perform_askOdoo]
  cases (call w.odoo).1 with
  | error e => rfl
  | ok a => rfl

/-- A call leaves what does not show the Odoo side, or not what it changes there. -/
theorem leaves_askOdoo {call : OdooCall σ α}
    (kept : ∀ w : FulfillmentWorld σ, view { w with odoo := (call w.odoo).2 } = view w) :
    Leaves view (askOdoo call) := by
  intro w
  rw [perform_askOdoo]
  exact kept w

/-- After `get` only what follows from the present state counts. -/
theorem leaves_get_bind {f : FulfillmentWorld σ → FulfillmentM σ α}
    (rest : ∀ w, view (perform (f w) w).2 = view w) : Leaves view (get >>= f) := rest

end Perform

/-! ## Computing a plan -/

section Compute

variable {σ : Type} {gateway : WarehouseGateway σ}

/-- Computing a plan writes warehouse profiles at most. -/
theorem computePlan_leaves {γ : Type} {view : FulfillmentWorld σ → γ}
    (profiles : ∀ (w : FulfillmentWorld σ) profiles, view { w with profiles } = view w)
    (orders : ∀ id (w : FulfillmentWorld σ),
      view { w with odoo := (gateway.getSaleOrder id w.odoo).2 } = view w)
    (products : ∀ ids (w : FulfillmentWorld σ),
      view { w with odoo := (gateway.getProducts ids w.odoo).2 } = view w)
    (warehouses : ∀ w : FulfillmentWorld σ,
      view { w with odoo := (gateway.getWarehouses w.odoo).2 } = view w)
    (stock : ∀ pids wids (w : FulfillmentWorld σ),
      view { w with odoo := (gateway.getAvailabilityIn pids wids w.odoo).2 } = view w)
    (strategy : Option String) : Leaves view (computePlan gateway strategy) := by
  have ensured : Leaves view (ensureProfiles gateway) := by
    refine leaves_get.bind fun _ => leaves_ite ?_ (leaves_pure _)
    refine (leaves_askOdoo warehouses).bind fun _ => leaves_get_bind fun w => ?_
    dsimp only
    split
    · exact profiles w _
    · rfl
  refine leaves_get.bind fun _ => (leaves_askOdoo (orders _)).bind fun order => ?_
  refine leaves_ite (leaves_throw _) ?_
  refine (leaves_askOdoo (products _)).bind fun _ => ensured.bind fun _ => ?_
  refine (leaves_askOdoo warehouses).bind fun _ => leaves_get.bind fun _ => ?_
  exact (leaves_askOdoo (stock _ _)).bind fun _ => leaves_pure _

/-- A computed plan is one for the order as it was read. -/
theorem computePlan_ok {strategy : Option String} {w w' : FulfillmentWorld σ}
    {calcRes : FulfillmentCalculationResult}
    (ok : perform (computePlan gateway strategy) w = (.ok calcRes, w')) :
    ∃ order products infos availability,
      (gateway.getSaleOrder w.db.deal.odooSaleOrderId w.odoo).1 = .ok order ∧
      calcRes =
        calculateFulfillmentPlan (stockableLines order products) infos availability strategy := by
  unfold computePlan at ok
  obtain ⟨_, _, got, ok⟩ := perform_bind_ok ok
  cases got
  obtain ⟨order, between, read, ok⟩ := perform_bind_ok ok
  rw [perform_askOdoo] at read
  have answer := mapError_eq_ok.mp (congrArg Prod.fst read)
  dsimp only at ok
  split at ok
  · cases ok
  · obtain ⟨products, _, -, ok⟩ := perform_bind_ok ok
    obtain ⟨_, _, -, ok⟩ := perform_bind_ok ok
    obtain ⟨warehouses, _, -, ok⟩ := perform_bind_ok ok
    obtain ⟨_, _, -, ok⟩ := perform_bind_ok ok
    obtain ⟨availability, _, -, ok⟩ := perform_bind_ok ok
    cases ok
    exact ⟨order, products, _, _, answer, rfl⟩

end Compute

/-! ## What no operation changes -/

/-- The plan an operation finds under an id. -/
def FoundPlan {σ : Type} (w : FulfillmentWorld σ) (planId : ℕ) (plan : FulfillmentPlan) : Prop :=
  (w.plans.find? fun p => p.id = planId) = some plan

/-- The plan is found, or the operation raises; the state stays. -/
theorem perform_getPlan {τ : Type} (planId : ℕ) (w : FulfillmentWorld τ) :
    (∃ e, perform (getPlan planId) w = (.error e, w)) ∨
      ∃ plan, FoundPlan w planId plan ∧ perform (getPlan planId) w = (.ok plan, w) := by
  unfold FoundPlan getPlan
  rw [perform_get_bind]
  cases w.plans.find? fun p => p.id = planId with
  | none => exact .inl ⟨_, rfl⟩
  | some plan => exact .inr ⟨plan, rfl, rfl⟩

/-- The calls that operations on plans make do not change what `f` shows. -/
structure KeptByPlanCalls {σ γ : Type} (gateway : WarehouseGateway σ) (f : σ → γ) : Prop where
  orders : ∀ orderId s, f (gateway.getSaleOrder orderId s).2 = f s
  products : ∀ productIds s, f (gateway.getProducts productIds s).2 = f s
  warehouses : ∀ s, f (gateway.getWarehouses s).2 = f s
  stock : ∀ productIds warehouseIds s,
    f (gateway.getAvailabilityIn productIds warehouseIds s).2 = f s
  pickings : ∀ orderId allocations s, f (gateway.applyFulfillmentPlan orderId allocations s).2 = f s

section Kept

variable {σ γ : Type} {gateway : WarehouseGateway σ} {f : σ → γ}

theorem KeptByPlanCalls.propose (kept : KeptByPlanCalls gateway f) (strategy : Option String)
    (now : Timestamp) :
    Leaves (fun w : FulfillmentWorld σ => (w.db.deal.odooSaleOrderId, f w.odoo))
      (proposeFulfillmentPlan gateway strategy now) := by
  refine Leaves.bind ?_ fun calcRes => ?_
  · exact computePlan_leaves (fun _ _ => rfl)
      (fun id w => Prod.ext rfl (kept.orders id w.odoo))
      (fun ids w => Prod.ext rfl (kept.products ids w.odoo))
      (fun w => Prod.ext rfl (kept.warehouses w.odoo))
      (fun pids wids w => Prod.ext rfl (kept.stock pids wids w.odoo)) strategy
  · exact leaves_get_bind fun w => rfl

theorem leaves_getPlan {τ δ : Type} {view : FulfillmentWorld τ → δ} (planId : ℕ) :
    Leaves view (getPlan planId) := by
  intro w
  rcases perform_getPlan planId w with ⟨e, got⟩ | ⟨plan, -, got⟩
  · rw [got]
  · rw [got]

theorem leaves_acceptFulfillmentPlan (planId : ℕ) (actor : DealflowUser) (now : Timestamp) :
    Leaves (fun w : FulfillmentWorld σ => (w.db.deal.odooSaleOrderId, f w.odoo))
      (acceptFulfillmentPlan planId actor now) := by
  refine (leaves_getPlan planId).bind fun plan => leaves_ite (leaves_throw _) ?_
  exact fun w => rfl

theorem KeptByPlanCalls.override (kept : KeptByPlanCalls gateway f) (planId : ℕ)
    (allocations : List FulfillmentOverrideLineItem) (actor : DealflowUser) (reason : String)
    (now : Timestamp) :
    Leaves (fun w : FulfillmentWorld σ => (w.db.deal.odooSaleOrderId, f w.odoo))
      (overrideFulfillmentPlan gateway planId allocations actor reason now) := by
  refine leaves_ite (leaves_throw _) ?_
  refine (leaves_getPlan planId).bind fun plan => leaves_ite (leaves_throw _) ?_
  refine leaves_get.bind fun _ => Leaves.bind ?_ fun order => leaves_get_bind fun w => ?_
  · exact leaves_askOdoo fun w => Prod.ext rfl (kept.orders _ w.odoo)
  · cases overrideLines order w.profiles allocations with
    | error e => rfl
    | ok lines => rfl

theorem KeptByPlanCalls.apply (kept : KeptByPlanCalls gateway f) (planId : ℕ)
    (actor : DealflowUser) (now : Timestamp) :
    Leaves (fun w : FulfillmentWorld σ => (w.db.deal.odooSaleOrderId, f w.odoo))
      (applyPlan gateway planId actor now) := by
  intro w
  unfold perform applyPlan applyFulfillmentPlan
  dsimp only
  cases guardPlan w.toDealWorld planId with
  | error e => rfl
  | ok plan =>
      have picked := kept.pickings w.db.deal.odooSaleOrderId plan.allocPayload w.odoo
      dsimp only
      rcases called : gateway.applyFulfillmentPlan w.db.deal.odooSaleOrderId plan.allocPayload
        w.odoo with ⟨answer, odoo⟩
      rw [called] at picked
      cases answer with
      | error e => exact Prod.ext rfl picked
      | ok pickingIds => exact Prod.ext rfl picked

/-- No operation changes what the calls do not, nor what order the deal is for. -/
theorem FulfillmentOp.step_kept (kept : KeptByPlanCalls gateway f) (op : FulfillmentOp)
    (w : FulfillmentWorld σ) :
    (op.step gateway w).db.deal.odooSaleOrderId = w.db.deal.odooSaleOrderId ∧
      f (op.step gateway w).odoo = f w.odoo := by
  rw [← Prod.mk.injEq]
  cases op with
  | propose strategy now => exact kept.propose strategy now w
  | accept planId actor now => exact leaves_acceptFulfillmentPlan planId actor now w
  | override planId allocations actor reason now =>
      exact kept.override planId allocations actor reason now w
  | apply planId actor now => exact kept.apply planId actor now w
  | consolidate actor now => exact (kept.propose none now).bind (fun _ _ => rfl) w
  | moveDeal status => rfl

end Kept

/-! ## What an operation does -/

/-- The plan after its application. -/
def appliedPlan (pickingIds : List ℤ) (now : Timestamp) (p : FulfillmentPlan) : FulfillmentPlan :=
  { p with status := .applied, appliedAt := some now, odooPickingIds := some pickingIds }

/-- The plan after its acceptance. -/
def acceptedPlan (actor : DealflowUser) (now : Timestamp) (p : FulfillmentPlan) :
    FulfillmentPlan :=
  { p with
    status := .accepted
    acceptedByOdooUserId := some actor.odooUserId
    acceptedAt := some now }

/-- What an operation may do to the plans of a deal and the record of its pickings. -/
inductive PlanChange {σ : Type} (gateway : WarehouseGateway σ) (op : FulfillmentOp)
    (w w' : PickedWorld σ) : Prop
  | nothing (plans : w'.plans = w.plans) (nextId : w'.db.nextId = w.db.nextId)
      (calls : w'.odoo.2 = w.odoo.2)
  | proposed (strategy : Option String) (now : Timestamp) (order : RawOrder)
      (products : AList fun _ : ℤ => RawProduct) (infos : List WarehouseInfo)
      (availability : AvailabilityTable)
      (read : (gateway.getSaleOrder w.db.deal.odooSaleOrderId w.odoo.1).1 = .ok order)
      (plans : w'.plans = w.plans.map supersedeProposed ++
        [proposedPlan w.db.nextId
          (calculateFulfillmentPlan (stockableLines order products) infos availability strategy)
          now])
      (nextId : w'.db.nextId = w.db.nextId + 1) (calls : w'.odoo.2 = w.odoo.2)
  | accepted (planId : ℕ) (actor : DealflowUser) (now : Timestamp) (plan : FulfillmentPlan)
      (found : FoundPlan w planId plan) (status : plan.status = .proposed)
      (plans : w'.plans = updatePlan planId (acceptedPlan actor now) w.plans)
      (nextId : w'.db.nextId = w.db.nextId) (calls : w'.odoo.2 = w.odoo.2)
  | overridden (planId : ℕ) (allocations : List FulfillmentOverrideLineItem) (actor : DealflowUser)
      (reason : String) (now : Timestamp) (plan : FulfillmentPlan) (order : RawOrder)
      (profiles : List WarehouseProfile) (lines : List FulfillmentPlanLine)
      (called : op = .override planId allocations actor reason now)
      (read : (gateway.getSaleOrder w.db.deal.odooSaleOrderId w.odoo.1).1 = .ok order)
      (found : FoundPlan w planId plan) (status : plan.status ∈ [.proposed, .accepted])
      (taken : overrideLines order profiles allocations = .ok lines)
      (plans : w'.plans = updatePlan planId (overriddenPlan profiles lines actor now) w.plans)
      (nextId : w'.db.nextId = w.db.nextId) (calls : w'.odoo.2 = w.odoo.2)
  | applied (planId : ℕ) (actor : DealflowUser) (now : Timestamp) (plan : FulfillmentPlan)
      (pickingIds : List ℤ) (called : op = .apply planId actor now)
      (guarded : guardPlan w.toDealWorld planId = .ok plan)
      (answered : (gateway.applyFulfillmentPlan w.db.deal.odooSaleOrderId plan.allocPayload
        w.odoo.1).1 = .ok pickingIds)
      (plans : w'.plans = updatePlan planId (appliedPlan pickingIds now) w.plans)
      (nextId : w'.db.nextId = w.db.nextId)
      (calls : w'.odoo.2 = w.odoo.2 ++
        [{ orderId := w.db.deal.odooSaleOrderId, allocations := plan.allocPayload, pickingIds }])

section Change

variable {σ : Type} {gateway : WarehouseGateway σ} {w : PickedWorld σ}

/-- What a computation of a plan leaves alone. -/
theorem computePlan_view (gateway : WarehouseGateway σ) (strategy : Option String) :
    Leaves (fun w : PickedWorld σ => (w.db, w.plans, w.odoo.2))
      (computePlan (recordingPickings gateway) strategy) :=
  computePlan_leaves (fun _ _ => rfl) (fun _ _ => rfl) (fun _ _ => rfl) (fun _ => rfl)
    (fun _ _ _ => rfl) strategy

/-- A proposal, or nothing. -/
theorem propose_change (strategy : Option String) (now : Timestamp) (op : FulfillmentOp) :
    PlanChange gateway op w
      (perform (proposeFulfillmentPlan (recordingPickings gateway) strategy now) w).2 := by
  unfold proposeFulfillmentPlan
  rw [perform_bind]
  have view := computePlan_view gateway strategy w
  rcases computed : perform (computePlan (recordingPickings gateway) strategy) w with
    ⟨answer, between⟩
  rw [computed] at view
  obtain ⟨db, rest⟩ := Prod.ext_iff.mp view
  obtain ⟨plans, calls⟩ := Prod.ext_iff.mp rest
  dsimp only at db plans calls
  cases answer with
  | error e => exact .nothing plans (congrArg (·.nextId) db) calls
  | ok calcRes =>
      obtain ⟨order, products, infos, availability, read, rfl⟩ := computePlan_ok computed
      change PlanChange gateway op w (storeProposal _ now between)
      refine .proposed strategy now order products infos availability read ?_ ?_ calls
      · simp only [storeProposal, plans, db]
      · simp only [storeProposal, db]
        rfl

/-- What else an operation leaves behind does not count. -/
theorem PlanChange.congr {op : FulfillmentOp} {w' w'' : PickedWorld σ}
    (change : PlanChange gateway op w w') (samePlans : w''.plans = w'.plans)
    (sameId : w''.db.nextId = w'.db.nextId) (sameCalls : w''.odoo.2 = w'.odoo.2) :
    PlanChange gateway op w w'' := by
  cases change with
  | nothing plans nextId calls =>
      exact .nothing (samePlans.trans plans) (sameId.trans nextId) (sameCalls.trans calls)
  | proposed strategy now order products infos availability read plans nextId calls =>
      exact .proposed strategy now order products infos availability read (samePlans.trans plans)
        (sameId.trans nextId) (sameCalls.trans calls)
  | accepted planId actor now plan found status plans nextId calls =>
      exact .accepted planId actor now plan found status (samePlans.trans plans)
        (sameId.trans nextId) (sameCalls.trans calls)
  | overridden planId allocations actor reason now plan order profiles lines called read found
      status taken plans nextId calls =>
      exact .overridden planId allocations actor reason now plan order profiles lines called read
        found status taken (samePlans.trans plans) (sameId.trans nextId) (sameCalls.trans calls)
  | applied planId actor now plan pickingIds called guarded answered plans nextId calls =>
      exact .applied planId actor now plan pickingIds called guarded answered
        (samePlans.trans plans) (sameId.trans nextId) (sameCalls.trans calls)

theorem consolidate_change (actor : DealflowUser) (now : Timestamp) (op : FulfillmentOp) :
    PlanChange gateway op w
      (perform (consolidateBackorder (recordingPickings gateway) actor now) w).2 := by
  have proposed : PlanChange gateway op w
      (perform (proposeFulfillmentPlan (recordingPickings gateway) none now) w).2 :=
    propose_change none now op
  unfold consolidateBackorder
  rw [perform_bind]
  rcases first : perform (proposeFulfillmentPlan (recordingPickings gateway) none now) w with
    ⟨answer, between⟩
  rw [first] at proposed
  cases answer with
  | error e => exact proposed
  | ok planId => exact proposed.congr rfl rfl rfl

theorem accept_change (planId : ℕ) (actor : DealflowUser) (now : Timestamp) (op : FulfillmentOp) :
    PlanChange gateway op w (perform (acceptFulfillmentPlan planId actor now) w).2 := by
  unfold acceptFulfillmentPlan
  rw [perform_bind]
  rcases perform_getPlan planId w with ⟨e, got⟩ | ⟨plan, found, got⟩
  · rw [got]
    exact .nothing rfl rfl rfl
  · rw [got]
    dsimp only
    split
    · exact .nothing rfl rfl rfl
    · rename_i status
      exact .accepted planId actor now plan found (not_not.mp status) rfl rfl rfl

theorem override_change (planId : ℕ) (allocations : List FulfillmentOverrideLineItem)
    (actor : DealflowUser) (reason : String) (now : Timestamp) :
    PlanChange gateway (.override planId allocations actor reason now) w
      (perform (overrideFulfillmentPlan (recordingPickings gateway) planId allocations actor reason
        now) w).2 := by
  unfold overrideFulfillmentPlan
  dsimp only
  split
  · exact .nothing rfl rfl rfl
  · rw [perform_bind]
    rcases perform_getPlan planId w with ⟨e, got⟩ | ⟨plan, found, got⟩
    · rw [got]
      exact .nothing rfl rfl rfl
    · rw [got]
      dsimp only
      split
      · exact .nothing rfl rfl rfl
      · rename_i status
        have answer : ((recordingPickings gateway).getSaleOrder w.db.deal.odooSaleOrderId
            w.odoo).1 = (gateway.getSaleOrder w.db.deal.odooSaleOrderId w.odoo.1).1 := rfl
        rw [perform_get_bind, perform_askOdoo_bind, answer]
        cases read : (gateway.getSaleOrder w.db.deal.odooSaleOrderId w.odoo.1).1 with
        | error e => exact .nothing rfl rfl rfl
        | ok order =>
            dsimp only
            rw [perform_get_bind]
            cases taken : overrideLines order w.profiles allocations with
            | error e => exact .nothing rfl rfl rfl
            | ok lines =>
                exact .overridden planId allocations actor reason now plan order w.profiles lines
                  rfl read found (not_not.mp status) taken rfl rfl rfl

theorem guardPlan_ok {τ : Type} {w : DealWorld τ} {planId : ℕ} {plan : FulfillmentPlan}
    (ok : guardPlan w planId = .ok plan) :
    (w.plans.find? fun p => p.id = planId) = some plan ∧
      plan.status ∈ [.accepted, .overridden] := by
  unfold guardPlan at ok
  split at ok
  · cases ok
  · cases found : w.plans.find? fun p => p.id = planId with
    | none =>
        rw [found] at ok
        cases ok
    | some plan' =>
        rw [found] at ok
        dsimp only at ok
        split at ok
        · cases ok
        · rename_i status
          cases ok
          exact ⟨rfl, not_not.mp status⟩

theorem apply_change (planId : ℕ) (actor : DealflowUser) (now : Timestamp) :
    PlanChange gateway (.apply planId actor now) w
      (perform (applyPlan (recordingPickings gateway) planId actor now) w).2 := by
  unfold perform applyPlan applyFulfillmentPlan
  dsimp only
  cases guarded : guardPlan w.toDealWorld planId with
  | error e => exact .nothing rfl rfl rfl
  | ok plan =>
      obtain ⟨found, -⟩ := guardPlan_ok guarded
      have named : plan.id = planId :=
        of_decide_eq_true (List.find?_some (p := fun p : FulfillmentPlan => p.id = planId) found)
      dsimp only [recordingPickings]
      rcases called : gateway.applyFulfillmentPlan w.db.deal.odooSaleOrderId plan.allocPayload
        w.odoo.1 with ⟨answer, odoo⟩
      cases answer with
      | error e => exact .nothing rfl rfl rfl
      | ok pickingIds =>
          subst named
          exact .applied plan.id actor now plan pickingIds rfl guarded (congrArg Prod.fst called)
            rfl rfl rfl

/-- What each operation does to the plans and the record. -/
theorem FulfillmentOp.planChange (gateway : WarehouseGateway σ) (op : FulfillmentOp)
    (w : PickedWorld σ) :
    PlanChange gateway op w (op.step (recordingPickings gateway) w) := by
  cases op with
  | propose strategy now => exact propose_change strategy now _
  | accept planId actor now => exact accept_change planId actor now _
  | override planId allocations actor reason now =>
      exact override_change planId allocations actor reason now
  | apply planId actor now => exact apply_change planId actor now
  | consolidate actor now => exact consolidate_change actor now _
  | moveDeal status => exact .nothing rfl rfl rfl

end Change

end DealFlow
