import DealFlow.Negotiation.Effects
import DealFlow.Governance.Runs

/-!
# The spellings of a negotiation payload

A portal payload gives its type as `type` or as `request_type`, and its line as
`odoo_sale_order_line_id` or as `odoo_line_id`.  A change of quantity and a discount are recorded by
the resolved values, the removal and the addition of a line by the values as they were given under
the first of the two names.  So the spelling matters to these two, and it matters for line 0, which
only the second name keeps (`spellingIndependent_iff`).

Beside its request a submission leaves a notification that shows the type as given.  No answer to a
request looks at notifications (`acceptNegotiation_withNotifications`), so where the requests are
the same, so is what accepting them does to the order.
-/

namespace DealFlow

/-! ## Spellings -/

/-- What a customer asks for. -/
structure NegotiationContent where
  type : String
  lineId : Option ℤ := none
  message : Option String := none
  counterValue : Option ℚ := none
  requestedQty : Option ℚ := none
  requestedProductId : Option ℤ := none
  deriving DecidableEq, Repr

inductive TypeAlias
  | type | requestType
  deriving DecidableEq, Repr

inductive LineAlias
  | odooSaleOrderLineId | odooLineId
  deriving DecidableEq, Repr

structure Spelling where
  typeAs : TypeAlias
  lineAs : LineAlias
  deriving DecidableEq, Repr

/-- The payload that gives its type and its line under these names. -/
def NegotiationContent.spelled (c : NegotiationContent) (s : Spelling) : PortalNegotiationSubmit :=
  { type := if s.typeAs = .type then some c.type else none
    requestType := if s.typeAs = .requestType then some c.type else none
    message := c.message
    counterValue := c.counterValue
    odooSaleOrderLineId := if s.lineAs = .odooSaleOrderLineId then c.lineId else none
    odooLineId := if s.lineAs = .odooLineId then c.lineId else none
    requestedQty := c.requestedQty
    requestedProductId := c.requestedProductId }

/-- The branch of the type looks at the payload as it was given. -/
def NegotiationContent.ReadsRaw (c : NegotiationContent) : Prop :=
  c.type = NegotiationRequestType.removeLine.value ∨ c.type = NegotiationRequestType.addLine.value

/-- The branch of the type resolves the line. -/
def NegotiationContent.ResolvesLine (c : NegotiationContent) : Prop :=
  c.type = NegotiationRequestType.qtyChange.value ∨
    c.type = NegotiationRequestType.counterDiscount.value

section Change

variable (c : NegotiationContent) (s : Spelling)

theorem resolvedType_spelled :
    (c.spelled s).resolvedType = (nonEmpty (some c.type)).getD "COMMENT" := by
  obtain ⟨typeAs, lineAs⟩ := s
  cases typeAs with
  | type => exact congrArg (Option.getD · "COMMENT") Option.or_none
  | requestType => rfl

theorem resolvedLineId_spelled :
    (c.spelled s).resolvedLineId =
      if s.lineAs = .odooLineId then c.lineId else nonZero c.lineId := by
  obtain ⟨typeAs, lineAs⟩ := s
  cases lineAs with
  | odooSaleOrderLineId => exact Option.or_none
  | odooLineId => rfl

theorem resolvedType_spelled_of_ne (given : c.type ≠ "") :
    (c.spelled s).resolvedType = c.type := by
  rw [resolvedType_spelled, nonEmpty, Option.filter_some, if_pos (by simpa using given)]
  rfl

/-- The change of a quantity, under any spelling. -/
theorem change_qty (type : c.type = NegotiationRequestType.qtyChange.value) :
    (c.spelled s).change =
      [{ odooSaleOrderLineId := if s.lineAs = .odooLineId then c.lineId else nonZero c.lineId
         fieldName := .productUomQty, requestedValue := c.requestedQty }] := by
  have resolved := resolvedType_spelled_of_ne c s (type ▸ by decide)
  unfold PortalNegotiationSubmit.change
  rw [if_pos (resolved.trans type), resolvedLineId_spelled]
  rfl

/-- The discount, under any spelling. -/
theorem change_discount (type : c.type = NegotiationRequestType.counterDiscount.value) :
    (c.spelled s).change =
      [{ odooSaleOrderLineId := if s.lineAs = .odooLineId then c.lineId else nonZero c.lineId
         fieldName := .discount, requestedValue := c.counterValue }] := by
  have resolved := resolvedType_spelled_of_ne c s (type ▸ by decide)
  unfold PortalNegotiationSubmit.change
  rw [if_neg (by rw [resolved, type]; decide), if_pos (resolved.trans type),
    resolvedLineId_spelled]
  rfl

/-- The removal of a line, which is recorded where the type is given as `type`, and names the line
where that is given as `odoo_sale_order_line_id`. -/
theorem change_remove (type : c.type = NegotiationRequestType.removeLine.value) :
    (c.spelled s).change =
      if s.typeAs = .type then
        [{ odooSaleOrderLineId := if s.lineAs = .odooSaleOrderLineId then c.lineId else none
           fieldName := .removeLine, requestedValue := none }]
      else [] := by
  have resolved := resolvedType_spelled_of_ne c s (type ▸ by decide)
  unfold PortalNegotiationSubmit.change
  rw [if_neg (by rw [resolved, type]; decide), if_neg (by rw [resolved, type]; decide)]
  obtain ⟨typeAs, lineAs⟩ := s
  cases typeAs with
  | type => exact if_pos (congrArg some type)
  | requestType => rfl

/-- The addition of a line, which is recorded where the type is given as `type`. -/
theorem change_add (type : c.type = NegotiationRequestType.addLine.value) :
    (c.spelled s).change =
      if s.typeAs = .type then
        [{ odooSaleOrderLineId := none, fieldName := .addProduct
           requestedValue := c.requestedProductId.map fun id => (id : ℚ) }]
      else [] := by
  have resolved := resolvedType_spelled_of_ne c s (type ▸ by decide)
  unfold PortalNegotiationSubmit.change
  rw [if_neg (by rw [resolved, type]; decide), if_neg (by rw [resolved, type]; decide)]
  obtain ⟨typeAs, lineAs⟩ := s
  cases typeAs with
  | type =>
      have given : (c.spelled ⟨.type, lineAs⟩).type =
          some NegotiationRequestType.addLine.value := congrArg some type
      rw [given, if_neg (by decide), if_pos rfl]
      rfl
  | requestType => rfl

/-- Any other type records no change. -/
theorem change_other (raw : ¬ c.ReadsRaw) (line : ¬ c.ResolvesLine) :
    (c.spelled s).change = [] := by
  unfold NegotiationContent.ReadsRaw at raw
  unfold NegotiationContent.ResolvesLine at line
  rw [not_or] at raw line
  have resolved : (c.spelled s).resolvedType = "COMMENT" ∨
      (c.spelled s).resolvedType = c.type := by
    by_cases given : c.type = ""
    · left
      rw [resolvedType_spelled, given]
      rfl
    · exact .inr (resolvedType_spelled_of_ne c s given)
  have resolved_ne : ∀ v : NegotiationRequestType, v ≠ .comment → c.type ≠ v.value →
      (c.spelled s).resolvedType ≠ v.value := by
    intro v named other eq
    rcases resolved with comment | same
    · rw [comment] at eq
      cases v <;> first | exact named rfl | exact absurd eq (by decide)
    · exact other (same.symm.trans eq)
  have given_ne : ∀ v : NegotiationRequestType, c.type ≠ v.value →
      (c.spelled s).type ≠ some v.value := by
    intro v other eq
    obtain ⟨typeAs, lineAs⟩ := s
    cases typeAs with
    | type => exact other (Option.some.inj eq)
    | requestType => cases eq
  unfold PortalNegotiationSubmit.change
  rw [if_neg (resolved_ne _ (by decide) line.1), if_neg (resolved_ne _ (by decide) line.2),
    if_neg (given_ne _ raw.1), if_neg (given_ne _ raw.2)]

/-- All spellings record the same change exactly where the branch of the type resolves what it
reads, and the line is not line 0. -/
theorem changes_agree_iff :
    (∀ s s', (c.spelled s).change = (c.spelled s').change) ↔
      ¬ c.ReadsRaw ∧ (c.ResolvesLine → c.lineId ≠ some 0) := by
  constructor
  · intro agree
    constructor
    · intro raw
      have across := agree ⟨.type, .odooLineId⟩ ⟨.requestType, .odooLineId⟩
      rcases raw with remove | add
      · rw [change_remove c _ remove, change_remove c _ remove] at across
        cases across
      · rw [change_add c _ add, change_add c _ add] at across
        cases across
    · intro resolves zero
      have across := agree ⟨.type, .odooLineId⟩ ⟨.type, .odooSaleOrderLineId⟩
      rcases resolves with qty | discount
      · rw [change_qty c _ qty, change_qty c _ qty, zero] at across
        cases congrArg (List.map NegotiationChange.odooSaleOrderLineId) across
      · rw [change_discount c _ discount, change_discount c _ discount, zero] at across
        cases congrArg (List.map NegotiationChange.odooSaleOrderLineId) across
  · rintro ⟨raw, line⟩ s s'
    by_cases resolves : c.ResolvesLine
    · have kept : nonZero c.lineId = c.lineId := by
        cases given : c.lineId with
        | none => rfl
        | some id =>
            refine Option.filter_some.trans (if_pos ?_)
            have ne : id ≠ 0 := fun zero => line resolves (given.trans (congrArg some zero))
            exact decide_eq_true ne
      rcases resolves with qty | discount
      · rw [change_qty c s qty, change_qty c s' qty, kept, ite_self, ite_self]
      · rw [change_discount c s discount, change_discount c s' discount, kept, ite_self, ite_self]
    · rw [change_other c s raw resolves, change_other c s' raw resolves]

end Change

/-! ## What nobody looks at -/

section Notifications

/-- The store with other notifications. -/
def DealStore.withNotifications (db : DealStore) (ns : List Notification) : DealStore :=
  { db with notifications := ns }

/-- The world with other notifications in its store. -/
def World.withNotifications {σ : Type} (w : World σ) (ns : List Notification) : World σ :=
  { w with db := w.db.withNotifications ns }

variable (ns : List Notification)

theorem World.withNotifications_odoo {σ : Type} (w : World σ) :
    (w.withNotifications ns).odoo = w.odoo := rfl

theorem World.withNotifications_deal {σ : Type} (w : World σ) :
    (w.withNotifications ns).db.deal = w.db.deal := rfl

theorem World.withNotifications_negotiations {σ : Type} (w : World σ) :
    (w.withNotifications ns).db.negotiations = w.db.negotiations := rfl

theorem invalidatePending_withNotifications (db : DealStore) (now : Timestamp) :
    invalidatePending (db.withNotifications ns) now =
      (invalidatePending db now).withNotifications ns := by
  unfold invalidatePending
  rw [DealStore.foldl_recordAuditEvent, DealStore.foldl_recordAuditEvent]
  rfl

theorem settleEvaluation_withNotifications (db : DealStore) (args : EvaluateArgs)
    (ctx : DealContext) :
    settleEvaluation (db.withNotifications ns) args ctx =
      (settleEvaluation db args ctx).withNotifications ns := by
  have routed : ∀ (db : DealStore) (id : ℕ) (level : ApprovalLevel) (covered : Bool),
      applyApprovalRouting (db.withNotifications ns) id level covered args.now =
        (applyApprovalRouting db id level covered args.now).withNotifications ns := by
    intro db id level covered
    have invalidated := invalidatePending_withNotifications ns db args.now
    unfold applyApprovalRouting
    rw [invalidated]
    change (if covered = true ∧ db.deal.approvalState = .approved then _ else _) = _
    split
    · rfl
    · cases level <;> rfl
  unfold settleEvaluation
  dsimp only
  exact congrArg (DealStore.updateDeal · _) (routed (persistAssessment db _ _) _ _ _)

variable {σ : Type} (gateway : OdooGateway σ)

theorem evaluateDeal_withNotifications (args : EvaluateArgs) (w : World σ) :
    evaluateDeal gateway args (w.withNotifications ns) =
      ((evaluateDeal gateway args w).1, (evaluateDeal gateway args w).2.withNotifications ns) := by
  have settled : ∀ ctx, settleEvaluation (w.withNotifications ns).db args ctx =
      (settleEvaluation w.db args ctx).withNotifications ns :=
    settleEvaluation_withNotifications ns w.db args
  unfold evaluateDeal
  rw [World.withNotifications_deal, World.withNotifications_odoo]
  rcases buildDealContext gateway args.tables w.db.deal.odooSaleOrderId w.odoo with ⟨e | ctx, odoo⟩
  · rfl
  · dsimp only
    rw [settled]
    rfl

theorem syncDealFromOdoo_withNotifications (tables : PolicyTables) (expectedVersion : Option ℤ)
    (actor : SyncActor) (now : Timestamp) (w : World σ) :
    syncDealFromOdoo gateway tables expectedVersion actor now (w.withNotifications ns) =
      ((syncDealFromOdoo gateway tables expectedVersion actor now w).1.map
          fun db => db.withNotifications ns,
        (syncDealFromOdoo gateway tables expectedVersion actor now w).2.withNotifications ns) := by
  unfold syncDealFromOdoo
  rw [World.withNotifications_deal, World.withNotifications_odoo]
  rcases buildDealContext gateway tables w.db.deal.odooSaleOrderId w.odoo with ⟨e | ctx, odoo⟩
  · rfl
  · dsimp only
    cases expectedVersion.filter fun version => w.db.deal.version ≠ version <;> rfl

theorem syncAndEvaluate_withNotifications (args : EvaluateArgs) (before : DealStore)
    (w : World σ) :
    syncAndEvaluate gateway args (before.withNotifications ns) (w.withNotifications ns) =
      ((syncAndEvaluate gateway args before w).1,
        (syncAndEvaluate gateway args before w).2.withNotifications ns) := by
  unfold syncAndEvaluate
  rw [syncDealFromOdoo_withNotifications]
  rcases syncDealFromOdoo gateway args.tables none
    { actorId := args.actorId, actorRole := args.actorRole } args.now w with ⟨e | committed, w'⟩
  · rfl
  · simp only [Except.map]
    rw [evaluateDeal_withNotifications]
    rcases evaluateDeal gateway args w' with ⟨e | response, w''⟩ <;> rfl

theorem acceptNegotiation_withNotifications (req : NegotiationRequest) (actor : DealflowUser)
    (tables : PolicyTables) (now : Timestamp) (answered : DealStore) (w : World σ) :
    acceptNegotiation gateway req actor tables now (answered.withNotifications ns)
        (w.withNotifications ns) =
      ((acceptNegotiation gateway req actor tables now answered w).1,
        (acceptNegotiation gateway req actor tables now answered w).2.withNotifications ns) := by
  unfold acceptNegotiation
  dsimp only
  rw [World.withNotifications_deal, World.withNotifications_odoo]
  rcases applyChanges gateway w.db.deal.odooSaleOrderId req.changes w.odoo with ⟨e | ok, odoo⟩
  · rfl
  · dsimp only
    have synced := syncAndEvaluate_withNotifications ns gateway
      { tables, triggerType := .negotiationAccepted, actorId := some actor.odooUserId
        actorRole := some actor.role, now } w.db
      { db := updateNegotiation answered req.id fun n => { n with status := .accepted }, odoo }
    refine (congrArg (finishAcceptance req actor now) synced).trans ?_
    rcases syncAndEvaluate gateway _ w.db _ with ⟨e | response, w'⟩ <;> rfl

/-- No answer to a request looks at notifications. -/
theorem respondNegotiationRequest_withNotifications (requestId : ℕ) (actor : DealflowUser)
    (action : NegotiationAction) (responseMessage : Option String) (counterValue : Option ℚ)
    (tables : PolicyTables) (now : Timestamp) (w : World σ) :
    respondNegotiationRequest gateway requestId actor action responseMessage counterValue tables now
        (w.withNotifications ns) =
      ((respondNegotiationRequest gateway requestId actor action responseMessage counterValue
          tables now w).1,
        (respondNegotiationRequest gateway requestId actor action responseMessage counterValue
          tables now w).2.withNotifications ns) := by
  unfold respondNegotiationRequest
  rw [World.withNotifications_negotiations]
  cases w.db.negotiations.find? fun n => n.id = requestId with
  | none => rfl
  | some req =>
      dsimp only
      split
      · rfl
      · cases action with
        | accept =>
            exact acceptNegotiation_withNotifications ns gateway req actor tables now
              (updateNegotiation w.db req.id _) w
        | reject => rfl
        | counter => rfl
        | other name => rfl

end Notifications

/-! ## Submission and acceptance -/

section Submission

variable (customerPartnerId actorUserId : ℤ) (now : Timestamp) (db : DealStore)

/-- Two spellings that record the same change leave stores that differ in notifications only, and
make the same request or are turned down alike. -/
theorem submit_spelled {c : NegotiationContent} {s s' : Spelling}
    (same : (c.spelled s).change = (c.spelled s').change) :
    (submitNegotiationRequest customerPartnerId actorUserId (c.spelled s) now db).1 =
        (submitNegotiationRequest customerPartnerId actorUserId (c.spelled s') now db).1 ∧
      ∃ ns, (submitNegotiationRequest customerPartnerId actorUserId (c.spelled s) now db).2 =
        (submitNegotiationRequest customerPartnerId actorUserId (c.spelled s') now db
          ).2.withNotifications ns := by
  have type : (c.spelled s).resolvedType = (c.spelled s').resolvedType :=
    (resolvedType_spelled c s).trans (resolvedType_spelled c s').symm
  unfold submitNegotiationRequest
  split
  · exact ⟨rfl, db.notifications, rfl⟩
  · split
    · exact ⟨rfl, db.notifications, rfl⟩
    · dsimp only
      rw [type, same]
      exact ⟨rfl, _, rfl⟩

/-- A submission that is not turned down records the change of its payload. -/
theorem submit_changes (payload : PortalNegotiationSubmit)
    (own : db.deal.odooPartnerId = customerPartnerId)
    (negotiable : db.deal.status ∉ [DealStatus.confirmed, .cancelled, .expired]) :
    ∃ req, (submitNegotiationRequest customerPartnerId actorUserId payload now db).1 = .ok req ∧
      req.changes = payload.change := by
  unfold submitNegotiationRequest
  rw [if_neg (not_not.mpr own), if_neg negotiable]
  exact ⟨_, rfl, rfl⟩

end Submission

/-- All spellings make the same request with the same change, and accepting it does the same to the
order. -/
def SpellingIndependent (c : NegotiationContent) : Prop :=
  ∀ (s s' : Spelling) (customerPartnerId actorUserId : ℤ) (now : Timestamp) (db : DealStore),
    (submitNegotiationRequest customerPartnerId actorUserId (c.spelled s) now db).1 =
        (submitNegotiationRequest customerPartnerId actorUserId (c.spelled s') now db).1 ∧
      ∀ {σ : Type} (gateway : OdooGateway σ) (requestId : ℕ) (actor : DealflowUser)
        (responseMessage : Option String) (counterValue : Option ℚ) (tables : PolicyTables)
        (later : Timestamp) (odoo : σ),
        (respondNegotiationRequest gateway requestId actor .accept responseMessage counterValue
            tables later { db := (submitNegotiationRequest customerPartnerId actorUserId
              (c.spelled s) now db).2, odoo }).2.odoo =
          (respondNegotiationRequest gateway requestId actor .accept responseMessage counterValue
            tables later { db := (submitNegotiationRequest customerPartnerId actorUserId
              (c.spelled s') now db).2, odoo }).2.odoo

/-- The spelling of a payload does not matter exactly where the branch of its type resolves what it
reads, and the line is not line 0. -/
theorem spellingIndependent_iff (c : NegotiationContent) :
    SpellingIndependent c ↔ ¬ c.ReadsRaw ∧ (c.ResolvesLine → c.lineId ≠ some 0) := by
  rw [← changes_agree_iff]
  constructor
  · intro independent s s'
    have same := (independent s s' serviceWorld.db.deal.odooPartnerId 4 0 serviceWorld.db).1
    obtain ⟨req, made, changes⟩ :=
      submit_changes _ 4 0 serviceWorld.db (c.spelled s) rfl (by decide)
    obtain ⟨req', made', changes'⟩ :=
      submit_changes _ 4 0 serviceWorld.db (c.spelled s') rfl (by decide)
    rw [made, made'] at same
    cases same
    exact changes.symm.trans changes'
  · intro agree s s' customerPartnerId actorUserId now db
    obtain ⟨same, ns, stores⟩ := submit_spelled customerPartnerId actorUserId now db (agree s s')
    refine ⟨same, ?_⟩
    intro σ gateway requestId actor responseMessage counterValue tables later odoo
    rw [stores]
    exact congrArg (fun result => result.2.odoo)
      (respondNegotiationRequest_withNotifications ns gateway requestId actor .accept
        responseMessage counterValue tables later { db := _, odoo })

/-- The removal of the service. -/
def demoRemoval : NegotiationContent :=
  { type := "REMOVE_LINE", lineId := some 1001 }

/-- The store once the removal is asked for, in a spelling. -/
def askedRemoval (s : Spelling) : World FakeOdoo :=
  { db := (submitNegotiationRequest 1 4 (demoRemoval.spelled s) 1 serviceWorld.db).2
    odoo := serviceWorld.odoo }

/-- The lines of an order and their quantities. -/
def FakeOdoo.qtysOf (orderId : ℤ) (s : FakeOdoo) : List (ℤ × ℚ) :=
  (s.linesOf orderId).map fun l => (l.id, l.qty)

/-- The quantities of the order once it is accepted. -/
def removedQtys (s : Spelling) : List (ℤ × ℚ) :=
  (respondNegotiationRequest fakeOdooGateway 2 salesManager .accept none none goldTables 2
    (askedRemoval s)).2.odoo.qtysOf 101

/-- Under the second names no change is recorded, and accepting the request removes nothing. -/
theorem demoRemoval_misspelled :
    (demoRemoval.spelled ⟨.type, .odooSaleOrderLineId⟩).change ≠
        (demoRemoval.spelled ⟨.requestType, .odooLineId⟩).change ∧
      removedQtys ⟨.type, .odooSaleOrderLineId⟩ = [(1001, 0)] ∧
      removedQtys ⟨.requestType, .odooLineId⟩ = [(1001, 1)] ∧
      ¬ SpellingIndependent demoRemoval := by
  have removed : removedQtys ⟨.type, .odooSaleOrderLineId⟩ = [(1001, 0)] := by decide +kernel
  have stays : removedQtys ⟨.requestType, .odooLineId⟩ = [(1001, 1)] := by decide +kernel
  refine ⟨by decide +kernel, removed, stays, fun independent => ?_⟩
  have accepted := (independent ⟨.type, .odooSaleOrderLineId⟩ ⟨.requestType, .odooLineId⟩ 1 4 1
    serviceWorld.db).2 fakeOdooGateway 2 salesManager none none goldTables 2 serviceWorld.odoo
  have same : removedQtys ⟨.type, .odooSaleOrderLineId⟩ = removedQtys ⟨.requestType, .odooLineId⟩ :=
    congrArg (FakeOdoo.qtysOf 101) accepted
  rw [removed, stays] at same
  cases same

end DealFlow
