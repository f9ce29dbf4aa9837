import DealFlow.AddonGovernance.NegotiationCalls

/-!
# Several negotiations on one order

Creating, reviewing, approving and rejecting negotiations write the one lock and the one approval
state of their order, and look at no other negotiation on it.  `LockSound` says what the two ought
to tell: an order that is approved and unlocked has no open negotiation left, and one that is
rejected was not approved in its most recent negotiation.

What an action leaves behind is `Reviewed` for the negotiations and `Governed` for the orders.  From
these two, a call keeps `LockSound` unless it decides a negotiation over the head of another
(`LooksAtSiblings`), and so does a run (`openNegotiations_run`).  A call that goes through and
decides one over another's head leaves a lock that says the wrong thing
(`looksAtSiblings_of_sound`).
-/

namespace DealFlow.Addon

open Lib

/-! ## The calls -/

inductive QuoteCall
  | create (valsList : List NegotiationVals)
  | underReview (ids : List ℕ)
  | approve (ids : List ℕ) (reviewNote : Option String)
  | reject (ids : List ℕ) (reviewNote : Option String)
  deriving DecidableEq, Repr

structure QuoteOp where
  env : Env
  call : QuoteCall
  deriving DecidableEq

section Calls

variable (base : BaseOdoo)

def performQuote (op : QuoteOp) (db : Db) : Except OdooException Db :=
  match op.call with
  | .create valsList => createNegotiations base op.env valsList db
  | .underReview ids => actionUnderReview base op.env ids db
  | .approve ids reviewNote => actionApprove base op.env ids reviewNote db
  | .reject ids reviewNote => actionReject base op.env ids reviewNote db

def quoteStep (op : QuoteOp) (db : Db) : Db :=
  settle db (performQuote base op db)

end Calls

/-! ## What lock and state tell -/

/-- The negotiation that comes first in the order of the model, `submitted_at desc, id desc`. -/
structure MostRecent (db : Db) (orderId id : ℕ) (rec : DealFlowNegotiation) : Prop where
  row : db.negotiations.row id = some rec
  order : rec.saleOrderId = orderId
  latest : ∀ other r, db.negotiations.row other = some r → r.saleOrderId = orderId →
    r.submittedAt < rec.submittedAt ∨ r.submittedAt = rec.submittedAt ∧ other ≤ id

structure LockSound (db : Db) (orderId : ℕ) (order : SaleOrder) : Prop where
  settled : order.dealflowLocked = false → order.dealflowApprovalState = .approved →
    ∀ id rec, db.negotiations.row id = some rec → rec.saleOrderId = orderId →
      rec.status.decided = true
  rejected : order.dealflowApprovalState = .rejected →
    ∀ id rec, MostRecent db orderId id rec → rec.status ≠ .approved

def LocksSound (db : Db) : Prop :=
  ∀ orderId order, db.orders.row orderId = some order → LockSound db orderId order

/-- One of these negotiations is on the order. -/
def Touches (db : Db) (ids : List ℕ) (orderId : ℕ) : Prop :=
  ∃ id ∈ ids, ∃ rec, db.negotiations.row id = some rec ∧ rec.saleOrderId = orderId

/-! ## What an action leaves behind -/

/-- What a negotiation is grouped, sorted and judged by. -/
def DealFlowNegotiation.place (rec : DealFlowNegotiation) : ℕ × ℤ × ℚ :=
  (rec.saleOrderId, rec.submittedAt, rec.requestedDiscount)

/-- These negotiations have got a status; nothing else about negotiations or lines is new. -/
structure Reviewed (db : Db) (done : List ℕ) (status : NegotiationStatus) (after : Db) : Prop where
  lines : after.lines = db.lines
  places : ∀ id, (after.negotiations.row id).map (·.place) = (db.negotiations.row id).map (·.place)
  statuses : ∀ id, (after.negotiations.row id).map (·.status) =
    (db.negotiations.row id).map fun rec => if id ∈ done then status else rec.status

/-- The user may put the order into the state. -/
def MayGovern (user : User) (db : Db) (state : AddonApprovalState) (orderId : ℕ) : Prop :=
  state = .approved → MayApprove user [orderId] db

instance (user : User) (db : Db) (state : AddonApprovalState) (orderId : ℕ) :
    Decidable (MayGovern user db state orderId) :=
  inferInstanceAs (Decidable (_ → _))

/-- The orders of these negotiations have got a state and a lock, where the user may. -/
structure Governed (user : User) (db : Db) (done : List ℕ) (state : AddonApprovalState)
    (locked : Bool) (after : Db) : Prop where
  governed : ∀ orderId, Touches db done orderId → MayGovern user db state orderId →
    ∀ order, after.orders.row orderId = some order →
      order.dealflowApprovalState = state ∧ order.dealflowLocked = locked
  others : ∀ orderId, ¬ (Touches db done orderId ∧ MayGovern user db state orderId) →
    after.orders.row orderId = db.orders.row orderId

section Actions

variable {base : BaseOdoo} {env : Env} {db now after : Db} {done ids : List ℕ} {id orderId : ℕ}
  {status : NegotiationStatus} {state : AddonApprovalState} {locked : Bool}
  {reviewNote : Option String}

theorem Reviewed.nil (db : Db) (status : NegotiationStatus) : Reviewed db [] status db where
  lines := rfl
  places _ := rfl
  statuses id := by
    cases db.negotiations.row id with
    | none => rfl
    | some rec => exact congrArg some (if_neg List.not_mem_nil).symm

theorem Governed.nil (user : User) (db : Db) (state : AddonApprovalState) (locked : Bool) :
    Governed user db [] state locked db where
  governed _ touches := by
    obtain ⟨id, mem, -⟩ := touches
    exact absurd mem List.not_mem_nil
  others _ _ := rfl

/-- One more negotiation has got the status. -/
theorem Reviewed.write {vals : NegotiationVals} (reviewed : Reviewed db done status now)
    (written : vals.status = some status) (sameOrder : vals.saleOrderId = none)
    (sameTime : vals.submittedAt = none) (sameDiscount : vals.requestedDiscount = none) :
    Reviewed db (done ++ [id]) status
      { now with negotiations := now.negotiations.modify [id] (·.assign vals) } where
  lines := reviewed.lines
  places other := by
    rw [← reviewed.places other]
    change ((now.negotiations.modify [id] _).row other).map _ = _
    rw [Table.row_modify]
    split
    · rw [Option.map_map]
      refine congrArg (fun f => Option.map f _) (funext fun rec => ?_)
      change (vals.saleOrderId.getD rec.saleOrderId, vals.submittedAt.getD rec.submittedAt,
        vals.requestedDiscount.getD rec.requestedDiscount) = _
      rw [sameOrder, sameTime, sameDiscount]
      rfl
    · rfl
  statuses other := by
    change ((now.negotiations.modify [id] _).row other).map _ = _
    rw [Table.row_modify]
    have before := reviewed.statuses other
    by_cases mem : other ∈ [id]
    · have memAll : other ∈ done ++ [id] := List.mem_append_right _ mem
      rw [if_pos mem, Option.map_map]
      simp only [memAll, if_true]
      have present := reviewed.places other
      cases row : now.negotiations.row other <;> cases old : db.negotiations.row other <;>
        rw [row, old] at present
      · rfl
      · cases present
      · cases present
      · change some (vals.status.getD _) = some status
        rw [written, Option.getD_some]
    · rw [if_neg mem, before]
      refine congrArg (fun f => Option.map f _) (funext fun rec => ?_)
      simp only [List.mem_append, mem, or_false]

theorem mayApprove_congr {user : User} (lines : after.lines = db.lines) :
    MayApprove user [orderId] after ↔ MayApprove user [orderId] db := by
  unfold MayApprove
  simp only [blendedDiscount_congr lines db]

/-- One more negotiation has governed its order. -/
theorem Governed.govern {rec : DealFlowNegotiation} {written : Db}
    (governed : Governed env.user db done state locked now)
    (row : db.negotiations.row id = some rec) (orders : written.orders = now.orders)
    (lines : written.lines = db.lines) :
    Governed env.user db (done ++ [id]) state locked
      (governOrder base env rec.saleOrderId state locked written) := by
  have rows : ∀ other,
      (governOrder base env rec.saleOrderId state locked written).orders.row other =
      if other = rec.saleOrderId ∧ MayGovern env.user db state rec.saleOrderId then
        (now.orders.row other).map (·.assign (governanceVals state locked))
      else now.orders.row other := by
    intro other
    have same : MayApprove env.user [rec.saleOrderId] written ↔
        MayApprove env.user [rec.saleOrderId] db := mayApprove_congr lines
    rw [governOrder_eq]
    by_cases allowed : MayGovern env.user db state rec.saleOrderId
    · rw [if_neg fun refused => refused.2 (same.mpr (allowed refused.1))]
      change (written.orders.modify [rec.saleOrderId] _).row other = _
      rw [Table.row_modify, orders]
      simp only [List.mem_singleton, allowed, and_true]
    · obtain ⟨approves, not⟩ := Classical.not_imp.mp allowed
      rw [if_pos ⟨approves, fun may => not (same.mp may)⟩, if_neg fun both => allowed both.2,
        orders]
  have touches : ∀ other, Touches db (done ++ [id]) other ↔
      Touches db done other ∨ other = rec.saleOrderId := by
    intro other
    constructor
    · rintro ⟨member, mem, r, rowR, on⟩
      rcases List.mem_append.mp mem with before | here
      · exact Or.inl ⟨member, before, r, rowR, on⟩
      · rw [List.mem_singleton.mp here, row] at rowR
        cases rowR
        exact Or.inr on.symm
    · rintro (⟨member, mem, rest⟩ | rfl)
      · exact ⟨member, List.mem_append_left _ mem, rest⟩
      · exact ⟨id, List.mem_append_right _ (List.mem_singleton_self id), rec, row, rfl⟩
  constructor
  · intro other touched allowed order found
    rw [rows] at found
    split at found
    · obtain ⟨before, -, rfl⟩ := Option.map_eq_some_iff.mp found
      exact ⟨rfl, rfl⟩
    · next notHere =>
        have before : Touches db done other := by
          rcases (touches other).mp touched with before | rfl
          · exact before
          · exact absurd ⟨rfl, allowed⟩ notHere
        exact governed.governed other before allowed order found
  · intro other not
    rw [touches] at not
    rw [rows, if_neg]
    · exact governed.others other fun both => not ⟨Or.inl both.1, both.2⟩
    · rintro ⟨rfl, allowed⟩
      exact not ⟨Or.inr rfl, allowed⟩

/-- The user may give these negotiations the status. -/
def MayDecide (user : User) (db : Db) (ids : List ℕ) (status : NegotiationStatus) : Prop :=
  ∀ id ∈ ids, user.isPortal = false ∧
    (status = .approved → user.isManager = true ∧ (user.isFinanceOrAdmin = true ∨
      ∀ rec, db.negotiations.row id = some rec →
        rec.requestedDiscount ≤ defaultFinanceDiscountThreshold))

/-- What a finished loop of decisions is known to have done. -/
structure Decided (user : User) (db : Db) (done : List ℕ) (status : NegotiationStatus)
    (state : AddonApprovalState) (locked : Bool) (after : Db) : Prop where
  may : MayDecide user db done status
  reviewed : Reviewed db done status after
  governed : Governed user db done state locked after

theorem Decided.nil (user : User) (db : Db) (status : NegotiationStatus)
    (state : AddonApprovalState) (locked : Bool) : Decided user db [] status state locked db where
  may _ mem := absurd mem List.not_mem_nil
  reviewed := .nil db status
  governed := .nil user db state locked

/-- One more record: the decision is written, then its order governed. -/
theorem Decided.record {written : Db} (decided : Decided env.user db done status state locked now)
    (wrote : writeNegotiations base env [id] (decisionVals env status reviewNote) now =
      .ok written) :
    Decided env.user db (done ++ [id]) status state locked
      (governOrderOf base env id state locked written) := by
  obtain ⟨checked, -, super⟩ := writeNegotiations_ok_iff.mp wrote
  obtain ⟨present, -, -, after⟩ := superWriteNegotiations_ok_iff.mp super
  obtain ⟨current, currentRow⟩ :=
    Option.isSome_iff_exists.mp (present id (List.mem_singleton_self id))
  have place := decided.reviewed.places id
  rw [currentRow] at place
  obtain ⟨rec, row, same⟩ := Option.map_eq_some_iff.mp place.symm
  have sameOrder : rec.saleOrderId = current.saleOrderId := congrArg Prod.fst same
  have sameDiscount : rec.requestedDiscount = current.requestedDiscount :=
    congrArg (fun place => place.2.2) same
  have reviewed : Reviewed db (done ++ [id]) status written := by
    rw [after]
    exact decided.reviewed.write rfl rfl rfl rfl
  have writtenRow : written.negotiations.row id =
      some (current.assign (decisionVals env status reviewNote)) := by
    rw [after]
    change (now.negotiations.modify [id] _).row id = _
    rw [Table.row_modify, if_pos (List.mem_singleton_self id), currentRow, Option.map_some]
  have governs : governOrderOf base env id state locked written =
      governOrder base env rec.saleOrderId state locked written := by
    unfold governOrderOf
    rw [writtenRow, sameOrder]
    rfl
  refine ⟨?_, ?_, ?_⟩
  · intro other mem
    rcases List.mem_append.mp mem with before | here
    · exact decided.may other before
    · rw [List.mem_singleton.mp here]
      refine ⟨checkStatusWriter_internal checked, ?_⟩
      rintro rfl
      obtain ⟨-, manager, finance | below⟩ := checkStatusWriter_approved_iff.mp checked
      · exact ⟨manager, Or.inl finance⟩
      · refine ⟨manager, Or.inr fun r rowR => ?_⟩
        cases row.symm.trans rowR
        rw [sameDiscount]
        exact below current (List.mem_filterMap.mpr ⟨id, List.mem_singleton_self id, currentRow⟩)
  · rw [governs]
    refine ⟨?_, ?_, ?_⟩
    · rw [governOrder_lines]
      exact reviewed.lines
    · rw [governOrder_negotiations]
      exact reviewed.places
    · rw [governOrder_negotiations]
      exact reviewed.statuses
  · rw [governs]
    refine decided.governed.govern row ?_ reviewed.lines
    rw [after]

theorem actionApprove_decided (ok : actionApprove base env ids reviewNote db = .ok after) :
    Decided env.user db ids .approved .approved false after := by
  obtain ⟨-, loop⟩ := require_bind_eq_ok.mp ok
  refine foldlM_ok
    (motive := fun done now => Decided env.user db done .approved .approved false now)
    loop (.nil ..) fun done id _ now next approved decided => ?_
  obtain ⟨-, approved⟩ := require_bind_eq_ok.mp approved
  obtain ⟨written, wrote, ok⟩ := bind_eq_ok.mp approved
  cases ok
  exact decided.record wrote

theorem actionReject_decided (ok : actionReject base env ids reviewNote db = .ok after) :
    Decided env.user db ids .rejected .rejected true after := by
  refine foldlM_ok (motive := fun done now => Decided env.user db done .rejected .rejected true now)
    ok (.nil ..) fun done id _ now next rejected decided => ?_
  obtain ⟨written, wrote, ok⟩ := bind_eq_ok.mp rejected
  cases ok
  exact decided.record wrote

/-- A review writes negotiations only. -/
theorem actionUnderReview_reviewed (ok : actionUnderReview base env ids db = .ok after) :
    after.orders = db.orders ∧ MayDecide env.user db ids .underReview ∧
      Reviewed db ids .underReview after := by
  refine foldlM_ok (motive := fun done now => now.orders = db.orders ∧
    MayDecide env.user db done .underReview ∧ Reviewed db done .underReview now) ok
    ⟨rfl, fun _ mem => absurd mem List.not_mem_nil, .nil ..⟩ ?_
  rintro done id - now next wrote ⟨orders, may, reviewed⟩
  obtain ⟨checked, -, -⟩ := writeNegotiations_ok_iff.mp wrote
  rw [writeNegotiations_ok wrote]
  refine ⟨orders, fun other mem => ?_, reviewed.write rfl rfl rfl rfl⟩
  rcases List.mem_append.mp mem with before | here
  · exact may other before
  · exact ⟨checkStatusWriter_internal checked, nofun⟩

/-- New negotiations on these orders, which all wait for an approval. -/
structure Created (db : Db) (orderIds : List ℕ) (after : Db) : Prop where
  kept : ∀ id rec, db.negotiations.row id = some rec → after.negotiations.row id = some rec
  new : ∀ id rec, after.negotiations.row id = some rec →
    db.negotiations.row id = some rec ∨ rec.saleOrderId ∈ orderIds
  governed : ∀ orderId ∈ orderIds, ∀ order, after.orders.row orderId = some order →
    order.dealflowApprovalState = .pendingApproval
  others : ∀ orderId, orderId ∉ orderIds → after.orders.row orderId = db.orders.row orderId

theorem superCreateNegotiation_ok {vals : NegotiationVals}
    (ok : superCreateNegotiation base env now orderId vals = .ok after) :
    ∃ rec : DealFlowNegotiation, rec.saleOrderId = orderId ∧
      after = { now with negotiations := now.negotiations.insert rec } := by
  obtain ⟨⟨⟩, -, ok⟩ := bind_eq_ok.mp ok
  obtain ⟨⟨⟩, -, ok⟩ := bind_eq_ok.mp ok
  exact ⟨_, rfl, (Except.ok.inj ok).symm⟩

variable (base env) in
/-- Governing one order after another. -/
theorem foldl_governOrder_orders (entries : List (ℕ × NegotiationVals)) (db : Db) :
    let after := entries.foldl (fun db entry =>
      governOrder base env entry.1 .pendingApproval true db) db
    after.negotiations = db.negotiations ∧
      (∀ orderId ∈ entries.map (·.1), ∀ order, after.orders.row orderId = some order →
        order.dealflowApprovalState = .pendingApproval) ∧
      ∀ orderId, orderId ∉ entries.map (·.1) →
        after.orders.row orderId = db.orders.row orderId := by
  induction entries using List.reverseRecOn with
  | nil => exact ⟨rfl, fun _ mem => absurd mem List.not_mem_nil, fun _ _ => rfl⟩
  | append_singleton entries entry ih =>
      dsimp only at ih ⊢
      rw [List.foldl_append, List.foldl_cons, List.foldl_nil]
      set before := entries.foldl (fun db entry =>
        governOrder base env entry.1 .pendingApproval true db) db
      obtain ⟨negotiations, governed, others⟩ := ih
      have rows : ∀ orderId,
          (governOrder base env entry.1 .pendingApproval true before).orders.row orderId =
            if orderId ∈ [entry.1] then
              (before.orders.row orderId).map (·.assign (governanceVals .pendingApproval true))
            else before.orders.row orderId := by
        intro orderId
        rw [governOrder_eq, if_neg fun refused => nomatch refused.1]
        exact Table.row_modify ..
      refine ⟨(governOrder_negotiations ..).trans negotiations, ?_, ?_⟩
      · intro orderId mem order found
        rw [rows] at found
        split at found
        · obtain ⟨old, -, rfl⟩ := Option.map_eq_some_iff.mp found
          rfl
        · next notHere =>
            rw [List.map_append, List.mem_append] at mem
            exact governed orderId (mem.resolve_right notHere) order found
      · intro orderId notMem
        rw [List.map_append, List.mem_append, not_or, List.map_singleton] at notMem
        rw [rows, if_neg notMem.2]
        exact others orderId notMem.1

theorem createNegotiations_created {valsList : List NegotiationVals}
    (ok : createNegotiations base env valsList db = .ok after) :
    ∃ orderIds, Created db orderIds after := by
  obtain ⟨checked, -, ok⟩ := bind_eq_ok.mp ok
  obtain ⟨created, loop, ok⟩ := bind_eq_ok.mp ok
  cases ok
  obtain ⟨orders, kept, new⟩ : created.orders = db.orders ∧
      (∀ id rec, db.negotiations.row id = some rec → created.negotiations.row id = some rec) ∧
      ∀ id rec, created.negotiations.row id = some rec →
        db.negotiations.row id = some rec ∨ rec.saleOrderId ∈ checked.map (·.1) := by
    refine foldlM_ok (motive := fun _ now => now.orders = db.orders ∧
      (∀ id rec, db.negotiations.row id = some rec → now.negotiations.row id = some rec) ∧
      ∀ id rec, now.negotiations.row id = some rec →
        db.negotiations.row id = some rec ∨ rec.saleOrderId ∈ checked.map (·.1)) loop
      ⟨rfl, fun _ _ row => row, fun _ _ => Or.inl⟩ ?_
    rintro - entry mem now next step ⟨orders, kept, new⟩
    obtain ⟨fresh, order, rfl⟩ := superCreateNegotiation_ok step
    refine ⟨orders, fun id rec row => Table.row_insert_of_some (kept id rec row) fresh, ?_⟩
    intro id rec row
    change (now.negotiations.insert fresh).row id = some rec at row
    rw [Table.row_insert] at row
    split at row
    · cases row
      exact Or.inr (order ▸ List.mem_map_of_mem mem)
    · exact new id rec row
  obtain ⟨negotiations, governed, others⟩ := foldl_governOrder_orders base env checked created
  refine ⟨checked.map (·.1), ?_, ?_, governed, ?_⟩
  · rw [negotiations]
    exact kept
  · rw [negotiations]
    exact new
  · intro orderId notMem
    rw [others orderId notMem, orders]

end Actions

/-! ## Soundness -/

/-- A call that decides no negotiation over the head of another on the same order.

* A review finds no order of its negotiations approved and unlocked.
* An approval that reaches the order decides every open negotiation on it; one that the order's
  guard stops does not approve the most recent negotiation on a rejected order.
* A rejection leaves no approval standing in the most recent negotiation on the order. -/
def LooksAtSiblings (db : Db) (op : QuoteOp) : Prop :=
  match op.call with
  | .create _ => True
  | .underReview ids => MayDecide op.env.user db ids .underReview →
      ∀ orderId, Touches db ids orderId → ∀ order, db.orders.row orderId = some order →
        ¬ (order.dealflowLocked = false ∧ order.dealflowApprovalState = .approved)
  | .approve ids _ => MayDecide op.env.user db ids .approved →
      ∀ orderId, Touches db ids orderId →
        if MayApprove op.env.user [orderId] db then
          ∀ id rec, db.negotiations.row id = some rec → rec.saleOrderId = orderId →
            rec.status.decided = false → id ∈ ids
        else db.approvalState orderId = some .rejected →
          ∀ id rec, MostRecent db orderId id rec → id ∉ ids
  | .reject ids _ => MayDecide op.env.user db ids .rejected →
      ∀ orderId, Touches db ids orderId →
        ∀ id rec, MostRecent db orderId id rec → rec.status = .approved → id ∈ ids

section Soundness

variable {base : BaseOdoo} {db after : Db} {ids : List ℕ} {status : NegotiationStatus}

/-- Where the negotiations keep their places, so does the most recent one of an order. -/
theorem MostRecent.of_places {a b : Db} {orderId id : ℕ} {rec : DealFlowNegotiation}
    (recent : MostRecent a orderId id rec)
    (places : ∀ id, (a.negotiations.row id).map (·.place) = (b.negotiations.row id).map (·.place)) :
    ∃ other, MostRecent b orderId id other := by
  have placeOf : ∀ {id rec}, b.negotiations.row id = some rec →
      ∃ r, a.negotiations.row id = some r ∧ r.place = rec.place := by
    intro id rec row
    have place := places id
    rw [row] at place
    exact Option.map_eq_some_iff.mp place
  obtain ⟨other, row, same⟩ : ∃ other, b.negotiations.row id = some other ∧
      other.place = rec.place := by
    have place := places id
    rw [recent.row] at place
    exact Option.map_eq_some_iff.mp place.symm
  have sameOrder : other.saleOrderId = rec.saleOrderId := congrArg Prod.fst same
  have sameTime : other.submittedAt = rec.submittedAt := congrArg (fun place => place.2.1) same
  refine ⟨other, row, sameOrder.trans recent.order, fun id' r rowR on => ?_⟩
  obtain ⟨r', rowR', same'⟩ := placeOf rowR
  have orderR : r'.saleOrderId = r.saleOrderId := congrArg Prod.fst same'
  have timeR : r'.submittedAt = r.submittedAt := congrArg (fun place => place.2.1) same'
  have latest := recent.latest id' r' rowR' (orderR.trans on)
  rwa [timeR, ← sameTime] at latest

theorem Reviewed.old {id : ℕ} {new : DealFlowNegotiation} (reviewed : Reviewed db ids status after)
    (row : after.negotiations.row id = some new) :
    ∃ old, db.negotiations.row id = some old ∧ old.saleOrderId = new.saleOrderId ∧
      new.status = if id ∈ ids then status else old.status := by
  have place := reviewed.places id
  have stat := reviewed.statuses id
  rw [row] at place stat
  obtain ⟨old, oldRow, same⟩ := Option.map_eq_some_iff.mp place.symm
  rw [oldRow] at stat
  exact ⟨old, oldRow, congrArg Prod.fst same, Option.some.inj stat⟩

theorem Reviewed.new {id : ℕ} {old : DealFlowNegotiation} (reviewed : Reviewed db ids status after)
    (row : db.negotiations.row id = some old) :
    ∃ new, after.negotiations.row id = some new ∧ new.saleOrderId = old.saleOrderId ∧
      new.status = if id ∈ ids then status else old.status := by
  have place := reviewed.places id
  rw [row] at place
  obtain ⟨new, newRow, same⟩ := Option.map_eq_some_iff.mp place
  obtain ⟨old', oldRow, order, stat⟩ := reviewed.old newRow
  cases row.symm.trans oldRow
  exact ⟨new, newRow, order.symm, stat⟩

/-- Reviewing changes no order of negotiations. -/
theorem Reviewed.mostRecent {orderId id : ℕ} {new : DealFlowNegotiation}
    (reviewed : Reviewed db ids status after) (recent : MostRecent after orderId id new) :
    ∃ old, MostRecent db orderId id old ∧ new.status = if id ∈ ids then status else old.status := by
  obtain ⟨old, oldRecent⟩ := recent.of_places reviewed.places
  obtain ⟨old', oldRow, -, stat⟩ := reviewed.old recent.row
  cases oldRecent.row.symm.trans oldRow
  exact ⟨old, oldRecent, stat⟩

/-- An order that a review or a decision does not reach stays sound where none of its negotiations
is among the reviewed, or they are only ever decided. -/
theorem LockSound.reviewed {orderId : ℕ} {order : SaleOrder} (sound : LockSound db orderId order)
    (reviewed : Reviewed db ids status after)
    (settled : order.dealflowLocked = false → order.dealflowApprovalState = .approved →
      Touches db ids orderId → status.decided = true)
    (rejected : order.dealflowApprovalState = .rejected → status = .approved →
      ∀ id rec, MostRecent db orderId id rec → id ∉ ids) :
    LockSound after orderId order where
  settled unlocked approved id new row on := by
    obtain ⟨old, oldRow, sameOrder, stat⟩ := reviewed.old row
    rw [stat]
    split
    · next mem => exact settled unlocked approved ⟨id, mem, old, oldRow, sameOrder.trans on⟩
    · exact sound.settled unlocked approved id old oldRow (sameOrder.trans on)
  rejected wasRejected id new recent := by
    obtain ⟨old, oldRecent, stat⟩ := reviewed.mostRecent recent
    rw [stat]
    split
    · next mem => exact fun approves => rejected wasRejected approves id old oldRecent mem
    · exact sound.rejected wasRejected id old oldRecent

theorem Decided.approved_sound {user : User} (sound : LocksSound db)
    (decided : Decided user db ids .approved .approved false after)
    (siblings : ∀ orderId, Touches db ids orderId →
      if MayApprove user [orderId] db then
        ∀ id rec, db.negotiations.row id = some rec → rec.saleOrderId = orderId →
          rec.status.decided = false → id ∈ ids
      else db.approvalState orderId = some .rejected →
        ∀ id rec, MostRecent db orderId id rec → id ∉ ids) : LocksSound after := by
  intro orderId order row
  by_cases governed : Touches db ids orderId ∧ MayGovern user db .approved orderId
  · obtain ⟨touches, may⟩ := governed
    obtain ⟨state, -⟩ := decided.governed.governed orderId touches may order row
    refine ⟨fun _ _ id new rowN on => ?_, fun rejected => nomatch state.symm.trans rejected⟩
    obtain ⟨old, oldRow, sameOrder, stat⟩ := decided.reviewed.old rowN
    rw [stat]
    split
    · rfl
    · next notMem =>
        have all := siblings orderId touches
        rw [if_pos (may rfl)] at all
        by_contra undecided
        exact notMem (all id old oldRow (sameOrder.trans on) (Bool.eq_false_iff.mpr undecided))
  · rw [decided.governed.others orderId governed] at row
    refine (sound orderId order row).reviewed decided.reviewed (fun _ _ _ => rfl) ?_
    intro rejected _ id rec recent mem
    have touches : Touches db ids orderId := ⟨id, mem, rec, recent.row, recent.order⟩
    have stopped : ¬ MayApprove user [orderId] db := fun may => governed ⟨touches, fun _ => may⟩
    have state : db.approvalState orderId = some .rejected := by
      unfold Db.approvalState
      rw [row, Option.map_some, rejected]
    have all := siblings orderId touches
    rw [if_neg stopped] at all
    exact all state id rec recent mem

theorem Decided.rejected_sound {user : User} (sound : LocksSound db)
    (decided : Decided user db ids .rejected .rejected true after)
    (siblings : ∀ orderId, Touches db ids orderId →
      ∀ id rec, MostRecent db orderId id rec → rec.status = .approved → id ∈ ids) :
    LocksSound after := by
  intro orderId order row
  by_cases touches : Touches db ids orderId
  · obtain ⟨-, locked⟩ := decided.governed.governed orderId touches nofun order row
    refine ⟨fun unlocked => (nomatch locked.symm.trans unlocked), fun _ id new recent => ?_⟩
    obtain ⟨old, oldRecent, stat⟩ := decided.reviewed.mostRecent recent
    rw [stat]
    split
    · exact nofun
    · next notMem =>
        exact fun approved => notMem (siblings orderId touches id old oldRecent approved)
  · rw [decided.governed.others orderId fun both => touches both.1] at row
    exact (sound orderId order row).reviewed decided.reviewed
      (fun _ _ touched => absurd touched touches) (fun _ => nofun)

theorem Created.sound {orderIds : List ℕ} (sound : LocksSound db)
    (created : Created db orderIds after) : LocksSound after := by
  intro orderId order row
  by_cases mem : orderId ∈ orderIds
  · have pending := created.governed orderId mem order row
    exact ⟨fun _ approved => (nomatch pending.symm.trans approved),
      fun rejected => (nomatch pending.symm.trans rejected)⟩
  · rw [created.others orderId mem] at row
    have before := sound orderId order row
    have old : ∀ id rec, after.negotiations.row id = some rec → rec.saleOrderId = orderId →
        db.negotiations.row id = some rec := by
      intro id rec rowN on
      exact (created.new id rec rowN).resolve_right fun here => mem (on ▸ here)
    refine ⟨fun unlocked approved id rec rowN on => ?_, fun rejected id rec recent => ?_⟩
    · exact before.settled unlocked approved id rec (old id rec rowN on) on
    · refine before.rejected rejected id rec ⟨old id rec recent.row recent.order, recent.order, ?_⟩
      exact fun other r rowR on => recent.latest other r (created.kept other r rowR) on

/-- A call that looks at the siblings of what it decides keeps every lock sound. -/
theorem quoteStep_sound {op : QuoteOp} (sound : LocksSound db) (siblings : LooksAtSiblings db op) :
    LocksSound (quoteStep base op db) := by
  unfold quoteStep
  cases performed : performQuote base op db with
  | error e => exact sound
  | ok after =>
      change LocksSound after
      obtain ⟨env, call⟩ := op
      cases call with
      | create valsList =>
          obtain ⟨orderIds, created⟩ := createNegotiations_created performed
          exact created.sound sound
      | underReview ids =>
          obtain ⟨orders, may, reviewed⟩ := actionUnderReview_reviewed performed
          intro orderId order row
          rw [orders] at row
          refine (sound orderId order row).reviewed reviewed ?_ fun _ => nofun
          intro unlocked approved touches
          exact absurd ⟨unlocked, approved⟩ (siblings may orderId touches order row)
      | approve ids reviewNote =>
          have decided := actionApprove_decided performed
          exact decided.approved_sound sound (siblings decided.may)
      | reject ids reviewNote =>
          have decided := actionReject_decided performed
          exact decided.rejected_sound sound (siblings decided.may)

/-- Along a run whose calls look at the siblings of what they decide, every lock stays sound. -/
theorem openNegotiations_run (base : BaseOdoo) {db : Db} (sound : LocksSound db)
    (ops : List QuoteOp)
    (siblings : ∀ t ∈ history (quoteStep base) ops db, LooksAtSiblings t.1 t.2) :
    (∀ t ∈ history (quoteStep base) ops db, LocksSound t.1) ∧
      LocksSound (run (quoteStep base) ops db) :=
  run_guarded LocksSound LooksAtSiblings sound (fun _ _ guard kept => quoteStep_sound kept guard)
    ops siblings

/-! ## The other way round -/

/-- Every negotiation is on an order that is there. -/
def Placed (db : Db) : Prop :=
  ∀ id rec, db.negotiations.row id = some rec → (db.orders.row rec.saleOrderId).isSome = true

theorem governOrderOf_isSome {env : Env} (id orderId : ℕ) (state : AddonApprovalState)
    (locked : Bool) (db : Db) :
    ((governOrderOf base env id state locked db).orders.row orderId).isSome =
      (db.orders.row orderId).isSome := by
  unfold governOrderOf
  split
  · rfl
  · rw [governOrder_eq]
    split
    · rfl
    · change ((db.orders.modify _ _).row orderId).isSome = _
      rw [Table.row_modify]
      split
      · exact Option.isSome_map
      · rfl

variable (base) in
/-- The actions on negotiations keep the orders there are. -/
theorem action_orders {op : NegotiationOp} (action : ∀ ids vals, op.call ≠ .write ids vals)
    (db : Db) :
    ∀ orderId, ((negotiationStep base op db).orders.row orderId).isSome =
      (db.orders.row orderId).isSome := by
  refine action_related
    (R := fun a b => ∀ orderId, (b.orders.row orderId).isSome = (a.orders.row orderId).isSome)
    (fun _ _ => rfl) (fun _ _ _ first second orderId => (second orderId).trans (first orderId))
    ?_ ?_ action db
  · intro db after ids vals _ ok orderId
    rw [writeNegotiations_ok ok]
  · exact fun db id state locked orderId => governOrderOf_isSome id orderId state locked db

theorem Placed.touched {env : Env} {call : NegotiationCall} {orderId : ℕ} (placed : Placed db)
    (ok : performNegotiation base { env, call } db = .ok after)
    (action : ∀ ids vals, call ≠ .write ids vals) (touches : Touches db ids orderId) :
    ∃ order, after.orders.row orderId = some order := by
  obtain ⟨id, -, rec, row, rfl⟩ := touches
  have kept := @action_orders base { env, call } action db rec.saleOrderId
  unfold negotiationStep at kept
  rw [ok, placed id rec row] at kept
  exact Option.isSome_iff_exists.mp kept

/-- A call that goes through and leaves every lock sound has looked at the siblings of what it
decides. -/
theorem looksAtSiblings_of_sound {op : QuoteOp} (placed : Placed db)
    (ok : performQuote base op db = .ok after) (sound : LocksSound after) :
    LooksAtSiblings db op := by
  obtain ⟨env, call⟩ := op
  cases call with
  | create valsList => trivial
  | underReview ids =>
      obtain ⟨orders, -, reviewed⟩ := actionUnderReview_reviewed ok
      rintro - orderId ⟨id, mem, rec, row, on⟩ order orderRow ⟨unlocked, approved⟩
      obtain ⟨new, newRow, sameOrder, stat⟩ := reviewed.new row
      rw [← orders] at orderRow
      have decided := (sound orderId order orderRow).settled unlocked approved id new newRow
        (sameOrder.trans on)
      rw [stat, if_pos mem] at decided
      cases decided
  | approve ids reviewNote =>
      have decided := actionApprove_decided ok
      have performed : performNegotiation base { env, call := .approve ids reviewNote } db =
        .ok after := ok
      intro _ orderId touches
      obtain ⟨order, orderRow⟩ := placed.touched performed (fun _ _ => nofun) touches
      split
      · next may =>
          intro id rec row on undecided
          by_contra notMem
          obtain ⟨state, unlocked⟩ :=
            decided.governed.governed orderId touches (fun _ => may) order orderRow
          obtain ⟨new, newRow, sameOrder, stat⟩ := decided.reviewed.new row
          have still := (sound orderId order orderRow).settled unlocked state id new newRow
            (sameOrder.trans on)
          rw [stat, if_neg notMem, undecided] at still
          cases still
      · next stopped =>
          intro rejected id rec recent mem
          have same := decided.governed.others orderId fun both => stopped (both.2 rfl)
          unfold Db.approvalState at rejected
          rw [← same, orderRow, Option.map_some, Option.some.injEq] at rejected
          obtain ⟨new, newRecent⟩ :=
            recent.of_places fun id => (decided.reviewed.places id).symm
          obtain ⟨old, -, -, stat⟩ := decided.reviewed.old newRecent.row
          rw [if_pos mem] at stat
          exact (sound orderId order orderRow).rejected rejected id new newRecent stat
  | reject ids reviewNote =>
      have decided := actionReject_decided ok
      have performed : performNegotiation base { env, call := .reject ids reviewNote } db =
        .ok after := ok
      intro _ orderId touches id rec recent approved
      obtain ⟨order, orderRow⟩ := placed.touched performed (fun _ _ => nofun) touches
      by_contra notMem
      obtain ⟨state, -⟩ := decided.governed.governed orderId touches nofun order orderRow
      obtain ⟨new, newRecent⟩ := recent.of_places fun id => (decided.reviewed.places id).symm
      obtain ⟨old, oldRow, -, stat⟩ := decided.reviewed.old newRecent.row
      cases recent.row.symm.trans oldRow
      rw [if_neg notMem, approved] at stat
      exact (sound orderId order orderRow).rejected state id new newRecent stat

end Soundness

/-- A draft order without negotiations. -/
def freshQuote : Db where
  orders := Table.empty.insert { name := "S00001", partner := { id := 3 } }
  lines := Table.empty
  negotiations := Table.empty

theorem freshQuote_sound : LocksSound freshQuote := by
  have noNegotiation : ∀ id rec, freshQuote.negotiations.row id ≠ some rec := fun _ _ => nofun
  exact fun _ _ _ => ⟨fun _ _ id rec row => absurd row (noNegotiation id rec),
    fun _ id rec recent => absurd recent.row (noNegotiation id rec)⟩

def createOp (discounts : List ℚ) : QuoteOp where
  env := { user := Group.dealflowSalesRep.member 7 }
  call := .create (discounts.map fun discount =>
    { saleOrderId := some 1, requestedDiscount := some discount })

def approveOp : QuoteOp where
  env := { user := Group.dealflowSalesManager.member 5 }
  call := .approve [1] none

/-- The only negotiation on its order is approved. -/
theorem freshQuote_run :
    (∀ t ∈ history (quoteStep openOdoo) [createOp [5], approveOp] freshQuote, LocksSound t.1) ∧
      LocksSound (run (quoteStep openOdoo) [createOp [5], approveOp] freshQuote) := by
  refine openNegotiations_run openOdoo freshQuote_sound [createOp [5], approveOp] ?_
  set created := quoteStep openOdoo (createOp [5]) freshQuote with createdDef
  have one : ∀ id rec, created.negotiations.row id = some rec → id ∈ [1] := by
    intro id rec row
    have below : id < 2 := by
      have bound : created.negotiations.next = 2 := by decide +kernel
      exact bound ▸ Table.lt_next row
    have positive : id ≠ 0 := by
      rintro rfl
      have none : created.negotiations.row 0 = none := by decide +kernel
      exact nomatch none.symm.trans row
    rw [List.mem_singleton]
    omega
  have notRejected : created.approvalState 1 ≠ some .rejected := by decide +kernel
  intro t mem
  rcases List.mem_cons.mp mem with rfl | mem
  · trivial
  · rw [List.mem_singleton.mp mem]
    rintro - orderId ⟨id, memId, rec, row, on⟩
    split
    · exact fun other r rowR _ _ => one other r rowR
    · have first : (created.negotiations.row 1).map (·.saleOrderId) = some 1 := by decide +kernel
      rw [List.mem_singleton.mp memId] at row
      rw [row, Option.map_some, on] at first
      rw [Option.some.inj first]
      exact fun rejected => absurd rejected notRejected

/-- Of two negotiations one is approved: the order is unlocked with the other still open. -/
theorem openNegotiations_fails :
    ¬ LocksSound (run (quoteStep openOdoo) [createOp [5, 8], approveOp] freshQuote) := by
  intro sound
  have unlocked : ((run (quoteStep openOdoo) [createOp [5, 8], approveOp] freshQuote).orders.row
      1).map (fun order => (order.dealflowLocked, order.dealflowApprovalState)) =
        some (false, .approved) := by
    decide +kernel
  have isOpen : ((run (quoteStep openOdoo) [createOp [5, 8], approveOp] freshQuote).negotiations.row
      2).map (fun rec => (rec.saleOrderId, rec.status)) = some (1, .submitted) := by
    decide +kernel
  obtain ⟨order, row, fields⟩ := Option.map_eq_some_iff.mp unlocked
  obtain ⟨rec, recRow, place⟩ := Option.map_eq_some_iff.mp isOpen
  have decided := (sound 1 order row).settled (congrArg Prod.fst fields) (congrArg Prod.snd fields)
    2 rec recRow (congrArg Prod.fst place)
  rw [show rec.status = .submitted from congrArg Prod.snd place] at decided
  cases decided

end DealFlow.Addon
