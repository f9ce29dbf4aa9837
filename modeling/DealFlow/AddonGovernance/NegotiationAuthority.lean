import DealFlow.AddonGovernance.NegotiationCalls

/-!
# Who approves a negotiation

A negotiation may be approved by a manager, and above the finance threshold by finance or an admin
only.  The guards of `write` and of `action_approve` compare the threshold with the discount the
negotiation has, not with the one that the same write puts there.  So a manager goes past them with
one write of both (`EscalatingWrite`), and in no other way: `approvesWithAuthority_iff` for a call,
`negotiationAuthority_run_iff` for a run.
-/

namespace DealFlow.Addon

open Lib

section Authority

variable (base : BaseOdoo)

/-- A user who may approve a negotiation of a discount. -/
structure HasAuthority (user : User) (discount : ℚ) : Prop where
  manager : user.isManager = true
  finance : defaultFinanceDiscountThreshold < discount → user.isFinanceOrAdmin = true

/-- A negotiation that the call turns into an approved one has an approver with the authority for
the discount it then asks for. -/
def ApprovesWithAuthority (db : Db) (op : NegotiationOp) : Prop :=
  ∀ id before after, db.negotiations.row id = some before → before.status ≠ .approved →
    (negotiationStep base op db).negotiations.row id = some after → after.status = .approved →
      HasAuthority op.env.user after.requestedDiscount

/-- One write approves negotiations up to the threshold and lifts their discount above it, by a
manager who is neither finance nor an admin. -/
structure EscalatingWrite (db : Db) (op : NegotiationOp) (ids : List ℕ) (vals : NegotiationVals)
    (discount : ℚ) : Prop where
  call : op.call = .write ids vals
  status : vals.status = some .approved
  requested : vals.requestedDiscount = some discount
  above : defaultFinanceDiscountThreshold < discount
  bounded : discount ≤ 100
  internal : op.env.user.isPortal = false
  manager : op.env.user.isManager = true
  notFinance : op.env.user.isFinanceOrAdmin = false
  nonempty : ids ≠ []
  records : ∀ id ∈ ids, ∃ rec, db.negotiations.row id = some rec ∧ rec.status.decided = false ∧
    rec.requestedDiscount ≤ defaultFinanceDiscountThreshold
  allowed : base.check op.env (.writeNegotiations ids vals) db = .ok ()

/-- No discount changes, and what is newly approved was approved with authority. -/
def ApprovedBy (user : User) (before after : Db) : Prop :=
  ∀ id new, after.negotiations.row id = some new →
    ∃ old, before.negotiations.row id = some old ∧
      new.requestedDiscount = old.requestedDiscount ∧
      (new.status = .approved → old.status = .approved ∨ HasAuthority user old.requestedDiscount)

variable {base} {user : User} {env : Env} {ids : List ℕ} {vals : NegotiationVals} {db after : Db}

theorem ApprovedBy.refl (db : Db) : ApprovedBy user db db :=
  fun _ new row => ⟨new, row, rfl, Or.inl⟩

theorem ApprovedBy.trans {a b c : Db} (first : ApprovedBy user a b) (second : ApprovedBy user b c) :
    ApprovedBy user a c := by
  intro id new row
  obtain ⟨mid, midRow, midDiscount, midApproved⟩ := second id new row
  obtain ⟨old, oldRow, oldDiscount, oldApproved⟩ := first id mid midRow
  refine ⟨old, oldRow, midDiscount.trans oldDiscount, fun approved => ?_⟩
  rcases midApproved approved with was | authority
  · exact oldApproved was
  · exact Or.inr (oldDiscount ▸ authority)

/-- A write that leaves the discount alone. -/
theorem writeNegotiations_approvedBy (ok : writeNegotiations base env ids vals db = .ok after)
    (noDiscount : vals.requestedDiscount = none) : ApprovedBy env.user db after := by
  obtain ⟨status, -, -⟩ := writeNegotiations_ok_iff.mp ok
  rw [writeNegotiations_ok ok]
  intro id new row
  rw [Table.row_modify] at row
  split at row
  · next mem =>
      obtain ⟨old, oldRow, rfl⟩ := Option.map_eq_some_iff.mp row
      have discount : (old.assign vals).requestedDiscount = old.requestedDiscount := by
        rw [DealFlowNegotiation.assign_requestedDiscount, noDiscount, Option.getD_none]
      refine ⟨old, oldRow, discount, fun approved => ?_⟩
      rw [DealFlowNegotiation.assign_status] at approved
      cases written : vals.status with
      | none =>
          rw [written] at approved
          exact Or.inl approved
      | some target =>
          rw [written] at approved status
          cases approved
          obtain ⟨-, manager, finance | below⟩ := checkStatusWriter_approved_iff.mp status
          · exact Or.inr ⟨manager, fun _ => finance⟩
          · have within := below old (List.mem_filterMap.mpr ⟨id, mem, oldRow⟩)
            exact Or.inr ⟨manager, fun above => absurd within above.not_ge⟩
  · exact ⟨new, row, rfl, Or.inl⟩

/-- Every call but a write approves with authority. -/
theorem action_approvedBy {op : NegotiationOp} (action : ∀ ids vals, op.call ≠ .write ids vals) :
    ApprovedBy op.env.user db (negotiationStep base op db) := by
  refine action_related .refl (fun _ _ _ => .trans) ?_ ?_ action db
  · intro db after ids vals noTerms ok
    exact writeNegotiations_approvedBy ok (requestedDiscount_of_not_touchesTerms noTerms)
  · intro db id state locked other new row
    rw [governOrderOf_negotiations] at row
    exact ApprovedBy.refl db other new row

/-- What a write approves above the threshold, it approves without authority. -/
theorem EscalatingWrite.without_authority {op : NegotiationOp} {discount : ℚ}
    (w : EscalatingWrite base db op ids vals discount) : ¬ ApprovesWithAuthority base db op := by
  intro authority
  obtain ⟨id, mem⟩ := List.exists_mem_of_ne_nil ids w.nonempty
  obtain ⟨rec, row, undecided, -⟩ := w.records id mem
  have status : checkStatusWriter op.env vals.status (ids.filterMap db.negotiations.row) =
      .ok () := by
    rw [w.status]
    refine checkStatusWriter_approved_iff.mpr ⟨w.internal, w.manager, Or.inr fun r memR => ?_⟩
    obtain ⟨other, memOther, rowOther⟩ := List.mem_filterMap.mp memR
    obtain ⟨r', row', -, below⟩ := w.records other memOther
    cases rowOther.symm.trans row'
    exact below
  have terms : vals.touchesTerms = true →
      ∀ r ∈ ids.filterMap db.negotiations.row, r.status.decided = false := by
    intro _ r memR
    obtain ⟨other, memOther, rowOther⟩ := List.mem_filterMap.mp memR
    obtain ⟨r', row', undecided', -⟩ := w.records other memOther
    cases rowOther.symm.trans row'
    exact undecided'
  have present : ∀ other ∈ ids, (db.negotiations.row other).isSome = true := by
    intro other memOther
    obtain ⟨r', row', -⟩ := w.records other memOther
    rw [row']
    rfl
  have bounds : checkRequestedDiscount vals.requestedDiscount = .ok () := by
    have positive : (0 : ℚ) ≤ defaultFinanceDiscountThreshold := by
      norm_num [defaultFinanceDiscountThreshold]
    rw [w.requested]
    exact require_eq_ok.mpr ⟨positive.trans w.above.le, w.bounded⟩
  have written : writeNegotiations base op.env ids vals db =
      .ok { db with negotiations := db.negotiations.modify ids (·.assign vals) } :=
    writeNegotiations_ok_iff.mpr
      ⟨status, terms, superWriteNegotiations_ok_iff.mpr ⟨present, w.allowed, bounds, rfl⟩⟩
  have after : (negotiationStep base op db).negotiations.row id = some (rec.assign vals) := by
    unfold negotiationStep performNegotiation
    rw [w.call]
    dsimp only
    rw [written]
    change (db.negotiations.modify ids _).row id = _
    rw [Table.row_modify, if_pos mem, row, Option.map_some]
  have approved : (rec.assign vals).status = .approved := by
    rw [DealFlowNegotiation.assign_status, w.status, Option.getD_some]
  have discount' : (rec.assign vals).requestedDiscount = discount := by
    rw [DealFlowNegotiation.assign_requestedDiscount, w.requested, Option.getD_some]
  have notApproved : rec.status ≠ .approved := by
    intro eq
    rw [eq] at undecided
    cases undecided
  have finance := (authority id rec _ row notApproved after approved).finance
  rw [discount', w.notFinance] at finance
  exact absurd (finance w.above) nofun

/-- A write that approves a negotiation without authority lifts its discount itself. -/
theorem escalatingWrite_of_approval {op : NegotiationOp} {id : ℕ}
    {rec : DealFlowNegotiation} (call : op.call = .write ids vals)
    (ok : writeNegotiations base op.env ids vals db = .ok after) (mem : id ∈ ids)
    (row : db.negotiations.row id = some rec) (notApproved : rec.status ≠ .approved)
    (approved : (rec.assign vals).status = .approved)
    (unauthorised : ¬ HasAuthority op.env.user (rec.assign vals).requestedDiscount) :
    ∃ discount, EscalatingWrite base db op ids vals discount := by
  obtain ⟨status, terms, written⟩ := writeNegotiations_ok_iff.mp ok
  obtain ⟨present, allowed, bounds, -⟩ := superWriteNegotiations_ok_iff.mp written
  have target : vals.status = some .approved := by
    rw [DealFlowNegotiation.assign_status] at approved
    cases statusVal : vals.status with
    | none =>
        rw [statusVal] at approved
        exact absurd approved notApproved
    | some s =>
        rw [statusVal] at approved
        exact congrArg some approved
  rw [target] at status
  obtain ⟨internal, manager, finance⟩ := checkStatusWriter_approved_iff.mp status
  have notFinance : op.env.user.isFinanceOrAdmin = false :=
    Bool.eq_false_iff.mpr fun fin => unauthorised ⟨manager, fun _ => fin⟩
  have below : ∀ r ∈ ids.filterMap db.negotiations.row,
      r.requestedDiscount ≤ defaultFinanceDiscountThreshold :=
    finance.resolve_left (by rw [notFinance]; exact nofun)
  have above : defaultFinanceDiscountThreshold < (rec.assign vals).requestedDiscount :=
    not_le.mp fun within => unauthorised ⟨manager, fun above => absurd within above.not_ge⟩
  cases requested : vals.requestedDiscount with
  | none =>
      rw [DealFlowNegotiation.assign_requestedDiscount, requested, Option.getD_none] at above
      exact absurd (below rec (List.mem_filterMap.mpr ⟨id, mem, row⟩)) above.not_ge
  | some discount =>
      rw [DealFlowNegotiation.assign_requestedDiscount, requested, Option.getD_some] at above
      have touches : vals.touchesTerms = true := by
        unfold NegotiationVals.touchesTerms
        rw [requested]
        rfl
      rw [requested] at bounds
      refine ⟨discount, call, target, requested, above, (require_eq_ok.mp bounds).2, internal,
        manager, notFinance, List.ne_nil_of_mem mem, fun other memOther => ?_, allowed⟩
      obtain ⟨r, rowR⟩ := Option.isSome_iff_exists.mp (present other memOther)
      have found : r ∈ ids.filterMap db.negotiations.row :=
        List.mem_filterMap.mpr ⟨other, memOther, rowR⟩
      exact ⟨r, rowR, terms touches r found, below r found⟩

/-- A call approves with authority unless it is an escalating write. -/
theorem approvesWithAuthority_iff (db : Db) (op : NegotiationOp) :
    ApprovesWithAuthority base db op ↔
      ∀ ids vals discount, ¬ EscalatingWrite base db op ids vals discount := by
  refine ⟨fun authority ids vals discount w => w.without_authority authority, fun none => ?_⟩
  intro id rec new row notApproved newRow approved
  by_cases action : ∀ ids vals, op.call ≠ .write ids vals
  · obtain ⟨old, oldRow, same, authority⟩ := action_approvedBy action id new newRow
    cases row.symm.trans oldRow
    exact same ▸ (authority approved).resolve_left notApproved
  · simp only [not_forall, not_not] at action
    obtain ⟨ids, vals, call⟩ := action
    unfold negotiationStep performNegotiation at newRow
    rw [call] at newRow
    dsimp only at newRow
    cases performed : writeNegotiations base op.env ids vals db with
    | error e =>
        rw [performed] at newRow
        cases row.symm.trans newRow
        exact absurd approved notApproved
    | ok after =>
        rw [performed, writeNegotiations_ok performed] at newRow
        change (db.negotiations.modify ids _).row id = _ at newRow
        rw [Table.row_modify, row] at newRow
        split at newRow
        · next mem =>
            cases newRow
            by_contra unauthorised
            obtain ⟨discount, w⟩ := escalatingWrite_of_approval call performed mem row notApproved
              approved unauthorised
            exact none ids vals discount w
        · cases newRow
          exact absurd approved notApproved

/-- In a run every approval is made with authority exactly where no call is an escalating write. -/
theorem negotiationAuthority_run_iff (base : BaseOdoo) (ops : List NegotiationOp) (db : Db) :
    (∀ t ∈ history (negotiationStep base) ops db, ApprovesWithAuthority base t.1 t.2) ↔
      ∀ t ∈ history (negotiationStep base) ops db,
        ∀ ids vals discount, ¬ EscalatingWrite base t.1 t.2 ids vals discount :=
  forall₂_congr fun t _ => approvesWithAuthority_iff t.1 t.2

end Authority

/-- A manager approves a negotiation of ten percent and writes fifty, at once. -/
def escalatingOp : NegotiationOp where
  env := { user := Group.dealflowSalesManager.member 5 }
  call := .write [1] { status := some .approved, requestedDiscount := some 50 }

theorem negotiationAuthority_fails :
    ¬ ∀ t ∈ history (negotiationStep openOdoo) [escalatingOp] negotiatedQuote,
      ApprovesWithAuthority openOdoo t.1 t.2 := by
  intro all
  have escalates : EscalatingWrite openOdoo negotiatedQuote escalatingOp [1]
      { status := some .approved, requestedDiscount := some 50 } 50 :=
    { call := rfl
      status := rfl
      requested := rfl
      above := by decide +kernel
      bounded := by decide +kernel
      internal := by decide
      manager := by decide
      notFinance := by decide
      nonempty := by decide
      records := by
        intro id mem
        rw [List.mem_singleton.mp mem]
        exact ⟨_, rfl, rfl, by decide +kernel⟩
      allowed := rfl }
  exact escalates.without_authority (all (negotiatedQuote, escalatingOp) List.mem_cons_self)

end DealFlow.Addon
