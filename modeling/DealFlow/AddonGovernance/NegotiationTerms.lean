import DealFlow.AddonGovernance.NegotiationCalls

/-!
# The terms of a decided negotiation

`DealFlowNegotiation.write` keeps the terms of a negotiation that is approved or rejected, but its
status may be written back, and then they are open again.  The terms of what was once decided stay
along a run exactly where no write changes those of a negotiation that was reopened
(`decidedTerms_run_iff`).
-/

namespace DealFlow.Addon

open Lib

/-- The fields that a decision freezes. -/
structure NegotiationTerms where
  requestedDiscount : ℚ
  originalAmount : ℚ
  proposedAmount : ℚ
  saleOrderId : ℕ
  deriving DecidableEq, Repr

def DealFlowNegotiation.terms (rec : DealFlowNegotiation) : NegotiationTerms where
  requestedDiscount := rec.requestedDiscount
  originalAmount := rec.originalAmount
  proposedAmount := rec.proposedAmount
  saleOrderId := rec.saleOrderId

section Terms

variable (base : BaseOdoo)

/-- The negotiation was decided at one of these moments. -/
def DecidedBefore (past : List (Db × NegotiationOp)) (id : ℕ) : Prop :=
  ∃ t ∈ past, ∃ rec, t.1.negotiations.row id = some rec ∧ rec.status.decided = true

/-- The negotiation was decided at one of these moments and is open again. -/
structure Reopened (past : List (Db × NegotiationOp)) (now : Db) (id : ℕ) : Prop where
  decided : DecidedBefore past id
  undecided : ∃ rec, now.negotiations.row id = some rec ∧ rec.status.decided = false

/-- The negotiations decided at one of these moments have the terms they had there. -/
def TermsFrozen (past : List (Db × NegotiationOp)) (now : Db) : Prop :=
  ∀ t ∈ past, ∀ id rec, t.1.negotiations.row id = some rec → rec.status.decided = true →
    (now.negotiations.row id).map (·.terms) = some rec.terms

/-- A write that passes every check and gives a negotiation other terms; all it writes to are
open. -/
structure TermsChange (now : Db) (op : NegotiationOp) (ids : List ℕ) (vals : NegotiationVals)
    (id : ℕ) : Prop where
  call : op.call = .write ids vals
  status : checkStatusWriter op.env vals.status (ids.filterMap now.negotiations.row) = .ok ()
  undecided : ∀ other ∈ ids, ∃ rec, now.negotiations.row other = some rec ∧
    rec.status.decided = false
  bounded : checkRequestedDiscount vals.requestedDiscount = .ok ()
  allowed : base.check op.env (.writeNegotiations ids vals) now = .ok ()
  mem : id ∈ ids
  changes : ∀ rec, now.negotiations.row id = some rec → (rec.assign vals).terms ≠ rec.terms

variable {base} {db now : Db} {op : NegotiationOp} {past : List (Db × NegotiationOp)}

theorem assign_terms {vals : NegotiationVals} (noTerms : vals.touchesTerms = false)
    (rec : DealFlowNegotiation) : (rec.assign vals).terms = rec.terms := by
  unfold NegotiationVals.touchesTerms at noTerms
  simp only [Bool.or_eq_false_iff, Option.isSome_eq_false_iff, Option.isNone_iff_eq_none] at noTerms
  obtain ⟨⟨⟨requested, original⟩, proposed⟩, order⟩ := noTerms
  unfold DealFlowNegotiation.assign DealFlowNegotiation.terms
  rw [requested, original, proposed, order]
  rfl

/-- A call changes the terms of a negotiation by a terms change only. -/
theorem negotiationStep_terms {id : ℕ} {rec : DealFlowNegotiation}
    (row : now.negotiations.row id = some rec)
    (none : ∀ ids vals, ¬ TermsChange base now op ids vals id) :
    ((negotiationStep base op now).negotiations.row id).map (·.terms) = some rec.terms := by
  by_cases action : ∀ ids vals, op.call ≠ .write ids vals
  · let R : Db → Db → Prop := fun a b =>
      (b.negotiations.row id).map (·.terms) = (a.negotiations.row id).map (·.terms)
    have kept : R now (negotiationStep base op now) := by
      refine action_related (R := R) (fun _ => rfl) (fun _ _ _ first second => second.trans first)
        ?_ ?_ action now
      · intro db after ids vals noTerms ok
        change (after.negotiations.row id).map _ = _
        rw [writeNegotiations_ok ok, Table.row_modify]
        split
        · rw [Option.map_map]
          exact congrArg (fun f => Option.map f _) (funext (assign_terms noTerms))
        · rfl
      · intro db other state locked
        change ((governOrderOf ..).negotiations.row id).map _ = _
        rw [governOrderOf_negotiations]
    rw [kept, row, Option.map_some]
  · simp only [not_forall, not_not] at action
    obtain ⟨ids, vals, call⟩ := action
    unfold negotiationStep performNegotiation
    rw [call]
    dsimp only
    cases performed : writeNegotiations base op.env ids vals now with
    | error e => exact congrArg (Option.map _) row
    | ok after =>
        rw [writeNegotiations_ok performed]
        change ((now.negotiations.modify ids _).row id).map _ = _
        rw [Table.row_modify, row]
        split
        · next mem =>
            obtain ⟨status, terms, written⟩ := writeNegotiations_ok_iff.mp performed
            obtain ⟨present, allowed, bounded, -⟩ := superWriteNegotiations_ok_iff.mp written
            by_contra changed
            have changes : (rec.assign vals).terms ≠ rec.terms := fun same =>
              changed (congrArg some same)
            have touches : vals.touchesTerms = true := by
              by_contra not
              exact changes (assign_terms (Bool.eq_false_iff.mpr not) rec)
            refine none ids vals ⟨call, status, fun other memOther => ?_, bounded, allowed, mem, ?_⟩
            · obtain ⟨r, rowR⟩ := Option.isSome_iff_exists.mp (present other memOther)
              exact ⟨r, rowR, terms touches r (List.mem_filterMap.mpr ⟨other, memOther, rowR⟩)⟩
            · intro r rowR
              cases row.symm.trans rowR
              exact changes
        · rfl

/-- A terms change succeeds. -/
theorem TermsChange.written {ids : List ℕ} {vals : NegotiationVals} {id : ℕ}
    (c : TermsChange base now op ids vals id) :
    (negotiationStep base op now).negotiations.row id =
      (now.negotiations.row id).map (·.assign vals) := by
  have terms : vals.touchesTerms = true →
      ∀ r ∈ ids.filterMap now.negotiations.row, r.status.decided = false := by
    intro _ r memR
    obtain ⟨other, memOther, rowOther⟩ := List.mem_filterMap.mp memR
    obtain ⟨r', row', undecided⟩ := c.undecided other memOther
    cases rowOther.symm.trans row'
    exact undecided
  have present : ∀ other ∈ ids, (now.negotiations.row other).isSome = true := by
    intro other memOther
    obtain ⟨r, row, -⟩ := c.undecided other memOther
    rw [row]
    rfl
  have performed : writeNegotiations base op.env ids vals now =
      .ok { now with negotiations := now.negotiations.modify ids (·.assign vals) } :=
    writeNegotiations_ok_iff.mpr
      ⟨c.status, terms, superWriteNegotiations_ok_iff.mpr ⟨present, c.allowed, c.bounded, rfl⟩⟩
  unfold negotiationStep performNegotiation
  rw [c.call]
  dsimp only
  rw [performed]
  change (now.negotiations.modify ids _).row id = _
  rw [Table.row_modify, if_pos c.mem]

/-- One more call keeps the terms of what was decided, unless it changes the terms of something
that was reopened. -/
theorem TermsFrozen.step (frozen : TermsFrozen past now)
    (none : ∀ ids vals id, Reopened past now id → ¬ TermsChange base now op ids vals id) :
    TermsFrozen (past ++ [(now, op)]) (negotiationStep base op now) := by
  intro t mem id rec row decided
  rcases List.mem_append.mp mem with before | here
  · obtain ⟨current, currentRow, same⟩ :=
      Option.map_eq_some_iff.mp (frozen t before id rec row decided)
    rw [← same]
    exact negotiationStep_terms currentRow fun ids vals change =>
      none ids vals id ⟨⟨t, before, rec, row, decided⟩, change.undecided id change.mem⟩ change
  · cases List.mem_singleton.mp here
    refine negotiationStep_terms row fun ids vals change => ?_
    obtain ⟨r, rowR, undecided⟩ := change.undecided id change.mem
    cases row.symm.trans rowR
    rw [decided] at undecided
    cases undecided

/-- Along a run the terms of what was decided stay exactly where no write changes the terms of a
negotiation that was reopened. -/
theorem decidedTerms_run_iff (base : BaseOdoo) (ops : List NegotiationOp) (db : Db) :
    (∀ before after, ops = before ++ after →
        TermsFrozen (history (negotiationStep base) before db)
          (run (negotiationStep base) before db)) ↔
      ∀ past t later, history (negotiationStep base) ops db = past ++ t :: later →
        ∀ ids vals id, Reopened past t.1 id → ¬ TermsChange base t.1 t.2 ids vals id := by
  constructor
  · intro frozen past t later split ids vals id reopened change
    obtain ⟨before, after, rfl, rfl, state⟩ := history_split split
    obtain ⟨u, mem, rec, row, wasDecided⟩ := reopened.decided
    have atStep := frozen before (t.2 :: after) rfl u mem id rec row wasDecided
    have atNext := frozen (before ++ [t.2]) after (by simp) u
      (by rw [history_concat]; exact List.mem_append_left _ mem) id rec row wasDecided
    rw [run_concat, ← state, change.written] at atNext
    rw [← state] at atStep
    obtain ⟨current, currentRow, same⟩ := Option.map_eq_some_iff.mp atStep
    rw [currentRow] at atNext
    exact change.changes current currentRow ((Option.some.inj atNext).trans same.symm)
  · rintro none before after rfl
    have guarded : ∀ past t later, history (negotiationStep base) before db = past ++ t :: later →
        ∀ ids vals id, Reopened past t.1 id → ¬ TermsChange base t.1 t.2 ids vals id := by
      intro past t later split
      refine none past t
        (later ++ history (negotiationStep base) after (run (negotiationStep base) before db)) ?_
      rw [history_append, split, List.append_assoc, List.cons_append]
    refine run_induction
      (motive := fun past now => (∀ before t later, past = before ++ t :: later →
        ∀ ids vals id, Reopened before t.1 id → ¬ TermsChange base t.1 t.2 ids vals id) →
          TermsFrozen past now) ?_ ?_ before guarded
    · exact fun _ t mem => absurd mem List.not_mem_nil
    · intro past now op ih none
      refine (ih fun before t later split => ?_).step (none past (now, op) [] rfl)
      refine none before t (later ++ [(now, op)]) ?_
      rw [split, List.append_assoc, List.cons_append]

end Terms

/-- A sales rep. -/
def repEnv : Env := { user := Group.dealflowSalesRep.member 7 }

/-- A rep rejects a negotiation, writes its status back and then its discount. -/
def reopeningOps : List NegotiationOp :=
  [{ env := repEnv, call := .reject [1] none },
    { env := repEnv, call := .write [1] { status := some .submitted } },
    { env := repEnv, call := .write [1] { requestedDiscount := some 15 } }]

theorem decidedTerms_fails :
    ¬ ∀ before after, reopeningOps = before ++ after →
      TermsFrozen (history (negotiationStep openOdoo) before negotiatedQuote)
        (run (negotiationStep openOdoo) before negotiatedQuote) := by
  intro frozen
  have rejected : ((negotiationStep openOdoo { env := repEnv, call := .reject [1] none }
      negotiatedQuote).negotiations.row 1) =
        some { saleOrderId := 1, requestedDiscount := 10, submittedAt := 0, status := .rejected,
               reviewedBy := some 7 } := by
    decide +kernel
  have final := frozen reopeningOps [] (by simp) _ (List.mem_cons_of_mem _ List.mem_cons_self) 1 _
    rejected (by decide)
  have changed : ((run (negotiationStep openOdoo) reopeningOps negotiatedQuote).negotiations.row
      1).map (·.requestedDiscount) = some 15 := by
    decide +kernel
  obtain ⟨rec, row, same⟩ := Option.map_eq_some_iff.mp final
  rw [row] at changed
  have discount := congrArg NegotiationTerms.requestedDiscount same
  cases (Option.some.inj changed).symm.trans discount

end DealFlow.Addon
