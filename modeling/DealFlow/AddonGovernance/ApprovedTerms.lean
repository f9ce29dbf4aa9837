import DealFlow.AddonGovernance.LineCommands
import DealFlow.Lib.Run

/-!
# The lines of an approved order

`SaleOrder.write` and `SaleOrderLine.write` put an approved order back to a new approval when they
recognise a change of its lines.  An `Audited` database remembers the lines each order was last
approved with; they are those of every order still approved, along every run whose calls recognise
the changes they make (`approvedTerms_run`).

A change that is not recognised breaks this (`UnrecognisedChange.breaks`): a line linked to the
order, a list of lines set or cleared in short, a line created or written with none of the three
keys, a discount written that the line was once approved with, or a command of another order.
-/

namespace DealFlow.Addon

open Lib

/-! ## The terms of lines -/

structure LineTerms where
  productId : Option Product
  productUomQty : ℚ
  priceUnit : ℚ
  discount : ℚ
  dealflowIsRecurring : Bool
  dealflowRecurringInterval : Option RecurringInterval
  deriving DecidableEq, Repr

def SaleOrderLine.terms (line : SaleOrderLine) : LineTerms where
  productId := line.productId
  productUomQty := line.productUomQty
  priceUnit := line.priceUnit
  discount := line.discount
  dealflowIsRecurring := line.dealflowIsRecurring
  dealflowRecurringInterval := line.dealflowRecurringInterval

/-- The lines of an order by their ids, with their terms. -/
def lineTerms (lines : Table SaleOrderLine) (orderId : ℕ) : ℕ → Option LineTerms := fun id =>
  ((lines.row id).filter (·.orderId = orderId)).map (·.terms)

/-! ## The calls -/

inductive TermsCall
  | writeOrders (ids : List ℕ) (vals : SaleOrderVals)
  | writeLines (ids : List ℕ) (vals : LineVals)
  deriving DecidableEq, Repr

/-- A write without the context that skips the new approval. -/
structure TermsOp where
  env : Env
  noSkip : env.skipReapproval = false
  call : TermsCall

/-- The call is an approval of the order. -/
def TermsCall.approves (orderId : ℕ) : TermsCall → Bool
  | .writeOrders ids vals => orderId ∈ ids && vals.dealflowApprovalState = some .approved
  | .writeLines _ _ => false

section Calls

variable (base : BaseOdoo)

def performTerms (op : TermsOp) (db : Db) : Except OdooException Db :=
  match op.call with
  | .writeOrders ids vals => writeOrders base op.env ids vals db
  | .writeLines ids vals => writeLines base op.env ids vals db

/-- A database with the lines that each order was last approved with. -/
structure Audited where
  db : Db
  approvedTerms : ℕ → ℕ → Option LineTerms

/-- What is approved at the start is so with the lines it has. -/
def Audited.start (db : Db) : Audited where
  db := db
  approvedTerms := lineTerms db.lines

def auditedStep (op : TermsOp) (s : Audited) : Audited :=
  match performTerms base op s.db with
  | .error _ => s
  | .ok after =>
      { db := after
        approvedTerms := fun orderId =>
          if op.call.approves orderId then lineTerms after.lines orderId
          else s.approvedTerms orderId }

/-- Every approved order has the lines it was last approved with. -/
def Intact (s : Audited) : Prop :=
  ∀ orderId, s.db.approvalState orderId = some .approved →
    lineTerms s.db.lines orderId = s.approvedTerms orderId

/-! ## What a call recognises -/

/-- The lines after the call. -/
def TermsCall.linesAfter (lines : Table SaleOrderLine) : TermsCall → Table SaleOrderLine
  | .writeOrders ids vals => commandsAfter base ids vals.commands lines
  | .writeLines ids vals => lines.modify ids (·.assign base vals)

/-- The call asks for a new approval of the order, were it approved: by its own values, or by those
of a line command. -/
def TermsCall.recognises (db : Db) (orderId : ℕ) : TermsCall → Bool
  | .writeOrders ids vals =>
      commandsReapprove base ids orderId vals.commands db.lines ||
        (orderId ∈ ids && (vals.termsModified || vals.listedCommands.any (·.modifiesLines)))
  | .writeLines ids vals => linesReapprove ids vals db.lines orderId

/-- The call writes another state to the order. -/
def TermsCall.restates (orderId : ℕ) : TermsCall → Bool
  | .writeOrders ids vals => orderId ∈ ids && vals.dealflowApprovalState.any (· ≠ .approved)
  | .writeLines _ _ => false

/-- A change of an approved order's lines that goes unrecognised, in a call that neither approves
the order nor takes its approval. -/
structure UnrecognisedChange (db : Db) (call : TermsCall) (orderId : ℕ) : Prop where
  approved : db.approvalState orderId = some .approved
  notAnew : call.approves orderId = false
  notTaken : call.restates orderId = false
  unrecognised : call.recognises base db orderId = false
  changed : lineTerms (call.linesAfter base db.lines) orderId ≠ lineTerms db.lines orderId

variable {base} {op : TermsOp} {db after : Db} {orderId : ℕ}

theorem performTerms_lines (ok : performTerms base op db = .ok after) :
    after.lines = op.call.linesAfter base db.lines := by
  obtain ⟨env, noSkip, call⟩ := op
  cases call with
  | writeOrders ids vals => exact writeOrders_lines ok
  | writeLines ids vals => exact congrArg Db.lines (writeLines_ok ok)

theorem writtenState_approved_iff {ids : List ℕ} {vals : SaleOrderVals}
    (notAnew : (TermsCall.writeOrders ids vals).approves orderId = false) :
    writtenState ids vals db orderId = some .approved ↔
      db.approvalState orderId = some .approved ∧
        (TermsCall.writeOrders ids vals).restates orderId = false := by
  unfold TermsCall.approves at notAnew
  unfold writtenState TermsCall.restates
  dsimp only at notAnew ⊢
  by_cases mem : orderId ∈ ids
  · rw [decide_eq_true mem, Bool.true_and] at notAnew ⊢
    rw [if_pos mem]
    cases value : vals.dealflowApprovalState with
    | none =>
        change (db.approvalState orderId).map (fun state => state) = _ ↔ _
        rw [Option.map_id']
        exact (and_iff_left rfl).symm
    | some state =>
        rw [value] at notAnew
        have other : state ≠ .approved := fun eq =>
          of_decide_eq_false notAnew (congrArg some eq)
        refine iff_of_false (fun written => ?_) fun both => ?_
        · obtain ⟨_, -, eq⟩ := Option.map_eq_some_iff.mp written
          exact other eq
        · exact of_decide_eq_false both.2 other
  · rw [if_neg mem, decide_eq_false mem, Bool.false_and]
    exact (and_iff_left rfl).symm

theorem not_mem_ordersToReapprove_iff {ids : List ℕ} {vals : SaleOrderVals}
    (approved : db.approvalState orderId = some .approved) :
    orderId ∉ ordersToReapprove ids vals db ↔
      (orderId ∈ ids && (vals.termsModified || vals.listedCommands.any (·.modifiesLines))) =
        false := by
  unfold ordersToReapprove
  split
  · next modified =>
      rw [modified, Bool.and_true, decide_eq_false_iff_not, List.mem_filter]
      exact not_congr (and_iff_left (decide_eq_true approved))
  · next notModified =>
      rw [Bool.eq_false_iff.mpr notModified, Bool.and_false]
      exact iff_of_true List.not_mem_nil rfl

/-- Unless the call approves it, an order is approved after a call where it was before, the call
gives it no other state and does not ask for a new approval. -/
theorem performTerms_approved_iff (ok : performTerms base op db = .ok after)
    (notAnew : op.call.approves orderId = false) :
    after.approvalState orderId = some .approved ↔
      db.approvalState orderId = some .approved ∧ op.call.restates orderId = false ∧
        op.call.recognises base db orderId = false := by
  obtain ⟨env, noSkip, call⟩ := op
  cases call with
  | writeOrders ids vals =>
      rw [writeOrders_approved_iff ok, writtenState_approved_iff notAnew, and_assoc]
      refine and_congr_right fun approved => and_congr_right fun _ => ?_
      unfold TermsCall.recognises
      rw [Bool.or_eq_false_iff, not_mem_ordersToReapprove_iff approved]
      exact ⟨fun kept => kept noSkip, fun kept _ => kept⟩
  | writeLines ids vals =>
      rw [writeLines_approved_iff ok]
      refine and_congr_right fun _ => ?_
      exact ⟨fun kept => ⟨rfl, kept noSkip⟩, fun kept _ => kept.2⟩

/-! ## Runs -/

/-- A call whose changes are recognised leaves every approved order with its lines. -/
theorem Intact.step {s : Audited} (intact : Intact s)
    (none : ∀ orderId, ¬ UnrecognisedChange base s.db op.call orderId) :
    Intact (auditedStep base op s) := by
  unfold auditedStep
  cases performed : performTerms base op s.db with
  | error e => exact intact
  | ok after =>
      intro orderId approved
      dsimp only at approved ⊢
      split
      · rfl
      · next notAnew =>
          have notAnew := Bool.eq_false_iff.mpr notAnew
          obtain ⟨before, notTaken, unrecognised⟩ :=
            (performTerms_approved_iff performed notAnew).mp approved
          rw [← intact orderId before, performTerms_lines performed]
          by_contra changed
          exact none orderId ⟨before, notAnew, notTaken, unrecognised, changed⟩

/-- Along a run whose calls recognise the changes they make, every approved order has the lines it
was last approved with. -/
theorem approvedTerms_run (base : BaseOdoo) (ops : List TermsOp) (db : Db)
    (none : ∀ t ∈ history (auditedStep base) ops (.start db),
      ∀ orderId, ¬ UnrecognisedChange base t.1.db t.2.call orderId) :
    (∀ t ∈ history (auditedStep base) ops (.start db), Intact t.1) ∧
      Intact (run (auditedStep base) ops (.start db)) :=
  run_guarded Intact (fun s op => ∀ orderId, ¬ UnrecognisedChange base s.db op.call orderId)
    (fun _ _ => rfl) (fun _ _ guard intact => intact.step guard) ops none

/-- A change that goes unrecognised, in a call that goes through, leaves an approved order with
other lines than it was approved with. -/
theorem UnrecognisedChange.breaks {s : Audited}
    (change : UnrecognisedChange base s.db op.call orderId)
    (intact : Intact s) (ok : performTerms base op s.db = .ok after) :
    ¬ Intact (auditedStep base op s) := by
  intro still
  unfold auditedStep at still
  rw [ok] at still
  have approved := (performTerms_approved_iff ok change.notAnew).mpr
    ⟨change.approved, change.notTaken, change.unrecognised⟩
  have same := still orderId approved
  dsimp only at same
  rw [change.notAnew, if_neg Bool.false_ne_true, performTerms_lines ok,
    ← intact orderId change.approved] at same
  exact change.changed same

end Calls

/-- An approved order with a line at ten percent, and a draft with a line at sixty. -/
def approvedQuote : Db where
  orders :=
    (Table.empty.insert
      { name := "S00001", partner := { id := 3 }, dealflowApprovalState := .approved }).insert
      { name := "S00002", partner := { id := 3 } }
  lines :=
    (Table.empty.insert { orderId := 1, priceUnit := 100, discount := 10 }).insert
      { orderId := 2, priceUnit := 100, discount := 60 }
  negotiations := Table.empty

def repTermsOp (call : TermsCall) : TermsOp where
  env := { user := Group.dealflowSalesRep.member 7 }
  noSkip := rfl
  call := call

/-- A price is written, and the order asks for a new approval. -/
theorem approvedQuote_run :
    (∀ t ∈ history (auditedStep openOdoo) [repTermsOp (.writeLines [1] { priceUnit := some 90 })]
        (.start approvedQuote), Intact t.1) ∧
      Intact (run (auditedStep openOdoo) [repTermsOp (.writeLines [1] { priceUnit := some 90 })]
        (.start approvedQuote)) := by
  refine approvedTerms_run openOdoo _ approvedQuote ?_
  intro t mem orderId change
  rw [List.mem_singleton.mp mem] at change
  have only : orderId = 1 := by
    have approved := change.approved
    change Option.map _ ((Table.insert _ _).row orderId) = _ at approved
    rw [Table.row_insert] at approved
    split at approved
    · cases approved
    · rw [Table.row_insert] at approved
      split at approved
      · next first => exact first
      · cases approved
  have unrecognised := change.unrecognised
  rw [only] at unrecognised
  exact absurd unrecognised (by decide +kernel)

/-- The line of the draft is linked to the approved order, which stays approved. -/
theorem approvedTerms_fails :
    ¬ Intact (run (auditedStep openOdoo)
      [repTermsOp (.writeOrders [1] { orderLine := some { commands := [.link 2] } })]
      (.start approvedQuote)) := by
  intro intact
  have linked : (lineTerms (run (auditedStep openOdoo)
      [repTermsOp (.writeOrders [1] { orderLine := some { commands := [.link 2] } })]
      (.start approvedQuote)).db.lines 1 2).isSome = true := by
    decide +kernel
  have before : (run (auditedStep openOdoo)
      [repTermsOp (.writeOrders [1] { orderLine := some { commands := [.link 2] } })]
      (.start approvedQuote)).approvedTerms 1 2 = none := by
    decide +kernel
  rw [intact 1 (by decide +kernel), before] at linked
  cases linked

end DealFlow.Addon
