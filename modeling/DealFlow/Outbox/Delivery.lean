import DealFlow.Odoo.Outbox
import DealFlow.Lib.Ordered
import DealFlow.Lib.Run

/-!
# What the outbox delivers

A drain writes the records it takes and no others (`drainOutbox_rows`, `drainOutbox_tried`).  So
whatever is queued, however calls fail and however often the outbox is drained, a record takes
effect once at most and is tried five times at most (`Consistent`).

The order of the effects on one sale order is another matter: a drain goes on after a record that
failed, and a later record of the same sale order overtakes it.  `KeepsOrder` is the condition that
a drain does not, and that the clock runs forward between two queued records; under it the effects
come in the order they were queued (`outbox_delivers`).
-/

namespace DealFlow

open Lib

/-! ## One drain -/

namespace DrainRun

variable (run : DrainRun) (r : OdooOutbox)

@[simp] theorem attempt_id : (run.attempt r).id = r.id := by
  unfold attempt
  dsimp only
  split <;> rfl

@[simp] theorem attempt_call : (run.attempt r).call = r.call := by
  unfold attempt
  dsimp only
  split <;> rfl

@[simp] theorem attempt_createdAt : (run.attempt r).createdAt = r.createdAt := by
  unfold attempt
  dsimp only
  split <;> rfl

@[simp] theorem attempt_attempts : (run.attempt r).attempts = r.attempts + 1 := by
  unfold attempt
  dsimp only
  split <;> rfl

theorem attempt_processed : (run.attempt r).status = .processed ↔ run.comesThrough r = true := by
  unfold attempt comesThrough
  rw [decide_eq_true_eq]
  dsimp only
  split
  · next outcome => simp only [outcome]
  · next outcome => simp only [outcome, reduceCtorEq]
  · next outcome =>
      rw [outcome]
      split <;> simp only [reduceCtorEq]

theorem foldl_tried (recs : List OdooOutbox) (s : Outbox × ℕ) :
    (recs.foldl run.drainRecord s).1.tried = s.1.tried ++ recs.map run.trial := by
  induction recs generalizing s with
  | nil => exact (List.append_nil _).symm
  | cons rec recs ih =>
      rw [List.foldl_cons, ih, List.map_cons]
      exact List.append_assoc _ [run.trial rec] _

theorem foldl_rows (recs : List OdooOutbox) (nodup : (recs.map (·.id)).Nodup) (s : Outbox × ℕ) :
    (recs.foldl run.drainRecord s).1.rows =
      s.1.rows.map fun r => if r.id ∈ recs.map (·.id) then run.attempt r else r := by
  induction recs generalizing s with
  | nil =>
      simp only [List.map_nil, List.not_mem_nil, if_false, List.map_id', List.foldl_nil]
  | cons rec recs ih =>
      obtain ⟨fresh, nodup⟩ := List.nodup_cons.mp nodup
      rw [List.foldl_cons, ih nodup]
      change (s.1.rows.map _).map _ = _
      rw [List.map_map]
      refine List.map_congr_left fun r _ => ?_
      simp only [Function.comp_apply, List.map_cons, List.mem_cons]
      by_cases here : r.id = rec.id
      · rw [if_pos here, if_pos (Or.inl here), attempt_id, here, if_neg fresh]
      · simp only [here, if_false, false_or]

end DrainRun

/-- The effects of a list of tried calls. -/
def effectsOf (tried : List TriedCall) : List TriedCall :=
  tried.filter fun t => t.outcome = .returns

theorem effectsOf_append (tried later : List TriedCall) :
    effectsOf (tried ++ later) = effectsOf tried ++ effectsOf later :=
  List.filter_append ..

theorem effectsOf_trial (run : DrainRun) (recs : List OdooOutbox) :
    effectsOf (recs.map run.trial) = (recs.filter run.comesThrough).map run.trial := by
  unfold effectsOf
  rw [List.filter_map]
  rfl

/-! ## What holds of every outbox -/

/-- The records are numbered in the order they were queued, each with its attempts counted and
within the limit, and one that took effect is marked and did so once. -/
structure Outbox.Consistent (db : Outbox) : Prop where
  numbered : db.rows.map (·.id) = List.range db.rows.length
  counted : ∀ r ∈ db.rows, db.tried.countP (·.record = r.id) = r.attempts
  limited : ∀ r ∈ db.rows, r.attempts ≤ 5
  recorded : ∀ t ∈ db.tried, ∃ r ∈ db.rows, r.id = t.record ∧ r.call = t.call
  marked : ∀ t ∈ db.effects, ∀ r ∈ db.rows, r.id = t.record → r.status = .processed
  once : (db.effects.map (·.record)).Nodup

namespace Outbox

variable {db : Outbox}

theorem Consistent.increasing (c : db.Consistent) : db.rows.Pairwise fun a b => a.id < b.id := by
  have ids : (db.rows.map (·.id)).Pairwise (· < ·) := c.numbered ▸ List.pairwise_lt_range
  exact List.pairwise_map.mp ids

theorem Consistent.same (c : db.Consistent) {a b : OdooOutbox} (memA : a ∈ db.rows)
    (memB : b ∈ db.rows) (id : a.id = b.id) : a = b := by
  have nodup : (db.rows.map (·.id)).Nodup := c.numbered ▸ List.nodup_range
  exact List.inj_on_of_nodup_map nodup memA memB id

theorem mem_selected {maxRecords : ℤ} {r : OdooOutbox} (mem : r ∈ db.selected maxRecords) :
    r ∈ db.rows ∧ r.status ≠ .processed ∧ r.attempts < 5 := by
  have sorted := List.mem_of_mem_take mem
  rw [List.mem_insertionSort, List.mem_filter] at sorted
  obtain ⟨row, due⟩ := sorted
  exact ⟨row, of_decide_eq_true due⟩

theorem Consistent.selected_nodup (c : db.Consistent) (maxRecords : ℤ) :
    ((db.selected maxRecords).map (·.id)).Nodup := by
  have rows : (db.rows.map (·.id)).Nodup := c.numbered ▸ List.nodup_range
  have due : ((db.rows.filter OdooOutbox.due).map (·.id)).Nodup :=
    rows.sublist (List.filter_sublist.map _)
  have sorted := ((List.perm_insertionSort (fun a b : OdooOutbox => a.createdAt ≤ b.createdAt)
    (db.rows.filter OdooOutbox.due)).map (·.id)).nodup_iff.mpr due
  exact sorted.sublist ((List.take_sublist _ _).map _)

theorem Consistent.selected_once (c : db.Consistent) {maxRecords : ℤ} {r : OdooOutbox}
    (selected : r ∈ db.selected maxRecords) :
    (db.selected maxRecords).countP (fun s => decide (s.id = r.id)) = 1 := by
  have once := List.count_eq_one_of_mem (c.selected_nodup maxRecords)
    (List.mem_map_of_mem selected)
  rw [List.count, List.countP_map] at once
  exact (List.countP_congr fun s _ => by
    rw [Function.comp_apply, beq_iff_eq, decide_eq_true_eq]).symm.trans once

theorem Consistent.taken_iff (c : db.Consistent) {maxRecords : ℤ} {r : OdooOutbox}
    (row : r ∈ db.rows) :
    r.id ∈ (db.selected maxRecords).map (·.id) ↔ r ∈ db.selected maxRecords := by
  constructor
  · intro taken
    obtain ⟨s, selected, id⟩ := List.mem_map.mp taken
    exact c.same (mem_selected selected).1 row id ▸ selected
  · exact List.mem_map_of_mem

end Outbox

theorem drainOutbox_tried (run : DrainRun) (db : Outbox) :
    (drainOutbox run db).1.tried = db.tried ++ (db.selected run.maxRecords).map run.trial :=
  run.foldl_tried _ _

theorem drainOutbox_effects (run : DrainRun) (db : Outbox) :
    (drainOutbox run db).1.effects =
      db.effects ++ ((db.selected run.maxRecords).filter run.comesThrough).map run.trial := by
  change effectsOf _ = _
  rw [drainOutbox_tried, effectsOf_append, effectsOf_trial]
  rfl

theorem drainOutbox_rows (run : DrainRun) {db : Outbox} (c : db.Consistent) :
    (drainOutbox run db).1.rows = db.rows.map fun r =>
      if r.id ∈ (db.selected run.maxRecords).map (·.id) then run.attempt r else r :=
  run.foldl_rows _ (c.selected_nodup _) _

/-- A row after a drain is a row before it, tried when it was selected. -/
theorem drainOutbox_row {run : DrainRun} {db : Outbox} (c : db.Consistent) {r' : OdooOutbox}
    (mem : r' ∈ (drainOutbox run db).1.rows) :
    (r' ∈ db.rows ∧ r'.id ∉ (db.selected run.maxRecords).map (·.id)) ∨
      ∃ r ∈ db.selected run.maxRecords, r' = run.attempt r := by
  rw [drainOutbox_rows run c] at mem
  obtain ⟨r, row, rfl⟩ := List.mem_map.mp mem
  split
  · next taken => exact Or.inr ⟨r, (c.taken_iff row).mp taken, rfl⟩
  · next left => exact Or.inl ⟨row, left⟩

/-- A drain removes no record. -/
theorem drainOutbox_keeps (run : DrainRun) {db : Outbox} (c : db.Consistent) {r : OdooOutbox}
    (row : r ∈ db.rows) :
    ∃ r' ∈ (drainOutbox run db).1.rows, r'.id = r.id ∧ r'.call = r.call := by
  rw [drainOutbox_rows run c]
  refine ⟨_, List.mem_map.mpr ⟨r, row, rfl⟩, ?_⟩
  split
  · exact ⟨run.attempt_id r, run.attempt_call r⟩
  · exact ⟨rfl, rfl⟩

theorem drainOutbox_ids (run : DrainRun) {db : Outbox} (c : db.Consistent) :
    (drainOutbox run db).1.rows.map (·.id) = db.rows.map (·.id) := by
  rw [drainOutbox_rows run c, List.map_map]
  refine List.map_congr_left fun r _ => ?_
  rw [Function.comp_apply]
  split
  · exact run.attempt_id r
  · rfl

/-! ## Every run keeps the outbox consistent -/

theorem consistent_empty : ({} : Outbox).Consistent where
  numbered := rfl
  counted := nofun
  limited := nofun
  recorded := nofun
  marked := nofun
  once := List.nodup_nil

theorem consistent_queue {db : Outbox} (c : db.Consistent) (call : OutboxCall) (now : Timestamp) :
    (queueMutation call now db).Consistent := by
  have below : ∀ t ∈ db.tried, t.record < db.rows.length := by
    intro t mem
    obtain ⟨r, row, id, -⟩ := c.recorded t mem
    have ranged : r.id ∈ List.range db.rows.length :=
      c.numbered ▸ List.mem_map.mpr ⟨r, row, rfl⟩
    exact id ▸ List.mem_range.mp ranged
  refine ⟨?_, ?_, ?_, ?_, ?_, c.once⟩
  · unfold queueMutation
    rw [List.map_append, c.numbered, List.length_append]
    exact (List.range_succ).symm
  · refine List.forall_mem_append.mpr ⟨c.counted, fun r mem => ?_⟩
    rw [List.mem_singleton.mp mem]
    refine List.countP_eq_zero.mpr fun t tried => ?_
    rw [decide_eq_true_eq]
    exact (below t tried).ne
  · refine List.forall_mem_append.mpr ⟨c.limited, fun r mem => ?_⟩
    rw [List.mem_singleton.mp mem]
    exact Nat.zero_le 5
  · intro t tried
    obtain ⟨r, row, same⟩ := c.recorded t tried
    exact ⟨r, List.mem_append_left _ row, same⟩
  · intro t effect
    refine List.forall_mem_append.mpr ⟨c.marked t effect, fun r mem id => ?_⟩
    rw [List.mem_singleton.mp mem] at id
    exact absurd id (below t (List.mem_of_mem_filter effect)).ne'

theorem consistent_drain {db : Outbox} (c : db.Consistent) (run : DrainRun) :
    (drainOutbox run db).1.Consistent := by
  have tried := drainOutbox_tried run db
  have effects := drainOutbox_effects run db
  refine ⟨?_, ?_, ?_, ?_, ?_, ?_⟩
  · rw [drainOutbox_ids run c, c.numbered, drainOutbox_rows run c, List.length_map]
  · intro r' mem
    rw [tried, List.countP_append, List.countP_map]
    rcases drainOutbox_row c mem with ⟨row, left⟩ | ⟨r, selected, rfl⟩
    · rw [c.counted r' row, List.countP_eq_zero.mpr, Nat.add_zero]
      intro s selected same
      exact left (List.mem_map.mpr ⟨s, selected, of_decide_eq_true same⟩)
    · rw [run.attempt_id, run.attempt_attempts, c.counted r (Outbox.mem_selected selected).1]
      exact congrArg (r.attempts + ·) (c.selected_once selected)
  · intro r' mem
    rcases drainOutbox_row c mem with ⟨row, -⟩ | ⟨r, selected, rfl⟩
    · exact c.limited r' row
    · rw [run.attempt_attempts]
      exact (Outbox.mem_selected selected).2.2
  · rw [tried]
    refine List.forall_mem_append.mpr ⟨fun t old => ?_, fun t new => ?_⟩
    · obtain ⟨r, row, id, call⟩ := c.recorded t old
      obtain ⟨r', row', id', call'⟩ := drainOutbox_keeps run c row
      exact ⟨r', row', id'.trans id, call'.trans call⟩
    · obtain ⟨r, selected, rfl⟩ := List.mem_map.mp new
      exact drainOutbox_keeps run c (Outbox.mem_selected selected).1
  · rw [effects]
    refine List.forall_mem_append.mpr ⟨fun t old r' mem id => ?_, fun t new r' mem id => ?_⟩
    · rcases drainOutbox_row c mem with ⟨row, -⟩ | ⟨r, selected, rfl⟩
      · exact c.marked t old r' row id
      · obtain ⟨row, unprocessed, -⟩ := Outbox.mem_selected selected
        exact absurd (c.marked t old r row ((run.attempt_id r).symm.trans id)) unprocessed
    · obtain ⟨s, through, rfl⟩ := List.mem_map.mp new
      obtain ⟨taken, through⟩ := List.mem_filter.mp through
      rcases drainOutbox_row c mem with ⟨-, left⟩ | ⟨r, selected, rfl⟩
      · exact absurd (List.mem_map.mpr ⟨s, taken, id.symm⟩) left
      · have same : r = s := c.same (Outbox.mem_selected selected).1 (Outbox.mem_selected taken).1
          ((run.attempt_id r).symm.trans id)
        exact (run.attempt_processed r).mpr (same ▸ through)
  · rw [effects, List.map_append, List.map_map]
    refine List.nodup_append.mpr ⟨c.once, ?_, ?_⟩
    · exact (c.selected_nodup run.maxRecords).sublist (List.filter_sublist.map _)
    · intro id old id' new
      obtain ⟨t, effect, rfl⟩ := List.mem_map.mp old
      obtain ⟨s, through, rfl⟩ := List.mem_map.mp new
      obtain ⟨row, unprocessed, -⟩ := Outbox.mem_selected (List.mem_of_mem_filter through)
      exact fun same => unprocessed (c.marked t effect s row same.symm)

theorem consistent_step (op : OutboxOp) (db : Outbox) (c : db.Consistent) :
    (op.step db).Consistent := by
  cases op with
  | queue call now => exact consistent_queue c call now
  | drain run => exact consistent_drain c run

/-- Of what is tried on a record no more than five tries are its own. -/
theorem Outbox.Consistent.tried_le {db : Outbox} (c : db.Consistent) (id : ℕ) :
    db.tried.countP (·.record = id) ≤ 5 := by
  by_cases known : ∃ r ∈ db.rows, r.id = id
  · obtain ⟨r, row, rfl⟩ := known
    rw [c.counted r row]
    exact c.limited r row
  · rw [List.countP_eq_zero.mpr]
    · exact Nat.zero_le 5
    · intro t tried same
      obtain ⟨r, row, record, -⟩ := c.recorded t tried
      exact known ⟨r, row, record.trans (of_decide_eq_true same)⟩

/-! ## The order of the effects -/

section Order

variable (orderOf : OutboxCall → Option ℤ)

/-- The records of the effects on an order, as they came. -/
def Outbox.effectsOn (db : Outbox) (order : ℤ) : List ℕ :=
  (db.effects.filter fun t => orderOf t.call = some order).map (·.record)

/-- The records queued for an order, as they came. -/
def Outbox.queuedFor (db : Outbox) (order : ℤ) : List ℕ :=
  (db.rows.filter fun r => orderOf r.call = some order).map (·.id)

/-- The clock has run on since the last record was queued, and where a drain fails to deliver a
record that is left to another try, it delivers no later one on the same order. -/
def OutboxOp.KeepsOrder (db : Outbox) : OutboxOp → Prop
  | .queue _ now => ∀ r ∈ db.rows, r.createdAt < now
  | .drain run =>
      (db.selected run.maxRecords).Pairwise fun a b =>
        (orderOf a.call).isSome → orderOf a.call = orderOf b.call →
          run.comesThrough a = false → a.attempts + 1 < 5 → run.comesThrough b = false

instance (db : Outbox) (op : OutboxOp) : Decidable (op.KeepsOrder orderOf db) :=
  match op with
  | .queue _ now => inferInstanceAs (Decidable (∀ r ∈ db.rows, r.createdAt < now))
  | .drain run => inferInstanceAs (Decidable ((db.selected run.maxRecords).Pairwise _))

/-- The records stand in the order of their times, and those before a processed one on the same
order are processed or given up. -/
structure Outbox.CaughtUp (db : Outbox) : Prop where
  aged : db.rows.Pairwise fun a b => a.createdAt < b.createdAt
  settled : db.rows.Pairwise fun a b => (orderOf a.call).isSome → orderOf a.call = orderOf b.call →
    b.status = .processed → a.status = .processed ∨ 5 ≤ a.attempts
  increasing : ∀ order, (db.effectsOn orderOf order).Pairwise (· < ·)

theorem caughtUp_empty : ({} : Outbox).CaughtUp orderOf where
  aged := .nil
  settled := .nil
  increasing _ := .nil

variable {orderOf} {db : Outbox}

theorem caughtUp_queue (u : db.CaughtUp orderOf) (call : OutboxCall) {now : Timestamp}
    (later : ∀ r ∈ db.rows, r.createdAt < now) :
    (queueMutation call now db).CaughtUp orderOf := by
  refine ⟨?_, ?_, u.increasing⟩
  · refine List.pairwise_append.mpr ⟨u.aged, List.pairwise_singleton _ _, fun a row b new => ?_⟩
    rw [List.mem_singleton.mp new]
    exact later a row
  · refine List.pairwise_append.mpr ⟨u.settled, List.pairwise_singleton _ _, ?_⟩
    intro a _ b new _ _ processed
    rw [List.mem_singleton.mp new] at processed
    cases processed

/-- Where the records stand in the order of their times, a drain takes the first that are due. -/
theorem selected_eq_take (u : db.CaughtUp orderOf) (maxRecords : ℤ) :
    db.selected maxRecords = (db.rows.filter OdooOutbox.due).take maxRecords.toNat := by
  unfold Outbox.selected
  rw [List.Pairwise.insertionSort_eq]
  exact (u.aged.sublist List.filter_sublist).imp fun lt => lt.le

theorem selected_sublist (u : db.CaughtUp orderOf) (maxRecords : ℤ) :
    (db.selected maxRecords).Sublist db.rows := by
  rw [selected_eq_take u]
  exact (List.take_sublist _ _).trans List.filter_sublist

/-- A record that is due and stands before one that is taken is taken, and what the drain keeps to
holds of the two. -/
theorem selected_before (c : db.Consistent) (u : db.CaughtUp orderOf) {maxRecords : ℤ}
    {R : OdooOutbox → OdooOutbox → Prop} (pairs : (db.selected maxRecords).Pairwise R) :
    db.rows.Pairwise fun a b => a.due = true → b ∈ db.selected maxRecords →
      a ∈ db.selected maxRecords ∧ R a b := by
  have nodup : (db.rows.filter OdooOutbox.due).Nodup :=
    (List.Nodup.of_map _ (c.numbered ▸ List.nodup_range)).sublist List.filter_sublist
  rw [selected_eq_take u] at *
  refine (List.pairwise_filter.mp (pairwise_take nodup pairs)).imp ?_
  intro a b holds dueA taken
  exact holds dueA (List.of_mem_filter (List.mem_of_mem_take taken)) taken

theorem settled_drain (c : db.Consistent) (u : db.CaughtUp orderOf) {run : DrainRun}
    (keeps : (OutboxOp.drain run).KeepsOrder orderOf db) :
    (drainOutbox run db).1.rows.Pairwise fun a b =>
      (orderOf a.call).isSome → orderOf a.call = orderOf b.call →
        b.status = .processed → a.status = .processed ∨ 5 ≤ a.attempts := by
  rw [drainOutbox_rows run c, List.pairwise_map]
  refine List.Pairwise.imp_of_mem ?_ (u.settled.and (selected_before c u keeps))
  intro a b rowA rowB both
  obtain ⟨old, taken⟩ := both
  rw [if_congr (c.taken_iff rowA) rfl rfl, if_congr (c.taken_iff rowB) rfl rfl]
  by_cases dueA : a.due = true
  · obtain ⟨unprocessed, left⟩ := of_decide_eq_true dueA
    by_cases takenB : b ∈ db.selected run.maxRecords
    · obtain ⟨takenA, keeps⟩ := taken dueA takenB
      rw [if_pos takenA, if_pos takenB, run.attempt_call, run.attempt_call,
        run.attempt_processed, run.attempt_processed, run.attempt_attempts]
      intro onOrder same through
      by_cases throughA : run.comesThrough a = true
      · exact Or.inl throughA
      · refine Or.inr (Nat.le_of_not_lt fun again => ?_)
        rw [keeps onOrder same (Bool.eq_false_iff.mpr throughA) again] at through
        cases through
    · rw [if_neg takenB]
      intro onOrder same processed
      have call : (if a ∈ db.selected run.maxRecords then run.attempt a else a).call = a.call := by
        split
        · exact run.attempt_call a
        · rfl
      rw [call] at onOrder same
      rcases old onOrder same processed with done | gaveUp
      · exact absurd done unprocessed
      · omega
  · have leftOut : a ∉ db.selected run.maxRecords := fun mem =>
      dueA (decide_eq_true (Outbox.mem_selected mem).2)
    rw [if_neg leftOut]
    intro _ _ _
    by_contra open'
    obtain ⟨unprocessed, left⟩ := not_or.mp open'
    exact dueA (decide_eq_true ⟨unprocessed, Nat.lt_of_not_le left⟩)

theorem increasing_drain (c : db.Consistent) (u : db.CaughtUp orderOf) (run : DrainRun)
    (order : ℤ) : ((drainOutbox run db).1.effectsOn orderOf order).Pairwise (· < ·) := by
  unfold Outbox.effectsOn
  rw [drainOutbox_effects, List.filter_append, List.map_append, List.filter_map, List.map_map]
  have ids : ((db.selected run.maxRecords).map (·.id)).Pairwise (· < ·) :=
    List.pairwise_map.mpr (c.increasing.sublist (selected_sublist u _))
  refine List.pairwise_append.mpr ⟨u.increasing order, ?_, ?_⟩
  · exact ids.sublist (List.Sublist.map (fun r : OdooOutbox => r.id)
      (List.filter_sublist.trans List.filter_sublist))
  · intro id old id' new
    obtain ⟨t, mem, rfl⟩ := List.mem_map.mp old
    obtain ⟨effect, onT⟩ := List.mem_filter.mp mem
    obtain ⟨r, mem', rfl⟩ := List.mem_map.mp new
    obtain ⟨through, onR⟩ := List.mem_filter.mp mem'
    obtain ⟨row, unprocessed, left⟩ := Outbox.mem_selected (List.mem_of_mem_filter through)
    obtain ⟨b, rowB, id, call⟩ := c.recorded t (List.mem_of_mem_filter effect)
    have processed : b.status = .processed := c.marked t effect b rowB id
    have orderR : orderOf r.call = some order := of_decide_eq_true onR
    have orderB : orderOf b.call = some order := call ▸ of_decide_eq_true onT
    change t.record < r.id
    rw [← id]
    rcases Nat.lt_trichotomy b.id r.id with before | same | after
    · exact before
    · exact absurd (c.same rowB row same ▸ processed) unprocessed
    · rcases rel_of_key_lt u.settled c.increasing row rowB after (by rw [orderR]; rfl)
        (orderR.trans orderB.symm) processed with done | gaveUp
      · exact absurd done unprocessed
      · omega

theorem caughtUp_drain (c : db.Consistent) (u : db.CaughtUp orderOf) {run : DrainRun}
    (keeps : (OutboxOp.drain run).KeepsOrder orderOf db) :
    (drainOutbox run db).1.CaughtUp orderOf := by
  refine ⟨?_, settled_drain c u keeps, increasing_drain c u run⟩
  rw [drainOutbox_rows run c, List.pairwise_map]
  refine u.aged.imp fun {a b} older => ?_
  split <;> split <;> simpa using older

theorem caughtUp_step {op : OutboxOp} (c : db.Consistent) (u : db.CaughtUp orderOf)
    (keeps : op.KeepsOrder orderOf db) : (op.step db).CaughtUp orderOf := by
  cases op with
  | queue call now => exact caughtUp_queue u call keeps
  | drain run => exact caughtUp_drain c u keeps

/-- Effects in the order of their records are among the queued ones in that order. -/
theorem effectsOn_sublist (c : db.Consistent) (u : db.CaughtUp orderOf) (order : ℤ) :
    (db.effectsOn orderOf order).Sublist (db.queuedFor orderOf order) := by
  refine sublist_of_increasing (u.increasing order) ?_ ?_
  · exact List.pairwise_map.mpr (c.increasing.sublist List.filter_sublist)
  · intro id mem
    obtain ⟨t, on, rfl⟩ := List.mem_map.mp mem
    obtain ⟨effect, onOrder⟩ := List.mem_filter.mp on
    obtain ⟨r, row, id, call⟩ := c.recorded t (List.mem_of_mem_filter effect)
    refine List.mem_map.mpr ⟨r, List.mem_filter.mpr ⟨row, ?_⟩, id⟩
    rw [call]
    exact onOrder

end Order

theorem consistent_run (ops : List OutboxOp) : (run OutboxOp.step ops {}).Consistent :=
  (run_invariant OutboxOp.step Outbox.Consistent consistent_empty
    (fun db op => consistent_step op db) ops).2

/-- However calls fail, a record takes effect once at most and is tried five times at most.  While
every step keeps the order, the effects on an order come in the order they were queued. -/
theorem outbox_delivers (orderOf : OutboxCall → Option ℤ) (ops : List OutboxOp) :
    let db := run OutboxOp.step ops {}
    (db.effects.map (·.record)).Nodup ∧
      (∀ id, db.tried.countP (·.record = id) ≤ 5) ∧
      ((∀ t ∈ history OutboxOp.step ops {}, t.2.KeepsOrder orderOf t.1) →
        ∀ order, (db.effectsOn orderOf order).Sublist (db.queuedFor orderOf order)) := by
  refine ⟨(consistent_run ops).once, (consistent_run ops).tried_le, fun keeps order => ?_⟩
  have start : ({} : Outbox).Consistent ∧ ({} : Outbox).CaughtUp orderOf :=
    ⟨consistent_empty, caughtUp_empty orderOf⟩
  have kept : ∀ (now : Outbox) (op : OutboxOp), op.KeepsOrder orderOf now →
      now.Consistent ∧ now.CaughtUp orderOf → (op.step now).Consistent ∧
        (op.step now).CaughtUp orderOf := by
    intro now op keeps both
    obtain ⟨c, u⟩ := both
    exact ⟨consistent_step op now c, caughtUp_step c u keeps⟩
  obtain ⟨c, u⟩ := (run_guarded (fun db => db.Consistent ∧ db.CaughtUp orderOf)
    (fun db op => op.KeepsOrder orderOf db) start kept ops keeps).2
  exact effectsOn_sublist c u order

/-! ## A record that is overtaken -/

/-- Order 7 is confirmed, then cancelled. -/
def demoQueue : List OutboxOp :=
  [.queue { method := "confirm", args := [.int 7] } 100,
   .queue { method := "cancel", args := [.int 7] } 200]

def demoDrain (outcome : ℕ → CallOutcome) : OutboxOp :=
  .drain { now := 300, hasMethod := fun _ => true, outcome }

/-- The confirmation fails once while the cancellation comes through, and is made after it. -/
def demoOvertaken : List OutboxOp :=
  demoQueue ++ [demoDrain fun id => if id = 0 then .raises "timed out" else .returns,
    demoDrain fun _ => .returns]

theorem demoOvertaken_reversed :
    (run OutboxOp.step demoOvertaken {}).effectsOn OutboxCall.orderId 7 = [1, 0] ∧
      ¬ ((run OutboxOp.step demoOvertaken {}).effectsOn OutboxCall.orderId 7).Sublist
        ((run OutboxOp.step demoOvertaken {}).queuedFor OutboxCall.orderId 7) := by
  decide +kernel

/-- Both mutations fail at first. -/
def demoHeldBack : List OutboxOp :=
  demoQueue ++ [demoDrain fun _ => .raises "timed out", demoDrain fun _ => .returns]

theorem demoHeldBack_inOrder :
    ((run OutboxOp.step demoHeldBack {}).effectsOn OutboxCall.orderId 7).Sublist
      ((run OutboxOp.step demoHeldBack {}).queuedFor OutboxCall.orderId 7) :=
  (outbox_delivers OutboxCall.orderId demoHeldBack).2.2 (by decide +kernel) 7

end DealFlow
