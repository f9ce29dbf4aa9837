import DealFlow.Lib.Run
import DealFlow.Lib.Table
import DealFlow.Models.Store
import Mathlib.Data.List.Sort

/-!
# Notifications

`app/services/notification_service.py` over the notifications of all users.  The services create
them; a user marks one as read, or all, and lists the newest.

A notification is read exactly when its recipient has marked it since it was there, each given
dedupe key stands in one row at most, and what a user sees changes by new notifications and by the
user's own marks alone (`inbox_exact`).
-/

namespace DealFlow

open Lib

structure NotificationRow extends Notification where
  isRead : Bool := false
  deriving DecidableEq, Repr

def NotificationRow.read (n : NotificationRow) : NotificationRow := { n with isRead := true }

/-- The notifications by id. -/
abbrev NotificationDb := Table NotificationRow

namespace NotificationDb

variable (db : NotificationDb)

/-- The row with a dedupe key. -/
def keyed (key : String) : Option (ℕ × NotificationRow) :=
  db.entries.find? fun entry => entry.2.dedupeKey = some key

/-- `create_notification`: an empty dedupe key is none, and a key that is already there suppresses
the row. -/
def createNotification (notification : Notification) : ℕ × NotificationDb :=
  match (notification.dedupeKey.filter (· ≠ "")).bind db.keyed with
  | some existing => (existing.1, db)
  | none => (db.next, db.insert { notification with })

def getUserNotifications (recipientOdooUserId : ℤ) (unreadOnly : Bool := false)
    (limit : ℕ := 50) : List (ℕ × NotificationRow) :=
  let own := db.entries.filter fun entry =>
    entry.2.recipientOdooUserId = recipientOdooUserId ∧ (unreadOnly = true → entry.2.isRead = false)
  (own.insertionSort fun a b => b.2.createdAt ≤ a.2.createdAt).take limit

/-- Whether there is such a notification of the user, and the rows after. -/
def markAsRead (notificationId : ℕ) (recipientOdooUserId : ℤ) : Bool × NotificationDb :=
  match (db.row notificationId).filter fun n => n.recipientOdooUserId = recipientOdooUserId with
  | none => (false, db)
  | some _ => (true, db.modify [notificationId] NotificationRow.read)

/-- How many there were unread, and the rows after. -/
def markAllAsRead (recipientOdooUserId : ℤ) : ℕ × NotificationDb :=
  let unread := (db.entries.filter fun entry =>
    entry.2.recipientOdooUserId = recipientOdooUserId ∧ entry.2.isRead = false).map Prod.fst
  (unread.length, db.modify unread NotificationRow.read)

end NotificationDb

/-- What is done with notifications. -/
inductive InboxOp
  | create (notification : Notification)
  | markAsRead (notificationId : ℕ) (recipientOdooUserId : ℤ)
  | markAllAsRead (recipientOdooUserId : ℤ)
  deriving DecidableEq

def InboxOp.step (op : InboxOp) (db : NotificationDb) : NotificationDb :=
  match op with
  | .create notification => (db.createNotification notification).2
  | .markAsRead notificationId recipient => (db.markAsRead notificationId recipient).2
  | .markAllAsRead recipient => (db.markAllAsRead recipient).2

/-! ## What a step does to a row -/

open NotificationDb

variable {db : NotificationDb}

/-- The user marks the notification, alone or with all. -/
def InboxOp.Marks (op : InboxOp) (id : ℕ) (recipient : ℤ) : Prop :=
  op = .markAsRead id recipient ∨ op = .markAllAsRead recipient

instance (op : InboxOp) (id : ℕ) (recipient : ℤ) : Decidable (op.Marks id recipient) :=
  inferInstanceAs (Decidable (_ ∨ _))

theorem marks_create (notification : Notification) (id : ℕ) (recipient : ℤ) :
    ¬ (InboxOp.create notification).Marks id recipient := by
  rintro (same | same)
  · cases same
  · cases same

theorem marks_markAsRead {notificationId id : ℕ} {user recipient : ℤ} :
    (InboxOp.markAsRead notificationId user).Marks id recipient ↔
      id = notificationId ∧ recipient = user := by
  simp [InboxOp.Marks, eq_comm]

theorem marks_markAllAsRead {id : ℕ} {user recipient : ℤ} :
    (InboxOp.markAllAsRead user).Marks id recipient ↔ recipient = user := by
  simp [InboxOp.Marks, eq_comm]

theorem row_createNotification (db : NotificationDb) (notification : Notification) (id : ℕ) :
    (db.createNotification notification).2.row id = db.row id ∨
      id = db.next ∧
        (db.createNotification notification).2.row id = some { notification with } ∧
        ∀ key, notification.dedupeKey = some key → key ≠ "" → db.keyed key = none := by
  unfold createNotification
  split
  · exact .inl rfl
  · next absent =>
      dsimp only
      rw [Table.row_insert]
      by_cases new : id = db.next
      · refine .inr ⟨new, if_pos new, fun key same given => ?_⟩
        rw [same, Option.filter_some_pos (by simpa using given), Option.bind_some] at absent
        exact absent
      · exact .inl (if_neg new)

theorem row_markAsRead (db : NotificationDb) (notificationId : ℕ) (recipient : ℤ) (id : ℕ) :
    (db.markAsRead notificationId recipient).2.row id =
      (db.row id).map fun n =>
        if id = notificationId ∧ n.recipientOdooUserId = recipient then n.read else n := by
  unfold markAsRead
  split
  · next none =>
      cases row : db.row id with
      | none => rfl
      | some n =>
          rw [Option.map_some, if_neg]
          rintro ⟨rfl, own⟩
          rw [row, Option.filter_some_pos (by simpa using own)] at none
          cases none
  · next found own =>
      obtain ⟨row, same⟩ := Option.filter_eq_some_iff.mp own
      dsimp only
      rw [Table.row_modify]
      by_cases here : id = notificationId
      · subst here
        rw [if_pos (List.mem_singleton_self id), row, Option.map_some, Option.map_some,
          if_pos ⟨rfl, of_decide_eq_true same⟩]
      · rw [if_neg fun mem => here (List.mem_singleton.mp mem)]
        cases db.row id with
        | none => rfl
        | some n => rw [Option.map_some, if_neg fun both => here both.1]

theorem row_markAllAsRead (db : NotificationDb) (recipient : ℤ) (id : ℕ) :
    (db.markAllAsRead recipient).2.row id =
      (db.row id).map fun n => if n.recipientOdooUserId = recipient then n.read else n := by
  unfold markAllAsRead
  dsimp only
  rw [Table.row_modify]
  have listed : ∀ n, db.row id = some n →
      (id ∈ (db.entries.filter fun entry =>
          entry.2.recipientOdooUserId = recipient ∧ entry.2.isRead = false).map Prod.fst ↔
        n.recipientOdooUserId = recipient ∧ n.isRead = false) := by
    intro n row
    rw [List.mem_map]
    constructor
    · rintro ⟨entry, mem, rfl⟩
      obtain ⟨memEntry, unread⟩ := List.mem_filter.mp mem
      rw [Table.mem_entries, row] at memEntry
      obtain rfl := Option.some.inj memEntry
      exact of_decide_eq_true unread
    · intro unread
      exact ⟨(id, n), List.mem_filter.mpr ⟨Table.mem_entries.mpr row, decide_eq_true unread⟩, rfl⟩
  cases row : db.row id with
  | none =>
      split <;> rfl
  | some n =>
      simp only [Option.map_some]
      by_cases own : n.recipientOdooUserId = recipient
      · rw [if_pos own]
        cases read : n.isRead with
        | false => rw [if_pos ((listed n row).mpr ⟨own, read⟩)]
        | true =>
            have left : n.read = n := by
              unfold NotificationRow.read
              rw [← read]
            rw [left, ite_self]
      · rw [if_neg own, if_neg fun mem => own ((listed n row).mp mem).1]

/-- A notification that is there stays, and is read when its recipient marks it. -/
theorem row_step {id : ℕ} {n : NotificationRow} (row : db.row id = some n) (op : InboxOp) :
    (op.step db).row id =
      some (if op.Marks id n.recipientOdooUserId then n.read else n) := by
  cases op with
  | create notification =>
      rw [if_neg (marks_create notification id _), ← row]
      rcases row_createNotification db notification id with same | ⟨rfl, -, -⟩
      · exact same
      · rw [Table.row_next] at row
        cases row
  | markAsRead notificationId recipient =>
      refine (row_markAsRead db notificationId recipient id).trans ?_
      rw [row, Option.map_some]
      simp only [marks_markAsRead]
  | markAllAsRead recipient =>
      refine (row_markAllAsRead db recipient id).trans ?_
      rw [row, Option.map_some]
      simp only [marks_markAllAsRead]

/-- A notification that is new has the next id, is unread, and its dedupe key is new. -/
theorem row_step_new {id : ℕ} {n : NotificationRow} {op : InboxOp} (absent : db.row id = none)
    (row : (op.step db).row id = some n) :
    id = db.next ∧ n.isRead = false ∧
      ∀ key, n.dedupeKey = some key → key ≠ "" → db.keyed key = none := by
  cases op with
  | create notification =>
      rcases row_createNotification db notification id with same | ⟨next, new, fresh⟩
      · cases (same.trans absent).symm.trans row
      · obtain rfl := Option.some.inj (new.symm.trans row)
        exact ⟨next, rfl, fresh⟩
  | markAsRead notificationId recipient =>
      have gone := (row_markAsRead db notificationId recipient id).symm.trans row
      rw [absent] at gone
      cases gone
  | markAllAsRead recipient =>
      have gone := (row_markAllAsRead db recipient id).symm.trans row
      rw [absent] at gone
      cases gone

/-! ## Runs -/

/-- A step of the past was the recipient's mark on a notification that was there. -/
def MarkedIn (past : List (NotificationDb × InboxOp)) (id : ℕ) (recipient : ℤ) : Prop :=
  ∃ t ∈ past, (t.1.row id).isSome = true ∧ t.2.Marks id recipient

theorem markedIn_append_singleton {past : List (NotificationDb × InboxOp)} {now : NotificationDb}
    {op : InboxOp} {id : ℕ} {recipient : ℤ} :
    MarkedIn (past ++ [(now, op)]) id recipient ↔
      MarkedIn past id recipient ∨ (now.row id).isSome = true ∧ op.Marks id recipient := by
  simp [MarkedIn, or_and_right, exists_or]

/-- The past of a notification: a row that was there still is, and it is read exactly when it was
marked. -/
def ReadByMarks (id : ℕ) (past : List (NotificationDb × InboxOp)) (now : NotificationDb) : Prop :=
  (∀ t ∈ past, (t.1.row id).isSome = true → (now.row id).isSome = true) ∧
    ∀ n, now.row id = some n → (n.isRead = true ↔ MarkedIn past id n.recipientOdooUserId)

theorem readByMarks_step {id : ℕ} {past : List (NotificationDb × InboxOp)} {now : NotificationDb}
    (op : InboxOp) (reads : ReadByMarks id past now) :
    ReadByMarks id (past ++ [(now, op)]) (op.step now) := by
  obtain ⟨stays, read⟩ := reads
  cases before : now.row id with
  | none =>
      have absent : ∀ t ∈ past, (t.1.row id).isSome = false := by
        intro t mem
        have gone := stays t mem
        rw [before] at gone
        exact Bool.eq_false_iff.mpr fun there => absurd (gone there) (by decide)
      constructor
      · intro t mem there
        rcases List.mem_append.mp mem with earlier | last
        · rw [absent t earlier] at there
          cases there
        · rw [List.mem_singleton.mp last, before] at there
          cases there
      · intro n after
        rw [(row_step_new before after).2.1, markedIn_append_singleton, before]
        refine iff_of_false (by decide) ?_
        rintro (⟨t, mem, there, -⟩ | ⟨there, -⟩)
        · rw [absent t mem] at there
          cases there
        · cases there
  | some m =>
      have after := row_step before op
      constructor
      · intro t mem there
        rw [after]
        rfl
      · intro n row
        obtain rfl := Option.some.inj (after.symm.trans row)
        have same : (if op.Marks id m.recipientOdooUserId then m.read else m).recipientOdooUserId =
            m.recipientOdooUserId := by
          split <;> rfl
        rw [same, markedIn_append_singleton, before]
        by_cases marks : op.Marks id m.recipientOdooUserId
        · rw [if_pos marks]
          exact iff_of_true rfl (.inr ⟨rfl, marks⟩)
        · rw [if_neg marks, read m before]
          exact (or_iff_left fun last => marks last.2).symm

/-- No two rows have the same dedupe key. -/
def KeysDistinct (db : NotificationDb) : Prop :=
  ∀ i j m n key, key ≠ "" → db.row i = some m → db.row j = some n →
    m.dedupeKey = some key → n.dedupeKey = some key → i = j

theorem keyed_eq_none {key : String} :
    db.keyed key = none ↔ ∀ id n, db.row id = some n → n.dedupeKey ≠ some key := by
  unfold keyed
  rw [List.find?_eq_none]
  constructor
  · intro none id n row same
    exact none (id, n) (Table.mem_entries.mpr row) (decide_eq_true same)
  · intro none entry mem same
    exact none entry.1 entry.2 (Table.mem_entries.mp mem) (of_decide_eq_true same)

theorem keysDistinct_step (op : InboxOp) (distinct : KeysDistinct db) :
    KeysDistinct (op.step db) := by
  -- a row that was there before has the key it had
  have old : ∀ {i m}, (op.step db).row i = some m → ∀ m', db.row i = some m' →
      m.dedupeKey = m'.dedupeKey := by
    intro i m after m' before
    obtain rfl := Option.some.inj ((row_step before op).symm.trans after)
    split <;> rfl
  have clash : ∀ {i j m n key}, key ≠ "" → (op.step db).row i = some m → db.row i = none →
      (op.step db).row j = some n → ∀ n', db.row j = some n' →
      m.dedupeKey = some key → n.dedupeKey = some key → False := by
    intro i j m n key given rowI absent rowJ n' before keyM keyN
    have fresh := (row_step_new absent rowI).2.2 key keyM given
    refine keyed_eq_none.mp fresh j n' before ?_
    rw [← old rowJ n' before]
    exact keyN
  intro i j m n key given rowI rowJ keyM keyN
  cases beforeI : db.row i with
  | none =>
      cases beforeJ : db.row j with
      | none => exact (row_step_new beforeI rowI).1.trans (row_step_new beforeJ rowJ).1.symm
      | some n' => exact (clash given rowI beforeI rowJ n' beforeJ keyM keyN).elim
  | some m' =>
      cases beforeJ : db.row j with
      | none => exact (clash given rowJ beforeJ rowI m' beforeI keyN keyM).elim
      | some n' =>
          rw [old rowI m' beforeI] at keyM
          rw [old rowJ n' beforeJ] at keyN
          exact distinct i j m' n' key given beforeI beforeJ keyM keyN

/-! ## What others do -/

/-- The step is about the user: a notification to them, or a mark of theirs. -/
def InboxOp.Concerns (user : ℤ) : InboxOp → Prop
  | .create notification => notification.recipientOdooUserId = user
  | .markAsRead _ recipient => recipient = user
  | .markAllAsRead recipient => recipient = user

/-- The rows that pass a test, by their lookups. -/
theorem filter_entries_congr {α : Type} {t u : Table α} (p : α → Bool) (next : u.next = t.next)
    (same : ∀ id, (u.row id).filter p = (t.row id).filter p) :
    u.entries.filter (fun entry => p entry.2) = t.entries.filter fun entry => p entry.2 := by
  have looked : ∀ v : Table α, v.entries.filter (fun entry => p entry.2) =
      (List.range v.next).filterMap fun id => ((v.row id).filter p).map (id, ·) := by
    intro v
    rw [Table.entries, List.filter_filterMap]
    refine List.filterMap_congr fun id _ => ?_
    cases v.row id with
    | none => rfl
    | some a => cases passes : p a <;> simp [passes, Option.filter]
  rw [looked, looked, next]
  exact List.filterMap_congr fun id _ => by rw [same]

/-- The notifications of a user, in the order in which they came. -/
def NotificationDb.own (db : NotificationDb) (user : ℤ) : List (ℕ × NotificationRow) :=
  db.entries.filter fun entry => entry.2.recipientOdooUserId = user

theorem own_step {user : ℤ} {op : InboxOp} (other : ¬ op.Concerns user) :
    (op.step db).own user = db.own user := by
  let p (n : NotificationRow) : Bool := n.recipientOdooUserId = user
  have reads : ∀ n : NotificationRow, n.recipientOdooUserId ≠ user →
      (some n.read).filter p = (some n).filter p := by
    intro n ne
    have not_ : p n = false := decide_eq_false ne
    have notRead : p n.read = false := decide_eq_false ne
    rw [Option.filter_some_neg (by simp [notRead]), Option.filter_some_neg (by simp [not_])]
  cases op with
  | create notification =>
      unfold InboxOp.step createNotification NotificationDb.own
      dsimp only
      split
      · rfl
      · have foreign : notification.recipientOdooUserId ≠ user := other
        rw [Table.entries_insert, List.filter_append,
          List.filter_cons_of_neg (by simpa using foreign), List.filter_nil, List.append_nil]
  | markAsRead notificationId recipient =>
      unfold NotificationDb.own
      refine filter_entries_congr p ?_ fun id => ?_
      · unfold InboxOp.step NotificationDb.markAsRead
        dsimp only
        split <;> rfl
      · refine (congrArg _ (row_markAsRead db notificationId recipient id)).trans ?_
        cases db.row id with
        | none => rfl
        | some n =>
            rw [Option.map_some]
            split
            · next own => exact reads n fun same => other (own.2.symm.trans same)
            · rfl
  | markAllAsRead recipient =>
      unfold NotificationDb.own
      have next : ((InboxOp.markAllAsRead recipient).step db).next = db.next := rfl
      refine filter_entries_congr p next fun id => ?_
      refine (congrArg _ (row_markAllAsRead db recipient id)).trans ?_
      cases db.row id with
      | none => rfl
      | some n =>
          rw [Option.map_some]
          split
          · next own => exact reads n fun same => other (own.symm.trans same)
          · rfl

theorem getUserNotifications_eq (db : NotificationDb) (user : ℤ) (unreadOnly : Bool) (limit : ℕ) :
    db.getUserNotifications user unreadOnly limit =
      (((db.own user).filter fun entry => unreadOnly = true → entry.2.isRead = false).insertionSort
        fun a b => b.2.createdAt ≤ a.2.createdAt).take limit := by
  unfold getUserNotifications NotificationDb.own
  dsimp only
  rw [List.filter_filter]
  congr 3
  funext entry
  rw [Bool.and_comm, Bool.decide_and]

theorem own_run {user : ℤ} {ops : List InboxOp} (others : ∀ op ∈ ops, ¬ op.Concerns user) :
    (run InboxOp.step ops db).own user = db.own user := by
  induction ops generalizing db with
  | nil => rfl
  | cons op ops ih =>
      rw [List.forall_mem_cons] at others
      exact (ih others.2).trans (own_step others.1)

/-- Along any run from no notifications: one is read exactly when its recipient has marked it since
it was there, no two have the same dedupe key, and what later steps that are not about a user do is
nothing that the user sees. -/
theorem inbox_exact (ops : List InboxOp) :
    let db := run InboxOp.step ops .empty
    (∀ id n, db.row id = some n →
        (n.isRead = true ↔ MarkedIn (history InboxOp.step ops .empty) id n.recipientOdooUserId)) ∧
      KeysDistinct db ∧
      ∀ user later, (∀ op ∈ later, ¬ op.Concerns user) → ∀ unreadOnly limit,
        (run InboxOp.step later db).getUserNotifications user unreadOnly limit =
          db.getUserNotifications user unreadOnly limit := by
  intro db
  refine ⟨fun id n row => ?_, ?_, fun user later others unreadOnly limit => ?_⟩
  · have reads : ReadByMarks id (history InboxOp.step ops .empty) db :=
      run_induction (motive := ReadByMarks id)
        ⟨fun t mem => absurd mem List.not_mem_nil,
          fun n none => absurd none (by simp [Table.empty])⟩
        (fun past now op reads => readByMarks_step op reads) ops
    exact reads.2 n row
  · refine (run_invariant InboxOp.step KeysDistinct ?_ (fun now op => keysDistinct_step op) ops).2
    intro i j m n key given row
    cases row
  · have same : (run InboxOp.step later db).own user = db.own user := own_run others
    rw [getUserNotifications_eq, getUserNotifications_eq, same]

end DealFlow
