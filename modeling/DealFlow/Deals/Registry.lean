import DealFlow.Lib.PythonText
import DealFlow.Lib.Run
import DealFlow.Services.DealRegistry

/-!
# References and pages of deals

Syncs of any orders, in any number of sessions whose transactions interleave in any way, give every
order one deal at most, and the deals the references D-1001, D-1002 and so on, with no gap and none
twice; a deal keeps its reference and its order (`deals_numbered`).  What a commit does to the
deals' keys and to the sequence is `CommitEffect`.  The invariant of a run is `Numbered`: it ties
the sequence to the number of deals, and who has read its row to who holds its lock.

The pages of a list come from queries of their own, and a query without a tie breaker gives rows of
the same moment in any order.  Where no two of the selected deals were active at the same moment the
pages fit together all the same: a search for a plain text shows every deal that has it in its
reference, its order's name or its customer's name exactly once, newest activity first
(`search_pages`).
-/

namespace DealFlow

open Lib

/-! ## References -/

/-- What a deal keeps for good: its id, its reference and its order. -/
structure DealKey where
  id : ℕ
  reference : String
  odooSaleOrderId : ℤ
  deriving DecidableEq

def DealRecord.key (r : DealRecord) : DealKey :=
  { id := r.deal.id, reference := r.deal.reference, odooSaleOrderId := r.deal.odooSaleOrderId }

def RegistryDb.keys (db : RegistryDb) : List DealKey :=
  db.deals.map DealRecord.key

namespace RegistryDb

variable (db : RegistryDb)

theorem keys_updateDeal (dealId : ℕ) {f : DealRecord → DealRecord} (kept : ∀ r, (f r).key = r.key) :
    (db.updateDeal dealId f).keys = db.keys := by
  unfold keys updateDeal
  rw [List.map_map]
  refine List.map_congr_left fun r _ => ?_
  rw [Function.comp_apply]
  split
  · exact kept r
  · rfl

theorem keys_recordAuditEvent (event : RegistryEvent) :
    (db.recordAuditEvent event).keys = db.keys :=
  keys_updateDeal db event.dealId fun _ => rfl

theorem length_keys : db.keys.length = db.deals.length :=
  List.length_map _

theorem keys_patchDeal (dealId : ℕ) (patch : DealPatch) (actor : SyncActor) (now : Timestamp) :
    (patchDeal dealId patch actor now db).keys = db.keys := by
  unfold patchDeal
  split
  · rw [keys_recordAuditEvent]
    exact keys_updateDeal db dealId fun _ => rfl
  · rfl

theorem sequences_patchDeal (dealId : ℕ) (patch : DealPatch) (actor : SyncActor)
    (now : Timestamp) : (patchDeal dealId patch actor now db).sequences = db.sequences := by
  unfold patchDeal
  split <;> rfl

end RegistryDb

/-- What a commit does: it keeps the keys and the sequence, or it adds a deal for a new order with
the value it has read, or the first one, and moves the sequence on. -/
inductive CommitEffect (sync : DealSync) (db after : RegistryDb) : Prop
  | kept (keys : after.keys = db.keys) (sequences : after.sequences = db.sequences)
  | inserted (value : ℕ) (missing : sync.found = none)
      (read : sync.sequence = .locked value ∨
        sync.sequence = .absent ∧ db.sequences.get "DEAL" = none ∧ value = firstSequenceValue)
      (fresh : sync.ctx.odooSaleOrderId ∉ db.keys.map (·.odooSaleOrderId))
      (keys : after.keys = db.keys ++
        [⟨db.keys.length, sequenceReference "D" value, sync.ctx.odooSaleOrderId⟩])
      (sequences : after.sequences = db.sequences.set "DEAL" (value + 1))

theorem insertDeal_effect {sync : DealSync} {value : ℕ} {now : Timestamp} {db after : RegistryDb}
    (inserted : insertDeal sync value now db = some after) :
    sync.ctx.odooSaleOrderId ∉ db.keys.map (·.odooSaleOrderId) ∧
      after.keys = db.keys ++
        [⟨db.keys.length, sequenceReference "D" value, sync.ctx.odooSaleOrderId⟩] ∧
      after.sequences = db.sequences.set "DEAL" (value + 1) := by
  unfold insertDeal at inserted
  dsimp only at inserted
  split at inserted
  · cases inserted
  · next unique =>
      cases inserted
      refine ⟨fun mem => unique ?_, ?_, rfl⟩
      · unfold RegistryDb.keys at mem
        rw [List.map_map] at mem
        obtain ⟨r, mem, same⟩ := List.mem_map.mp mem
        exact List.any_eq_true.mpr ⟨r, mem, decide_eq_true (.inl same)⟩
      · rw [RegistryDb.keys_recordAuditEvent, RegistryDb.length_keys]
        unfold RegistryDb.keys
        rw [List.map_append]
        rfl

theorem commitSync_effect (sync : DealSync) (now : Timestamp) (db : RegistryDb) :
    CommitEffect sync db ((commitSync sync now db).getD db) := by
  cases committed : commitSync sync now db with
  | none => exact .kept rfl rfl
  | some after =>
      rw [Option.getD_some]
      unfold commitSync at committed
      split at committed
      · cases committed
        refine .kept ?_ rfl
        rw [RegistryDb.keys_recordAuditEvent]
        exact RegistryDb.keys_updateDeal db _ fun _ => rfl
      · cases committed
      · next missing absent =>
          split at committed
          · cases committed
          · next none =>
              obtain ⟨fresh, keys, sequences⟩ := insertDeal_effect committed
              exact .inserted _ missing (.inr ⟨absent, not_not.mp none, rfl⟩) fresh keys sequences
      · next value missing locked =>
          obtain ⟨fresh, keys, sequences⟩ := insertDeal_effect committed
          exact .inserted value missing (.inl locked) fresh keys sequences

/-! ### The invariant -/

/-- So many deals are numbered from the first value on, one for an order, the sequence stands at
the next value, and who has read its row holds its lock. -/
structure Numbered (w : RegistryWorld) : Prop where
  references : w.db.keys.map (·.reference) =
    (List.range w.db.keys.length).map fun i => sequenceReference "D" (firstSequenceValue + i)
  orders : (w.db.keys.map (·.odooSaleOrderId)).Nodup
  sequence : w.db.sequences.get "DEAL" =
    if w.db.keys.length = 0 then none else some (firstSequenceValue + w.db.keys.length)
  holder : ∀ session sync value, w.syncs session = some sync → sync.sequence = .locked value →
    w.lock = some session ∧ w.db.sequences.get "DEAL" = some value

/-- Ending a transaction that leaves keys and sequence alone keeps the numbers. -/
theorem Numbered.finish {w : RegistryWorld} (numbered : Numbered w) (session : ℕ) {db : RegistryDb}
    (keys : db.keys = w.db.keys) (sequences : db.sequences = w.db.sequences) :
    Numbered (w.finish session db) where
  references := by
    change db.keys.map (·.reference) = _
    rw [keys]
    exact keys ▸ numbered.references
  orders := by
    change (db.keys.map (·.odooSaleOrderId)).Nodup
    rw [keys]
    exact numbered.orders
  sequence := by
    change db.sequences.get "DEAL" =
      if db.keys.length = 0 then none else some (firstSequenceValue + db.keys.length)
    rw [keys, sequences]
    exact numbered.sequence
  holder other sync value open' locked := by
    change Function.update w.syncs session none other = some sync at open'
    by_cases same : other = session
    · subst same
      rw [Function.update_self] at open'
      cases open'
    · rw [Function.update_of_ne same] at open'
      obtain ⟨lock, get⟩ := numbered.holder other sync value open' locked
      refine ⟨?_, sequences ▸ get⟩
      change w.lock.filter (· ≠ session) = some other
      rw [lock]
      simp [Option.filter, same]

/-- The number that a session has read, or starts from, is the next one. -/
theorem Numbered.position {w : RegistryWorld} (numbered : Numbered w) {session value : ℕ}
    {sync : DealSync} (own : w.syncs session = some sync)
    (read : sync.sequence = .locked value ∨
      sync.sequence = .absent ∧ w.db.sequences.get "DEAL" = none ∧ value = firstSequenceValue) :
    value = firstSequenceValue + w.db.keys.length := by
  have sequence := numbered.sequence
  rcases read with locked | ⟨-, absent, first⟩
  · rw [(numbered.holder session sync value own locked).2] at sequence
    split at sequence
    · cases sequence
    · exact Option.some.inj sequence
  · rw [absent] at sequence
    split at sequence
    · next none => rw [none, first, Nat.add_zero]
    · cases sequence

/-- A commit that adds a deal continues the numbers. -/
theorem Numbered.insert {w : RegistryWorld} (numbered : Numbered w) {session value : ℕ}
    {sync : DealSync} (own : w.syncs session = some sync) {db : RegistryDb}
    (read : sync.sequence = .locked value ∨
      sync.sequence = .absent ∧ w.db.sequences.get "DEAL" = none ∧ value = firstSequenceValue)
    (fresh : sync.ctx.odooSaleOrderId ∉ w.db.keys.map (·.odooSaleOrderId))
    (keys : db.keys = w.db.keys ++
      [⟨w.db.keys.length, sequenceReference "D" value, sync.ctx.odooSaleOrderId⟩])
    (sequences : db.sequences = w.db.sequences.set "DEAL" (value + 1)) :
    Numbered (w.finish session db) := by
  have position := numbered.position own read
  refine ⟨?_, ?_, ?_, ?_⟩
  · change db.keys.map (·.reference) =
      (List.range db.keys.length).map fun i => sequenceReference "D" (firstSequenceValue + i)
    rw [keys, List.map_append, numbered.references, List.length_append, List.length_singleton,
      List.range_succ, List.map_append, position]
    rfl
  · change (db.keys.map (·.odooSaleOrderId)).Nodup
    rw [keys, List.map_append]
    refine List.nodup_append.mpr ⟨numbered.orders, List.nodup_singleton _, ?_⟩
    intro order mem new memNew same
    rw [List.map_singleton, List.mem_singleton] at memNew
    rw [same, memNew] at mem
    exact fresh mem
  · change db.sequences.get "DEAL" =
      if db.keys.length = 0 then none else some (firstSequenceValue + db.keys.length)
    rw [sequences, Dict.get_set, if_pos rfl, keys, List.length_append, List.length_singleton,
      if_neg (Nat.succ_ne_zero _), position, Nat.add_assoc]
  · intro other rival held open' locked
    change Function.update w.syncs session none other = some rival at open'
    -- the lock of the row, or its absence, leaves no other reader
    by_cases same : other = session
    · subst same
      rw [Function.update_self] at open'
      cases open'
    · rw [Function.update_of_ne same] at open'
      obtain ⟨lock, get⟩ := numbered.holder other rival held open' locked
      rcases read with own' | ⟨-, absent, -⟩
      · rw [(numbered.holder session sync value own own').1] at lock
        exact absurd (Option.some.inj lock).symm same
      · rw [absent] at get
        cases get

theorem Numbered.reserve {w : RegistryWorld} (numbered : Numbered w) (session : ℕ) :
    Numbered (w.reserve session) := by
  unfold RegistryWorld.reserve
  split
  · next ctx actor own =>
      split
      · refine ⟨numbered.references, numbered.orders, numbered.sequence, ?_⟩
        intro other sync value open' locked
        dsimp only at open'
        by_cases same : other = session
        · subst same
          rw [Function.update_self] at open'
          cases open'
          cases locked
        · rw [Function.update_of_ne same] at open'
          exact numbered.holder other sync value open' locked
      · next value get free =>
          refine ⟨numbered.references, numbered.orders, numbered.sequence, ?_⟩
          intro other sync held open' locked
          dsimp only at open'
          by_cases same : other = session
          · subst same
            rw [Function.update_self] at open'
            cases open'
            cases locked
            exact ⟨rfl, get⟩
          · rw [Function.update_of_ne same] at open'
            have lock := (numbered.holder other sync held open' locked).1
            rw [free] at lock
            cases lock
      · exact numbered
  · exact numbered

theorem startSync_unread {db : RegistryDb} {orderId : ℤ}
    {ctx : Except DealFlowException DealContext} {expectedVersion : Option ℤ} {actor : SyncActor}
    {sync : DealSync}
    (started : RegistryWorld.startSync db orderId ctx expectedVersion actor = some sync) :
    sync.sequence = .unread := by
  unfold RegistryWorld.startSync at started
  split at started
  · cases started
  · dsimp only at started
    split at started
    · cases started
    · cases started
      rfl

/-- Every step keeps the numbers. -/
theorem Numbered.apply {w : RegistryWorld} (numbered : Numbered w) (op : RegistryOp) :
    Numbered (w.apply op) := by
  cases op with
  | read session orderId ctx expectedVersion actor =>
      unfold RegistryWorld.apply
      dsimp only
      split
      · exact numbered
      · refine ⟨numbered.references, numbered.orders, numbered.sequence, ?_⟩
        intro other sync value open' locked
        dsimp only at open'
        by_cases same : other = session
        · subst same
          rw [Function.update_self] at open'
          rw [startSync_unread open'] at locked
          cases locked
        · rw [Function.update_of_ne same] at open'
          exact numbered.holder other sync value open' locked
  | reserve session => exact numbered.reserve session
  | commit session now =>
      unfold RegistryWorld.apply
      dsimp only
      split
      · exact numbered
      · next sync own =>
          cases commitSync_effect sync now w.db with
          | kept keys sequences => exact numbered.finish session keys sequences
          | inserted value missing read fresh keys sequences =>
              exact numbered.insert own read fresh keys sequences
  | rollback session => exact numbered.finish session rfl rfl
  | patch dealId patch actor now =>
      unfold RegistryWorld.apply
      dsimp only
      refine ⟨?_, ?_, ?_, ?_⟩
      · rw [RegistryDb.keys_patchDeal]
        exact numbered.references
      · rw [RegistryDb.keys_patchDeal]
        exact numbered.orders
      · rw [RegistryDb.keys_patchDeal, RegistryDb.sequences_patchDeal]
        exact numbered.sequence
      · rw [RegistryDb.sequences_patchDeal]
        exact numbered.holder

/-! ### Runs -/

theorem numbered_start : Numbered {} where
  references := rfl
  orders := List.nodup_nil
  sequence := (Dict.get_empty "DEAL").trans (if_pos rfl).symm
  holder session sync value open' := by cases open'

theorem numbered_run (ops : List RegistryOp) : Numbered (run RegistryWorld.apply ops {}) :=
  (run_invariant RegistryWorld.apply Numbered numbered_start
    (fun _ op numbered => numbered.apply op) ops).2

/-- A step leaves the keys there are, at the start of those there will be. -/
theorem keys_apply (w : RegistryWorld) (op : RegistryOp) : w.db.keys <+: (w.apply op).db.keys := by
  cases op with
  | read session orderId ctx expectedVersion actor =>
      unfold RegistryWorld.apply
      dsimp only
      split <;> exact List.prefix_rfl
  | reserve session =>
      change w.db.keys <+: (w.reserve session).db.keys
      unfold RegistryWorld.reserve
      split
      · split <;> exact List.prefix_rfl
      · exact List.prefix_rfl
  | commit session now =>
      unfold RegistryWorld.apply
      dsimp only
      split
      · exact List.prefix_rfl
      · next sync own =>
          change w.db.keys <+: ((commitSync sync now w.db).getD w.db).keys
          cases commitSync_effect sync now w.db with
          | kept keys sequences => rw [keys]
          | inserted value missing read fresh keys sequences =>
              rw [keys]
              exact List.prefix_append _ _
  | rollback session => exact List.prefix_rfl
  | patch dealId patch actor now =>
      change w.db.keys <+: (patchDeal dealId patch actor now w.db).keys
      rw [RegistryDb.keys_patchDeal]

/-- Whatever sessions do and however their transactions interleave, the deals are numbered from
D-1001 on without a gap, no two have one reference or one order, and no deal ever changes its id,
its reference or its order. -/
theorem deals_numbered (ops : List RegistryOp) :
    let deals := (run RegistryWorld.apply ops {}).db.deals
    (deals.map (·.deal.reference) =
        (List.range deals.length).map fun i => s!"D-{1001 + i}") ∧
      (deals.map (·.deal.reference)).Nodup ∧ (deals.map (·.deal.odooSaleOrderId)).Nodup ∧
      ∀ earlier later, ops = earlier ++ later →
        (run RegistryWorld.apply earlier {}).db.deals.map DealRecord.key <+:
          deals.map DealRecord.key := by
  dsimp only
  have numbered := numbered_run ops
  have references := numbered.references
  rw [RegistryDb.length_keys] at references
  unfold RegistryDb.keys at references
  rw [List.map_map] at references
  have orders := numbered.orders
  unfold RegistryDb.keys at orders
  rw [List.map_map] at orders
  refine ⟨references, ?_, orders, ?_⟩
  · change ((run RegistryWorld.apply ops {}).db.deals.map
      ((·.reference) ∘ DealRecord.key)).Nodup
    rw [references]
    refine List.nodup_range.map fun i j same => ?_
    have digits : toString (firstSequenceValue + i) = toString (firstSequenceValue + j) := by
      simpa [sequenceReference] using same
    exact Nat.add_left_cancel (toString_injective digits)
  · rintro earlier later rfl
    rw [run_append]
    exact run_related (R := fun (w w' : RegistryWorld) => w.db.keys <+: w'.db.keys)
      (fun w => List.prefix_rfl) (fun a b c first second => first.trans second)
      fun t _ => keys_apply t.1 t.2

/-! ## Paging through a search -/

/-- The rows as `ORDER BY last_activity_at DESC` may give them. -/
abbrev ServedByActivity : (List DealRecord → List DealRecord) → Prop :=
  NewestFirst fun r => r.deal.lastActivityAt

section Search

variable (collation : Collation)

/-- All pages of a list, each from the order its own query gives. -/
def allPages (serve : ℕ → List DealRecord → List DealRecord) (db : RegistryDb)
    (params : DealFilterParams) (pageSize : ℕ) : List DealRecord :=
  let totalPages := pageCount pageSize (db.deals.filter (params.admits collation)).length
  (List.range totalPages).flatMap fun n =>
    (listDeals collation (serve n) db params { page := n + 1, pageSize }).1

/-- The text occurs in the column, whatever the case, as the database folds it. -/
def Mentions (query text : String) : Prop :=
  (collation.lower query).toList <:+: (collation.lower text).toList

variable {collation}

/-- Where the moments differ, the pages of all queries are those of the first. -/
theorem allPages_eq {serve : ℕ → List DealRecord → List DealRecord}
    (served : ∀ n, ServedByActivity (serve n)) {db : RegistryDb} {params : DealFilterParams}
    (distinct : ((db.deals.filter (params.admits collation)).map (·.deal.lastActivityAt)).Nodup)
    {pageSize : ℕ} (pos : 0 < pageSize) :
    allPages collation serve db params pageSize =
      serve 0 (db.deals.filter (params.admits collation)) := by
  have pages : allPages collation serve db params pageSize =
      (List.range (pageCount pageSize
          (serve 0 (db.deals.filter (params.admits collation))).length)).flatMap
        (pageOf pageSize · (serve 0 (db.deals.filter (params.admits collation)))) := by
    unfold allPages listDeals paginateQuery
    rw [((served 0).perm _).length_eq]
    exact List.flatMap_congr fun n _ => pageOf_served served distinct pageSize n
  rw [pages, flatten_pages pos]

theorem ilike_plain {query : String}
    (plain : ∀ c ∈ (collation.lower query).toList, isPlain c = true) (text : String) :
    ilike collation query text = true ↔ Mentions collation query text := by
  unfold ilike Mentions
  rw [collation.lower_pattern, likeMatch_contained plain, Option.getD_some, decide_eq_true_eq]

/-- The pages of a search for a plain text show each deal that mentions it once, newest first. -/
theorem search_pages {serve : ℕ → List DealRecord → List DealRecord}
    (served : ∀ n, ServedByActivity (serve n)) (db : RegistryDb) {query : String}
    (some' : query ≠ "") (plain : ∀ c ∈ (collation.lower query).toList, isPlain c = true)
    (distinct : ((db.deals.filter
      (({ query := some query } : DealFilterParams).admits collation)).map
      (·.deal.lastActivityAt)).Nodup) {pageSize : ℕ} (pos : 0 < pageSize) :
    let shown := allPages collation serve db { query := some query } pageSize
    (∀ r, r ∈ shown ↔ r ∈ db.deals ∧ (Mentions collation query r.deal.reference ∨
        Mentions collation query r.deal.odooOrderName ∨
        Mentions collation query r.deal.partnerNameCache)) ∧
      shown.Pairwise fun a b => b.deal.lastActivityAt < a.deal.lastActivityAt := by
  dsimp only
  rw [allPages_eq served distinct pos]
  constructor
  · intro r
    rw [((served 0).perm _).mem_iff, List.mem_filter]
    refine and_congr_right fun _ => ?_
    simp [DealFilterParams.admits, DealFilterParams.idFilter, Option.filter, some',
      ilike_plain plain, or_assoc]
  · exact (served 0).strictly distinct

end Search

/-- A locale that folds the letters of ASCII and an accented one. -/
def accentedLocale : Collation where
  lower text := String.ofList (text.toList.map fun c => if c = 'É' then 'é' else c.toLower)
  lower_pattern text := by
    simp only [String.toList_append, List.map_append, String.toList_ofList]
    rfl

/-- Three deals of one customer on pages of two. -/
theorem search_two_pages :
    let record (id : ℕ) (lastActivityAt : Timestamp) : DealRecord :=
      { deal :=
          { id, reference := s!"D-{1001 + id}", odooSaleOrderId := id, odooOrderName := "S",
            odooPartnerId := 1, partnerNameCache := "CAFÉ Noir", ownerOdooUserId := 4
            lastActivityAt } }
    let db : RegistryDb := { deals := [record 0 10, record 1 30, record 2 20] }
    let serve : ℕ → List DealRecord → List DealRecord := fun _ rows =>
      rows.insertionSort fun a b => b.deal.lastActivityAt ≤ a.deal.lastActivityAt
    let shown := allPages accentedLocale serve db { query := some "café" } 2
    shown.length = 3 ∧
      shown.Pairwise fun a b => b.deal.lastActivityAt < a.deal.lastActivityAt := by
  intro record db serve shown
  have plain : (accentedLocale.lower "café").toList.all isPlain = true := by decide +kernel
  exact ⟨by decide +kernel,
    (search_pages (fun _ => newestFirst_insertionSort _) db (by decide)
      (List.all_eq_true.mp plain) (by decide +kernel) Nat.two_pos).2⟩

end DealFlow
