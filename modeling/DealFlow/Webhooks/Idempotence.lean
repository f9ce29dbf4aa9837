import DealFlow.Api.Events
import DealFlow.Lib.Run

/-!
# Webhooks are handled once

Odoo delivers an event again, under the same event id, when it has not heard of its handling.  The
record of the event id is written in the transaction of its effect: a delivery that raises leaves
neither, one that comes through leaves both (`handle_failed`, `handle_processed`), and the record is
never removed.  So a sequence of deliveries leaves what the first of each event id that came through
leaves (`webhooks_idempotent`).
-/

namespace DealFlow

open Lib

/-- The handling raised and was rolled back. -/
def WebhookDelivery.failed (d : WebhookDelivery) : Bool :=
  d.raisesAfter.isSome

/-- The first delivery of each event id that came through, in order. -/
def handledDeliveries (deliveries : List WebhookDelivery) : List WebhookDelivery :=
  firsts (·.payload.eventId) WebhookDelivery.failed [] deliveries

theorem handle_failed (d : WebhookDelivery) (db : EventDb) (failed : d.failed = true) :
    d.handle db = db := by
  obtain ⟨k, raises⟩ := Option.isSome_iff_exists.mp failed
  unfold WebhookDelivery.handle WebhookDelivery.session
  rw [raises]
  rfl

theorem handle_duplicate (d : WebhookDelivery) (db : EventDb)
    (processed : db.processed d.payload.eventId) : d.handle db = db := by
  unfold WebhookDelivery.handle WebhookDelivery.session handlerStatements
  rw [if_pos processed]
  cases d.raisesAfter <;> rfl

/-! ## The record of the event ids -/

/-- A statement removes no event id. -/
def KeepsProcessed (statement : EventDb → EventDb) : Prop :=
  ∀ db eventId, db.processed eventId → (statement db).processed eventId

theorem keepsProcessed_updateDeal (dealId : ℕ) (f : Deal → Deal) :
    KeepsProcessed (·.updateDeal dealId f) :=
  fun _ _ processed => processed

theorem keepsProcessed_recordAuditEvent (row : DealAudit) :
    KeepsProcessed (·.recordAuditEvent row) :=
  fun _ _ processed => processed

theorem keepsProcessed_updateProcessed (eventId : String) {f : ProcessedEvent → ProcessedEvent}
    (same : ∀ e, (f e).eventId = e.eventId) : KeepsProcessed (·.updateProcessed eventId f) := by
  intro db id processed
  unfold EventDb.processed EventDb.updateProcessed at *
  dsimp only
  obtain ⟨e, mem, rfl⟩ := List.mem_map.mp processed
  rw [List.map_map]
  refine List.mem_map.mpr ⟨e, mem, ?_⟩
  rw [Function.comp_apply]
  split
  · exact same e
  · rfl

theorem keepsProcessed_dispatch (payload : OdooEventPayload) (now : Timestamp) (deal : Deal) :
    ∀ statement ∈ dispatchStatements payload now deal, KeepsProcessed statement := by
  unfold dispatchStatements
  dsimp only
  split
  · simp only [List.forall_mem_cons]
    exact ⟨keepsProcessed_updateDeal _ _, keepsProcessed_updateDeal _ _,
      keepsProcessed_recordAuditEvent _, nofun⟩
  · simp only [List.forall_mem_cons]
    exact ⟨keepsProcessed_updateDeal _ _, keepsProcessed_recordAuditEvent _, nofun⟩

/-- The handler registers the event id first, and nothing after that removes one. -/
theorem handlerStatements_new {payload : OdooEventPayload} (now : Timestamp) {db : EventDb}
    (new : ¬ db.processed payload.eventId) :
    ∃ rest, handlerStatements payload now db =
        (fun db =>
          { db with processedEvents := db.processedEvents ++ [registration payload now] }) :: rest ∧
      ∀ statement ∈ rest, KeepsProcessed statement := by
  unfold handlerStatements
  rw [if_neg new]
  dsimp only
  rw [List.append_assoc, List.append_assoc, List.singleton_append]
  refine ⟨_, rfl, List.forall_mem_append.mpr ⟨?_, List.forall_mem_append.mpr ⟨?_, ?_⟩⟩⟩
  · cases db.findDeal payload.resolvedRecordId with
    | none => exact nofun
    | some deal =>
        intro statement mem
        rw [List.mem_singleton.mp mem]
        exact keepsProcessed_updateProcessed _ fun _ => rfl
  · split
    · cases db.findDeal payload.resolvedRecordId with
      | none => exact nofun
      | some deal => exact keepsProcessed_dispatch payload now deal
    · exact nofun
  · intro statement mem
    rw [List.mem_singleton.mp mem]
    exact keepsProcessed_updateProcessed _ fun _ => rfl

theorem foldl_keepsProcessed {statements : List (EventDb → EventDb)}
    (keeps : ∀ statement ∈ statements, KeepsProcessed statement) {db : EventDb} {eventId : String}
    (processed : db.processed eventId) :
    (statements.foldl (fun db statement => statement db) db).processed eventId := by
  induction statements generalizing db with
  | nil => exact processed
  | cons statement statements ih =>
      obtain ⟨first, rest⟩ := List.forall_mem_cons.mp keeps
      exact ih rest (first db eventId processed)

/-- A delivery that comes through leaves its event id recorded. -/
theorem handle_processed (d : WebhookDelivery) (db : EventDb) (through : d.failed = false) :
    (d.handle db).processed d.payload.eventId := by
  by_cases known : db.processed d.payload.eventId
  · rw [handle_duplicate d db known]
    exact known
  · obtain ⟨rest, statements, keeps⟩ := handlerStatements_new d.now known
    have raises : d.raisesAfter = none := Option.isNone_iff_eq_none.mp
      (Option.isSome_eq_false_iff.mp through)
    unfold WebhookDelivery.handle WebhookDelivery.session
    rw [raises]
    dsimp only
    rw [statements]
    refine foldl_keepsProcessed keeps ?_
    unfold EventDb.processed
    rw [List.map_append]
    exact List.mem_append_right _ (List.mem_singleton_self _)

theorem handle_keepsProcessed (d : WebhookDelivery) : KeepsProcessed d.handle := by
  intro db eventId processed
  by_cases failed : d.failed = true
  · rw [handle_failed d db failed]
    exact processed
  by_cases known : db.processed d.payload.eventId
  · rw [handle_duplicate d db known]
    exact processed
  · obtain ⟨rest, statements, keeps⟩ := handlerStatements_new d.now known
    unfold WebhookDelivery.handle WebhookDelivery.session
    rw [Option.not_isSome_iff_eq_none.mp failed]
    dsimp only
    rw [statements]
    refine foldl_keepsProcessed keeps ?_
    unfold EventDb.processed at *
    rw [List.map_append]
    exact List.mem_append_left _ processed

/-- Whatever is delivered again and whatever fails, the database ends up as the first delivery of
each event id that came through leaves it, its deals and audit events among the rest. -/
theorem webhooks_idempotent (deliveries : List WebhookDelivery) (db : EventDb) :
    run WebhookDelivery.handle deliveries db =
      run WebhookDelivery.handle (handledDeliveries deliveries) db :=
  run_firsts EventDb.processed handle_failed handle_duplicate handle_processed
    handle_keepsProcessed deliveries nofun

end DealFlow
