import DealFlow.Models.Store
import Mathlib.Data.List.Sort

/-!
# The outbox of gateway mutations

`queue_mutation` and `drain_outbox` of `app/odoo/outbox.py`.  A record holds one call of the
gateway.  A run of the drain takes up to `max_records` of the records that are due, oldest first,
and tries each once: a call that returns marks its record as processed, one that raises leaves it to
a later run until its fifth attempt.

Records are numbered as they are queued.  The outbox keeps the calls that have been tried beside its
rows, and `effects` lists those that returned: a call that raises has done nothing.
-/

namespace DealFlow

/-- An argument of a queued call: an integer, or any other value by its JSON text. -/
inductive OutboxArg
  | int (n : ℤ)
  | json (text : String)
  deriving DecidableEq, Repr

structure OutboxCall where
  method : String
  args : List OutboxArg := []
  kwargs : List (String × OutboxArg) := []
  deriving DecidableEq, Repr

/-- The mutations of the gateway that take `order_id` first. -/
def orderMutations : List String :=
  ["apply_line_changes", "add_line", "set_governance", "confirm", "cancel",
    "apply_fulfillment_plan"]

/-- The order a call names. -/
def OutboxCall.orderId (c : OutboxCall) : Option ℤ :=
  if c.method ∈ orderMutations then
    match c.args.head?.or (c.kwargs.lookup "order_id") with
    | some (.int n) => some n
    | _ => none
  else none

inductive OutboxStatus
  | pending
  | processed
  | failed
  deriving DecidableEq, Repr

structure OdooOutbox where
  id : ℕ
  call : OutboxCall
  status : OutboxStatus := .pending
  attempts : ℕ := 0
  lastError : Option String := none
  createdAt : Timestamp
  processedAt : Option Timestamp := none
  deriving DecidableEq, Repr

/-- How a call of the gateway ends. -/
inductive CallOutcome
  | returns
  | capabilityMissing (methodName : String)
  | raises (error : String)
  deriving DecidableEq, Repr

/-- A call that was tried: its record, and how it ended. -/
structure TriedCall where
  record : ℕ
  call : OutboxCall
  outcome : CallOutcome
  deriving DecidableEq, Repr

structure Outbox where
  rows : List OdooOutbox := []
  tried : List TriedCall := []
  deriving DecidableEq, Repr

/-- A run of the drain: its limit, the time it writes, the methods the gateway has, and how a call
for each record ends. -/
structure DrainRun where
  maxRecords : ℤ := 50
  now : Timestamp
  hasMethod : String → Bool
  outcome : ℕ → CallOutcome

def queueMutation (call : OutboxCall) (now : Timestamp) (db : Outbox) : Outbox :=
  { db with rows := db.rows ++ [{ id := db.rows.length, call, createdAt := now }] }

/-- `status IN ('PENDING', 'FAILED') AND attempts < 5`. -/
def OdooOutbox.due (r : OdooOutbox) : Bool :=
  r.status ≠ .processed ∧ r.attempts < 5

/-- The records a drain takes.  The database refuses a negative limit, and nothing happens then. -/
def Outbox.selected (db : Outbox) (maxRecords : ℤ) : List OdooOutbox :=
  ((db.rows.filter OdooOutbox.due).insertionSort fun a b => a.createdAt ≤ b.createdAt).take
    maxRecords.toNat

namespace DrainRun

/-- How the call of a record ends, a method the gateway does not have among the rest. -/
def callOutcome (run : DrainRun) (r : OdooOutbox) : CallOutcome :=
  if run.hasMethod r.call.method = true then run.outcome r.id
  else .raises s!"Gateway has no method '{r.call.method}'"

def comesThrough (run : DrainRun) (r : OdooOutbox) : Bool :=
  run.callOutcome r = .returns

/-- One pass of the loop on its record. -/
def attempt (run : DrainRun) (r : OdooOutbox) : OdooOutbox :=
  let attempts := r.attempts + 1
  match run.callOutcome r with
  | .returns =>
      { r with attempts, status := .processed, processedAt := some run.now, lastError := none }
  | .capabilityMissing methodName =>
      { r with
        attempts
        status := .failed
        lastError := some s!"Odoo capability missing: {methodName}" }
  | .raises error =>
      { r with
        attempts
        status := if attempts ≥ 5 then .failed else .pending
        lastError := some error }

def trial (run : DrainRun) (r : OdooOutbox) : TriedCall :=
  ⟨r.id, r.call, run.callOutcome r⟩

/-- One pass of the loop on the outbox and the number of processed records. -/
def drainRecord (run : DrainRun) (s : Outbox × ℕ) (rec : OdooOutbox) : Outbox × ℕ :=
  ({ rows := s.1.rows.map fun r => if r.id = rec.id then run.attempt r else r
     tried := s.1.tried ++ [run.trial rec] },
    if run.comesThrough rec = true then s.2 + 1 else s.2)

end DrainRun

/-- The outbox after the run, and the number of records it processed. -/
def drainOutbox (run : DrainRun) (db : Outbox) : Outbox × ℕ :=
  (db.selected run.maxRecords).foldl run.drainRecord (db, 0)

/-- The calls that took effect, in the order they did. -/
def Outbox.effects (db : Outbox) : List TriedCall :=
  db.tried.filter fun t => t.outcome = .returns

inductive OutboxOp
  | queue (call : OutboxCall) (now : Timestamp)
  | drain (run : DrainRun)

def OutboxOp.step : OutboxOp → Outbox → Outbox
  | .queue call now, db => queueMutation call now db
  | .drain run, db => (drainOutbox run db).1

end DealFlow
