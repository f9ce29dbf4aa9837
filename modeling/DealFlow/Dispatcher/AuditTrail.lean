import DealFlow.Addon.IntegrationService
import DealFlow.Lib.Bounded
import DealFlow.Lib.Run

/-!
# The audit trail of the service

`_operation_boundary`, `_log_audit` and `get_audit_logs` of
`dealflow_odoo/services/integration_service.py`.  What an operation does inside the boundary, on the
adapters and on the dispatcher, is up to the operation; it may also set the deal of its audit entry.
Of an entry's details the error's code is kept.

Whatever the operations do, the audit log of a service holds one entry for each of the last thousand
calls, in their order, and the entry says what the caller was told (`audit_trail`).
-/

namespace DealFlow.Addon

open Lib

/-! ## The boundary of an operation -/

/-- What is raised inside the boundary: by the integration or Odoo, or anything else. -/
inductive ServiceException
  | odoo (e : OdooException)
  | other (message : String)
  deriving DecidableEq, Repr

inductive AuditResult
  | success | failure
  deriving DecidableEq, Repr

def AuditResult.value : AuditResult → String
  | .success => "SUCCESS"
  | .failure => "FAILURE"

structure AuditEntry where
  operation : String
  dealflowDealId : Option String
  recordId : Option ℤ
  actor : String
  timestamp : String
  result : AuditResult
  failureReason : Option String := none
  code : Option String := none
  deriving DecidableEq, Repr

/-- The calls on a service: `W` is what its adapters and its dispatcher work on. -/
structure ServiceState (W : Type) where
  world : W
  /-- Oldest first. -/
  auditLogs : List AuditEntry := []

/-- An operation of the service, with the time it starts at.  Its body gives the deal that it has
found besides its result. -/
structure ServiceOperation (W R : Type) where
  operation : String
  recordId : Option ℤ := none
  dealflowDealId : Option String := none
  actor : String
  startTime : String
  body : W → Except ServiceException R × Option String × W

/-- The most entries an audit log keeps. -/
def maxAuditLogs : ℕ := 1000

/-- `_log_audit`. -/
def logAudit (logs : List AuditEntry) (entry : AuditEntry) : List AuditEntry :=
  if maxAuditLogs < (logs ++ [entry]).length then (logs ++ [entry]).tail else logs ++ [entry]

/-- `get_audit_logs`. -/
def getAuditLogs (limit : ℤ) (logs : List AuditEntry) : List AuditEntry :=
  (sliceFrom (-limit) logs).reverse

/-- The error that leaves the boundary. -/
def boundaryError (operation : String) : ServiceException → DealFlowIntegrationError
  | .odoo e => translateException e
  | .other message => odooExecutionError s!"Execution failed during {operation}: {message}"

/-- `failure_reason`. -/
def failureReason (operation : String) : ServiceException → String
  | .odoo e => e.message
  | .other message => s!"Execution failed during {operation}: {message}"

/-- The code that the entry of an error of the integration itself carries. -/
def ServiceException.code : ServiceException → Option String
  | .odoo (.integration e) => some e.code
  | _ => none

section Boundary

variable {W R : Type}

/-- The entry of an operation by how its body ended. -/
def auditEntry (op : ServiceOperation W R) (dealId : Option String)
    (result : Except ServiceException R) : AuditEntry :=
  match result with
  | .ok _ =>
      { operation := op.operation
        dealflowDealId := dealId
        recordId := op.recordId
        actor := op.actor
        timestamp := op.startTime
        result := .success }
  | .error e =>
      { operation := op.operation
        dealflowDealId := dealId
        recordId := op.recordId
        actor := op.actor
        timestamp := op.startTime
        result := .failure
        failureReason := some (failureReason op.operation e)
        code := e.code }

/-- `_operation_boundary` around a body. -/
def performOperation (op : ServiceOperation W R) (s : ServiceState W) :
    Except DealFlowIntegrationError R × ServiceState W :=
  let (result, found, world) := op.body s.world
  let entry := auditEntry op (found.or op.dealflowDealId) result
  (result.mapError (boundaryError op.operation), { world, auditLogs := logAudit s.auditLogs entry })

def operationStep (op : ServiceOperation W R) (s : ServiceState W) : ServiceState W :=
  (performOperation op s).2

end Boundary

/-! ## Runs of calls -/

/-- An entry is pushed into a buffer that is not overfull. -/
theorem logAudit_eq {logs : List AuditEntry} (bounded : logs.length ≤ maxAuditLogs)
    (entry : AuditEntry) : logAudit logs entry = pushBounded maxAuditLogs logs entry := by
  have length : (logs ++ [entry]).length = logs.length + 1 := List.length_append
  unfold logAudit pushBounded
  split
  · next full =>
      have excess : (logs ++ [entry]).length - maxAuditLogs = 1 := by omega
      unfold List.rtake
      rw [excess, List.drop_one]
  · next room => exact (rtake_of_length_le _ (not_lt.mp room)).symm

section Trail

variable {W R : Type}

/-- The reason of a failure is the message of the error that the caller gets. -/
theorem failureReason_eq (operation : String) (e : ServiceException) :
    failureReason operation e = (boundaryError operation e).message := by
  cases e with
  | other message => rfl
  | odoo e =>
      cases e with
      | userError message =>
          unfold boundaryError translateException
          dsimp only
          split <;> rfl
      | integration | validationError | accessError | missingError => rfl

/-- The entry of a call tells what the caller was told. -/
structure TellsOutcome (op : ServiceOperation W R) (answer : Except DealFlowIntegrationError R)
    (entry : AuditEntry) : Prop where
  operation : entry.operation = op.operation
  recordId : entry.recordId = op.recordId
  actor : entry.actor = op.actor
  timestamp : entry.timestamp = op.startTime
  success : entry.result = .success ↔ ∃ r, answer = .ok r
  reason : ∀ e, answer = .error e → entry.failureReason = some e.message
  noReason : ∀ r, answer = .ok r → entry.failureReason = none

/-- The entry that a call on a state leaves. -/
def entryOf (t : ServiceState W × ServiceOperation W R) : AuditEntry :=
  let (result, found, _) := t.2.body t.1.world
  auditEntry t.2 (found.or t.2.dealflowDealId) result

theorem entryOf_tells (t : ServiceState W × ServiceOperation W R) :
    TellsOutcome t.2 (performOperation t.2 t.1).1 (entryOf t) := by
  unfold performOperation entryOf
  rcases t.2.body t.1.world with ⟨result, found, world⟩
  cases result with
  | ok r =>
      exact
        { operation := rfl, recordId := rfl, actor := rfl, timestamp := rfl
          success := iff_of_true rfl ⟨r, rfl⟩
          reason := fun _ raised => nomatch raised
          noReason := fun _ _ => rfl }
  | error e =>
      exact
        { operation := rfl, recordId := rfl, actor := rfl, timestamp := rfl
          success := iff_of_false nofun fun ⟨_, returned⟩ => nomatch returned
          reason := by
            intro raised same
            obtain rfl := Except.error.inj same
            exact congrArg some (failureReason_eq t.2.operation e)
          noReason := fun _ returned => nomatch returned }

/-- The log holds the entries of the last calls, and each tells what its caller was told. -/
theorem audit_trail (world : W) (ops : List (ServiceOperation W R)) (limit : ℕ)
    (asked : 0 < limit) :
    let start : ServiceState W := { world }
    let past := history operationStep ops start
    getAuditLogs limit (run operationStep ops start).auditLogs =
        (past.map entryOf).reverse.take (min limit maxAuditLogs) ∧
      ∀ t ∈ past, TellsOutcome t.2 (performOperation t.2 t.1).1 (entryOf t) := by
  intro start past
  have held : (run operationStep ops start).auditLogs = (past.map entryOf).rtake maxAuditLogs := by
    refine run_induction (motive := fun past (s : ServiceState W) =>
      s.auditLogs = (past.map entryOf).rtake maxAuditLogs) (List.rtake_nil _).symm ?_ ops
    intro past s op logs
    have bounded : s.auditLogs.length ≤ maxAuditLogs := by
      rw [logs]
      exact length_rtake_le _ _
    have pushed : (operationStep op s).auditLogs = logAudit s.auditLogs (entryOf (s, op)) := rfl
    rw [pushed, logAudit_eq bounded, logs, pushBounded_rtake, List.map_append, List.map_singleton]
  refine ⟨?_, fun t _ => entryOf_tells t⟩
  unfold getAuditLogs
  rw [held, sliceFrom_neg asked, reverse_rtake, reverse_rtake, List.take_take]

end Trail

/-- A call that returns and one that fails. -/
theorem audit_trail_two :
    let returns : ServiceOperation Unit Unit :=
      { operation := "get_product", recordId := some 3, actor := "system"
        startTime := "2026-09-05T10:00:00", body := fun w => (.ok (), none, w) }
    let fails : ServiceOperation Unit Unit :=
      { operation := "get_customer", recordId := some 9, actor := "system"
        startTime := "2026-09-05T10:00:01"
        body := fun w => (.error (.odoo (.missingError "Record does not exist.")), none, w) }
    let start : ServiceState Unit := { world := () }
    let past := history operationStep [returns, fails] start
    getAuditLogs 50 (run operationStep [returns, fails] start).auditLogs =
        (past.map entryOf).reverse.take (min 50 maxAuditLogs) ∧
      ∀ t ∈ past, TellsOutcome t.2 (performOperation t.2 t.1).1 (entryOf t) := by
  intro returns fails start past
  exact audit_trail () [returns, fails] 50 (by decide)

end DealFlow.Addon
