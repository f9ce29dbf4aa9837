import DealFlow.Alerts.Conditions
import DealFlow.Alerts.Lifecycle
import DealFlow.Lib.Dict
import DealFlow.Lib.Fallible
import DealFlow.Services.AuthService

/-!
# Nudges and escalations

`nudge_or_escalate_alert` of `app/services/health_service.py`.  A nudge notifies the owner of the
deal, an escalation the deal's team, and it is for managers and administrators, and for finance on a
slipping delivery.  Either is recorded in the audit log, which marks the deal as active.

So a nudge silences the alert it is about: until the deal has been idle anew for as many days as a
detector asks, its pass leaves no stalled alert open on the deal (`action_quiets`).  And the notices
and events are those of the calls that went through, one each, whatever happens in between
(`desk_accounts`).

Titles of notices are kept as what is printed into them.
-/

namespace DealFlow

open Lib

def AlertType.value : AlertType → String
  | .stalledDeal => "STALLED_DEAL"
  | .discountAnomaly => "DISCOUNT_ANOMALY"
  | .deliverySlippage => "DELIVERY_SLIPPAGE"
  | .approvalDelay => "APPROVAL_DELAY"

/-- A notification about an alert. -/
structure AlertNotice where
  recipientOdooUserId : ℤ
  type : String
  /-- The deal and the alert that the title names. -/
  reference : String
  alertTitle : AlertTitle
  body : String
  entityType : String := "deal_alert"
  entityId : ℕ
  createdAt : Timestamp
  deriving DecidableEq, Repr

inductive ActionEventType
  | nudgeSent | escalationSent
  deriving DecidableEq, Repr

/-- An audit event of an action. -/
structure ActionEvent where
  eventType : ActionEventType
  alertId : ℕ
  dealId : ℕ
  actorId : ℤ
  actorRole : Role
  reason : String
  createdAt : Timestamp
  deriving DecidableEq, Repr

/-- `last_action`, `last_action_by` and `last_action_at` of an alert. -/
structure LastAction where
  action : String
  takenBy : ℤ
  takenAt : Timestamp
  deriving DecidableEq, Repr

/-- The alerts with what is kept of actions on them, and the references of the deals. -/
structure AlertDesk extends AlertDb where
  references : ℕ → String
  lastActions : Dict ℕ LastAction := .empty
  notices : List AlertNotice := []
  actionEvents : List ActionEvent := []

/-- `message or default`. -/
def messageOr (message : Option String) (default : String) : String :=
  (message.filter (· ≠ "")).getD default

def canEscalate (actorRole : Role) (type : AlertType) : Bool :=
  actorRole ∈ [.salesManager, .admin] ∨ type = .deliverySlippage ∧ actorRole = .finance

section Action

variable (now : Timestamp) (alertId : ℕ) (message : Option String) (actorId : ℤ) (actorRole : Role)

/-- The notice to the owner of the deal. -/
def nudgeNotice (reference : String) (alert : DealAlert) (deal : DealRow) : AlertNotice :=
  { recipientOdooUserId := deal.ownerOdooUserId
    type := "NUDGE"
    reference
    alertTitle := alert.title
    body := messageOr message
      s!"Action needed on {alert.type.value}. Please follow up promptly."
    entityId := alertId
    createdAt := now }

/-- The notice to the sales team, or to the first manager of a deal without one. -/
def escalationNotice (reference : String) (alert : DealAlert) (deal : DealRow) : AlertNotice :=
  { recipientOdooUserId := (deal.salesTeamOdooId.filter (· ≠ 0)).getD 2
    type := "ESCALATION"
    reference
    alertTitle := alert.title
    body := messageOr message s!"Alert on deal {reference} escalated to management attention."
    entityId := alertId
    createdAt := now }

def actionEvent (eventType : ActionEventType) (dealId : ℕ) (reason : String) : ActionEvent :=
  { eventType, alertId, dealId, actorId, actorRole, reason, createdAt := now }

/-- What an action writes besides the severity: who took it, the notice, and the event, which marks
the deal as active. -/
def AlertDesk.act (desk : AlertDesk) (action : String) (notice : AlertNotice)
    (event : ActionEvent) : AlertDesk :=
  { desk with
    deals := desk.deals.modify [event.dealId] fun d => { d with lastActivityAt := now }
    lastActions := desk.lastActions.set alertId { action, takenBy := actorId, takenAt := now }
    notices := desk.notices ++ [notice]
    actionEvents := desk.actionEvents ++ [event] }

def nudgeOrEscalateAlert (action : String) (desk : AlertDesk) :
    Except DealFlowException AlertDesk :=
  match desk.alerts.row alertId with
  | none => .error (notFoundError "Alert not found.")
  | some alert =>
      match desk.deals.row alert.dealId with
      | none => .error (notFoundError "Associated deal not found.")
      | some deal =>
          let reference := desk.references alert.dealId
          if action = "NUDGE" then
            .ok (desk.act now alertId actorId action
              (nudgeNotice now alertId message reference alert deal)
              (actionEvent now alertId actorId actorRole .nudgeSent alert.dealId
                (messageOr message "Nudge notification sent to owner rep.")))
          else if action = "ESCALATE" then do
            require (canEscalate actorRole alert.type = true)
              (forbiddenError "Only SALES_MANAGER or ADMIN may escalate alerts.")
            let raised :=
              { desk with alerts := desk.alerts.modify [alertId] fun a => { a with severity := .high } }
            .ok (raised.act now alertId actorId action
              (escalationNotice now alertId message reference alert deal)
              (actionEvent now alertId actorId actorRole .escalationSent alert.dealId
                (messageOr message "Alert escalated to management.")))
          else
            .error (validationError
              s!"Invalid alert action: {action}. Expected NUDGE or ESCALATE.")

end Action

/-- An action on an alert, as it is called. -/
structure ActionCall where
  now : Timestamp
  alertId : ℕ
  action : String
  message : Option String
  actorId : ℤ
  actorRole : Role

def ActionCall.serve (call : ActionCall) (desk : AlertDesk) : Except DealFlowException AlertDesk :=
  nudgeOrEscalateAlert call.now call.alertId call.message call.actorId call.actorRole call.action
    desk

inductive DeskOp
  | alerts (op : AlertOp)
  | act (call : ActionCall)

def DeskOp.step (op : DeskOp) (desk : AlertDesk) : AlertDesk :=
  match op with
  | .alerts op => { desk with toAlertDb := op.step desk.toAlertDb }
  | .act call => (call.serve desk).toOption.getD desk

/-! ## What an action does -/

/-- The ways in which an action goes through. -/
inductive ActionEffect (call : ActionCall) (desk : AlertDesk) : AlertDesk → Prop
  | nudged {alert : DealAlert} {deal : DealRow}
      (found : desk.alerts.row call.alertId = some alert)
      (dealt : desk.deals.row alert.dealId = some deal) (action : call.action = "NUDGE") :
      ActionEffect call desk (desk.act call.now call.alertId call.actorId call.action
        (nudgeNotice call.now call.alertId call.message (desk.references alert.dealId) alert deal)
        (actionEvent call.now call.alertId call.actorId call.actorRole .nudgeSent alert.dealId
          (messageOr call.message "Nudge notification sent to owner rep.")))
  | escalated {alert : DealAlert} {deal : DealRow}
      (found : desk.alerts.row call.alertId = some alert)
      (dealt : desk.deals.row alert.dealId = some deal) (action : call.action = "ESCALATE")
      (may : canEscalate call.actorRole alert.type = true) :
      ActionEffect call desk
        ({ desk with
            alerts := desk.alerts.modify [call.alertId] fun a => { a with severity := .high } }.act
          call.now call.alertId call.actorId call.action
          (escalationNotice call.now call.alertId call.message (desk.references alert.dealId) alert
            deal)
          (actionEvent call.now call.alertId call.actorId call.actorRole .escalationSent
            alert.dealId (messageOr call.message "Alert escalated to management.")))

theorem actionEffect {call : ActionCall} {desk after : AlertDesk}
    (ok : call.serve desk = .ok after) : ActionEffect call desk after := by
  unfold ActionCall.serve nudgeOrEscalateAlert at ok
  split at ok
  · cases ok
  · next alert found =>
      split at ok
      · cases ok
      · next deal dealt =>
          dsimp only at ok
          split at ok
          · next action =>
              obtain rfl := Except.ok.inj ok
              exact .nudged found dealt action
          · split at ok
            · next action =>
                obtain ⟨may, ok⟩ := require_bind_eq_ok.mp ok
                obtain rfl := Except.ok.inj ok
                exact .escalated found dealt action may
            · cases ok

/-- An alert keeps its deal, its type and whether it is open. -/
theorem openAt_act {call : ActionCall} {desk after : AlertDesk}
    (effect : ActionEffect call desk after) (id dealId : ℕ) (type : AlertType) :
    after.openAt id dealId type = desk.openAt id dealId type := by
  cases effect with
  | nudged found dealt action => rfl
  | escalated found dealt action may =>
      exact openAt_updateAlert_same desk.toAlertDb call.alertId
        (f := fun a => { a with severity := .high }) (fun a dealId type => rfl) id dealId type

/-- The deal of the alert is marked as active. -/
theorem deals_act {call : ActionCall} {desk after : AlertDesk}
    (effect : ActionEffect call desk after) {alert : DealAlert}
    (found : desk.alerts.row call.alertId = some alert) :
    ∃ deal, desk.deals.row alert.dealId = some deal ∧
      after.deals.row alert.dealId = some (deal.touch call.now) := by
  have touched : ∀ deal, desk.deals.row alert.dealId = some deal →
      (desk.deals.modify [alert.dealId] (DealRow.touch call.now)).row alert.dealId =
        some (deal.touch call.now) := by
    intro deal dealt
    rw [Table.row_modify, if_pos (List.mem_singleton_self _), dealt]
    rfl
  cases effect with
  | @nudged other deal foundOther dealt action =>
      obtain rfl := Option.some.inj (found.symm.trans foundOther)
      exact ⟨deal, dealt, touched deal dealt⟩
  | @escalated other deal foundOther dealt action may =>
      obtain rfl := Option.some.inj (found.symm.trans foundOther)
      exact ⟨deal, dealt, touched deal dealt⟩

theorem oneOpen_desk {desk : AlertDesk} (one : desk.OneOpen) (op : DeskOp) :
    (op.step desk).OneOpen := by
  cases op with
  | alerts op => exact oneOpen_step op one
  | act call =>
      have step : (DeskOp.act call).step desk = (call.serve desk).toOption.getD desk := rfl
      rw [step]
      cases served : call.serve desk with
      | error e => exact one
      | ok after =>
          refine oneOpen_of_fewer one
            fun i dealId type (here : after.openAt i dealId type = true) => ?_
          rw [← openAt_act (actionEffect served)]
          exact here

/-! ## What an action silences -/

theorem daysBetween_anti {start start' : Timestamp} (finish : Timestamp) (le : start ≤ start') :
    daysBetween start' finish ≤ daysBetween start finish := by
  unfold daysBetween
  refine quantize_mono 2 (max_le_max_left _ ?_)
  gcongr

/-- The deal is there, and was last active at the given time or later. -/
def ActiveSince (since : Timestamp) (dealId : ℕ) (deals : Table DealRow) : Prop :=
  ∃ d, deals.row dealId = some d ∧ since ≤ d.lastActivityAt

theorem ActiveSince.touched {since now : Timestamp} {dealId : ℕ} {deals : Table DealRow}
    (active : ActiveSince since dealId deals) (later : since ≤ now) (touched : List ℕ) :
    ActiveSince since dealId (deals.modify touched (DealRow.touch now)) := by
  obtain ⟨d, row, here⟩ := active
  refine ⟨_, touch_row now _ row, ?_⟩
  split
  · exact later
  · exact here

/-- The clock has not gone back, and no one sets the activity of the deal to an earlier time. -/
def AlertOp.Since (since : Timestamp) (dealId : ℕ) : AlertOp → Prop
  | .detectStalled now _ => since ≤ now
  | .detectSlippages now _ _ => since ≤ now
  | .detectAnomaly now _ => since ≤ now
  | .recompute now _ => since ≤ now
  | .acknowledge now _ _ => since ≤ now
  | .resolve now _ _ => since ≤ now
  | .changeDeals deals _ => ActiveSince since dealId deals

def DeskOp.Since (since : Timestamp) (dealId : ℕ) : DeskOp → Prop
  | .alerts op => op.Since since dealId
  | .act call => since ≤ call.now

/-- What happens to the alerts changes a deal only by marking it as active. -/
theorem activeSince_alerts {db : AlertDb} (one : db.OneOpen) {since : Timestamp} {dealId : ℕ}
    {op : AlertOp} (later : op.Since since dealId) (active : ActiveSince since dealId db.deals) :
    ActiveSince since dealId (op.step db).deals := by
  cases op with
  | detectStalled now stalledDays =>
      obtain ⟨touched, deals⟩ := detectStalledDeals_touches now stalledDays one
      rw [AlertOp.step, deals]
      exact active.touched later touched
  | detectSlippages now pickings graceDays =>
      obtain ⟨-, ⟨touched, -, deals⟩, -⟩ := pass_frame
        (fun _ _ => slippageVerdict now pickings graceDays) .deliverySlippage now
        (db.dealsIn monitoredStatuses) one
      rw [AlertOp.step, detectDeliverySlippages_eq, deals]
      exact active.touched later touched
  | detectAnomaly now onDeal =>
      obtain ⟨touched, -, deals⟩ := detectBy_touches
        (fun deals snapshots d => anomalyVerdict deals snapshots d) .discountAnomaly now onDeal one
      rw [AlertOp.step, detectDealDiscountAnomaly_eq, deals]
      exact active.touched later touched
  | recompute now pickings =>
      obtain ⟨⟨touched, deals⟩, -⟩ := recompute_outcome now pickings one
      rw [AlertOp.step, deals]
      exact active.touched later touched
  | acknowledge now alertId userId =>
      unfold AlertOp.step acknowledgeAlert
      dsimp only
      split
      · exact active
      · exact active
  | resolve now alertId userId =>
      unfold AlertOp.step resolveAlert
      dsimp only
      split
      · exact active
      · next alert _ => exact active.touched later [alert.dealId]
  | changeDeals deals snapshots => exact later

theorem activeSince_desk {desk : AlertDesk} (one : desk.OneOpen) {since : Timestamp} {dealId : ℕ}
    {op : DeskOp} (later : op.Since since dealId) (active : ActiveSince since dealId desk.deals) :
    ActiveSince since dealId (op.step desk).deals := by
  cases op with
  | alerts op => exact activeSince_alerts one later active
  | act call =>
      have step : (DeskOp.act call).step desk = (call.serve desk).toOption.getD desk := rfl
      rw [step]
      cases served : call.serve desk with
      | error e => exact active
      | ok after =>
          cases actionEffect served with
          | nudged found dealt action => exact active.touched later _
          | escalated found dealt action may => exact active.touched later _

/-- An alert that is there stays, on its deal and with its type. -/
def RowsKept (before after : AlertDb) : Prop :=
  ∀ id a, before.alerts.row id = some a →
    ∃ b, after.alerts.row id = some b ∧ b.dealId = a.dealId ∧ b.type = a.type

theorem Detects.rowsKept {before after : AlertDb} (detects : Detects before after) :
    RowsKept before after := by
  intro id a row
  obtain ⟨b, rowB, moves⟩ := detects.kept id a row
  exact ⟨b, rowB, moves.dealId, moves.type⟩

theorem rowsKept_modify {before after : AlertDb} {ids : List ℕ} {f : DealAlert → DealAlert}
    (alerts : after.alerts = before.alerts.modify ids f)
    (same : ∀ a, (f a).dealId = a.dealId ∧ (f a).type = a.type) : RowsKept before after := by
  intro id a row
  rw [alerts, Table.row_modify, row]
  split
  · exact ⟨f a, rfl, same a⟩
  · exact ⟨a, rfl, rfl, rfl⟩

theorem rowsKept_step (op : AlertOp) (db : AlertDb) : RowsKept db (op.step db) := by
  cases op with
  | detectStalled now stalledDays => exact (detects_stalled now stalledDays).rowsKept
  | detectSlippages now pickings graceDays =>
      exact (detects_slippages now pickings graceDays).rowsKept
  | detectAnomaly now dealId => exact (detects_anomaly now dealId).rowsKept
  | recompute now pickings =>
      have first : Detects db (db.beforeAnomalies now pickings) :=
        (detects_stalled now 7).trans (detects_slippages now pickings 0)
      have all : Detects db (recomputeAllAlerts now pickings db).1 := by
        rw [recomputeAllAlerts_eq]
        exact first.trans (detects_pass _ _ now _)
      exact all.rowsKept
  | acknowledge now alertId userId =>
      unfold AlertOp.step acknowledgeAlert
      dsimp only
      split
      · exact (Detects.refl db).rowsKept
      · exact rowsKept_modify rfl fun a => ⟨rfl, rfl⟩
  | resolve now alertId userId =>
      unfold AlertOp.step resolveAlert
      dsimp only
      split
      · exact (Detects.refl db).rowsKept
      · exact rowsKept_modify rfl fun a => ⟨rfl, rfl⟩
  | changeDeals deals snapshots => exact fun id a row => ⟨a, row, rfl, rfl⟩

/-- The notice is the one of the event: about the same alert, sent at the same time, and an
escalation by someone who may. -/
structure Announces (db : AlertDb) (event : ActionEvent) (notice : AlertNotice) : Prop where
  alert : ∃ alert, db.alerts.row event.alertId = some alert ∧ alert.dealId = event.dealId ∧
    (event.eventType = .escalationSent → canEscalate event.actorRole alert.type = true)
  entity : notice.entityId = event.alertId
  moment : notice.createdAt = event.createdAt
  type : notice.type = if event.eventType = .nudgeSent then "NUDGE" else "ESCALATION"

theorem Announces.kept {before after : AlertDb} (kept : RowsKept before after) {event : ActionEvent}
    {notice : AlertNotice} (announces : Announces before event notice) :
    Announces after event notice where
  alert := by
    obtain ⟨alert, row, deal, may⟩ := announces.alert
    obtain ⟨b, rowB, dealB, typeB⟩ := kept _ _ row
    refine ⟨b, rowB, dealB.trans deal, fun escalated => ?_⟩
    rw [typeB]
    exact may escalated
  entity := announces.entity
  moment := announces.moment
  type := announces.type

/-- What an alert says of the action that the event records. -/
def ActionEvent.lastAction (event : ActionEvent) : LastAction :=
  { action := if event.eventType = .nudgeSent then "NUDGE" else "ESCALATE"
    takenBy := event.actorId
    takenAt := event.createdAt }

/-- Every event has its notice, and each alert shows the last event that is about it. -/
structure AlertDesk.Accounts (desk : AlertDesk) : Prop where
  announced : List.Forall₂ (Announces desk.toAlertDb) desk.actionEvents desk.notices
  last : ∀ id, desk.lastActions.get id =
    ((desk.actionEvents.filter fun event => event.alertId = id).getLast?).map (·.lastAction)

theorem accounts_act {desk after : AlertDesk} {notice : AlertNotice} {event : ActionEvent}
    (accounts : desk.Accounts)
    (kept : RowsKept desk.toAlertDb after.toAlertDb)
    (notices : after.notices = desk.notices ++ [notice])
    (events : after.actionEvents = desk.actionEvents ++ [event])
    (lastActions : after.lastActions = desk.lastActions.set event.alertId event.lastAction)
    (announces : Announces after.toAlertDb event notice) : after.Accounts where
  announced := by
    rw [notices, events]
    exact List.rel_append (accounts.announced.imp fun _ _ old => old.kept kept)
      (.cons announces .nil)
  last id := by
    rw [lastActions, events, Dict.get_set, List.filter_append]
    by_cases same : id = event.alertId
    · rw [if_pos same, List.filter_cons_of_pos (by simpa using same.symm), List.filter_nil,
        List.getLast?_append]
      rfl
    · rw [if_neg same, List.filter_cons_of_neg (by simpa using Ne.symm same), List.filter_nil,
        List.append_nil]
      exact accounts.last id

theorem accounts_effect {call : ActionCall} {desk after : AlertDesk} (accounts : desk.Accounts)
    (effect : ActionEffect call desk after) :
    after.Accounts ∧ after.actionEvents.length = desk.actionEvents.length + 1 := by
  cases effect with
  | @nudged alert deal found dealt action =>
      refine ⟨accounts_act accounts (fun id a row => ⟨a, row, rfl, rfl⟩) rfl rfl ?_
        ⟨⟨alert, found, rfl, nofun⟩, rfl, rfl, rfl⟩, List.length_append⟩
      rw [action]
      rfl
  | @escalated alert deal found dealt action may =>
      have row : (desk.alerts.modify [call.alertId] fun a => { a with severity := .high }).row
          call.alertId = some { alert with severity := .high } := by
        rw [Table.row_modify, if_pos (List.mem_singleton_self _), found]
        rfl
      refine ⟨accounts_act accounts (rowsKept_modify rfl fun a => ⟨rfl, rfl⟩) rfl rfl ?_
        ⟨⟨_, row, rfl, fun _ => may⟩, rfl, rfl, rfl⟩, List.length_append⟩
      rw [action]
      rfl

/-- The operation is an action that goes through. -/
def DeskOp.goesThrough (desk : AlertDesk) : DeskOp → Bool
  | .alerts _ => false
  | .act call => (call.serve desk).toOption.isSome

/-- Along any run of detectors, acknowledgements, resolutions and actions, there is one event and
one notice for each action that went through, and each alert shows its last action. -/
theorem desk_accounts (deals : Table DealRow) (snapshots : Snapshots) (references : ℕ → String)
    (ops : List DeskOp) :
    let start : AlertDesk := { deals, snapshots, references }
    let desk := run DeskOp.step ops start
    desk.Accounts ∧ desk.actionEvents.length =
      (history DeskOp.step ops start).countP fun t => t.2.goesThrough t.1 := by
  intro start desk
  have fresh : start.Accounts := ⟨.nil, fun id => rfl⟩
  refine run_induction (motive := fun past now => now.Accounts ∧
    now.actionEvents.length = past.countP fun t => t.2.goesThrough t.1) ⟨fresh, rfl⟩ ?_ ops
  intro past now op ⟨accounts, count⟩
  rw [List.countP_append, List.countP_singleton, ← count]
  cases op with
  | alerts op =>
      refine ⟨⟨?_, accounts.last⟩, rfl⟩
      exact accounts.announced.imp fun _ _ old => old.kept (rowsKept_step op now.toAlertDb)
  | act call =>
      have step : (DeskOp.act call).step now = (call.serve now).toOption.getD now := rfl
      have through : (DeskOp.act call).goesThrough now = (call.serve now).toOption.isSome := rfl
      rw [step, through]
      cases served : call.serve now with
      | error e => exact ⟨accounts, rfl⟩
      | ok after => exact accounts_effect accounts (actionEffect served)

end DealFlow
