import DealFlow.Addon.WebhookUrl
import DealFlow.Lib.Bounded
import DealFlow.Lib.Dict
import DealFlow.Lib.Fallible

/-!
# The event dispatcher

`dealflow_odoo/services/event_dispatcher.py`.  Threads share a dispatcher.  What it does under its
lock is one step: to record an event, to read the listeners of an event, to read the URLs.  A
listener is called and a request sent outside the lock, and so between any steps of the others.

A listener is known by its identity.  What it does to the dispatcher are steps of the run, and
whether it raises is up to the moment, as is how an endpoint answers.
-/

namespace DealFlow.Addon

open Lib

structure EventPayloadDTO (D : Type) where
  eventType : String
  timestamp : String
  actorId : Option ℤ
  recordId : ℤ
  model : String
  data : D
  dealflowDealId : Option String := none
  deriving DecidableEq, Repr

structure EventDispatcher (C D : Type) where
  listeners : Dict String (List C) := .empty
  webhookUrls : List String := []
  maxHistory : ℕ := 1000
  /-- Oldest first. -/
  recentEvents : List (EventPayloadDTO D) := []

namespace EventDispatcher

section

variable {C D : Type} (s : EventDispatcher C D)

/-- `__init__`, with the URL of the environment. -/
def init (webhookUrls : List String) (envWebhook : Option String) (maxHistory : ℕ) :
    EventDispatcher C D :=
  { webhookUrls :=
      match envWebhook.filter (· ≠ "") with
      | some url => if url ∈ webhookUrls then webhookUrls else webhookUrls ++ [url]
      | none => webhookUrls
    maxHistory }

def listenersOf (eventType : String) : List C :=
  (s.listeners.get eventType).getD []

/-- The callbacks of an event: those of its type, then those of all events. -/
def callbacks (eventType : String) : List C :=
  s.listenersOf eventType ++ s.listenersOf "*"

def registerListener [DecidableEq C] (eventType : String) (callback : C) : EventDispatcher C D :=
  { s with
    listeners := s.listeners.set eventType
      (if callback ∈ s.listenersOf eventType then s.listenersOf eventType
        else s.listenersOf eventType ++ [callback]) }

/-- Whether the callback was there, and the dispatcher without it. -/
def unregisterListener [DecidableEq C] (eventType : String) (callback : C) :
    Bool × EventDispatcher C D :=
  if callback ∈ s.listenersOf eventType then
    (true,
      { s with listeners := s.listeners.set eventType ((s.listenersOf eventType).erase callback) })
  else (false, s)

def registerWebhook (net : Network) (url : String) :
    Except PythonException (EventDispatcher C D) := do
  let (isSafe, reason) ← isSafeWebhookUrl net url false
  if !isSafe then
    .error (.valueError s!"SSRF Protection blocked webhook URL '{url}': {reason}")
  else if url ∈ s.webhookUrls then .ok s
  else .ok { s with webhookUrls := s.webhookUrls ++ [url] }

def unregisterWebhook (url : String) : Bool × EventDispatcher C D :=
  if url ∈ s.webhookUrls then (true, { s with webhookUrls := s.webhookUrls.erase url })
  else (false, s)

def clear : EventDispatcher C D :=
  { s with listeners := .empty, webhookUrls := [], recentEvents := [] }

/-- The event recorded: the oldest of a full history makes room. -/
def record (payload : EventPayloadDTO D) : EventDispatcher C D :=
  { s with recentEvents := pushBounded s.maxHistory s.recentEvents payload }

def getRecentEvents (limit : ℤ) : List (EventPayloadDTO D) :=
  sliceTo limit s.recentEvents.reverse

variable {s}

theorem registerWebhook_ok {net : Network} {url : String} {s' : EventDispatcher C D}
    (ok : s.registerWebhook net url = .ok s') :
    PublicTarget net url ∧ (s' = s ∨ s' = { s with webhookUrls := s.webhookUrls ++ [url] }) := by
  obtain ⟨⟨isSafe, reason⟩, checked, ok⟩ := bind_eq_ok.mp ok
  dsimp only at ok
  cases isSafe with
  | false => cases ok
  | true =>
      refine ⟨(isSafeWebhookUrl_safe checked).mp rfl, ?_⟩
      rw [Bool.not_true, if_neg Bool.false_ne_true] at ok
      split at ok
      · exact .inl (Except.ok.inj ok).symm
      · exact .inr (Except.ok.inj ok).symm

end

end EventDispatcher

/-! ## Dispatches under way -/

/-- How a request ends, after the redirects that `urlopen` follows: with a status, or not at all. -/
inductive WebhookAnswer
  | status (code : ℤ)
  | failed
  deriving DecidableEq, Repr

def WebhookAnswer.delivered : WebhookAnswer → Bool
  | .status code => 200 ≤ code && code < 300
  | .failed => false

/-- Where a dispatch stands. -/
inductive DispatchPhase (C : Type)
  /-- The event is recorded. -/
  | recorded
  /-- The listeners have been read, and these are still to be called. -/
  | invoking (rest : List C)
  /-- All listeners have been called. -/
  | invoked
  /-- The URLs have been read, and these are still to be notified. -/
  | sending (rest : List String) (allSuccess : Bool)
  | returned (allSuccess : Bool)
  | raised (e : PythonException)
  deriving DecidableEq

structure Dispatch (C D : Type) where
  payload : EventPayloadDTO D
  phase : DispatchPhase C := .recorded
  deriving DecidableEq

/-- What the dispatches have done, one after another. -/
inductive DispatchEffect (C : Type)
  | called (id : ℕ) (callback : C)
  | requested (id : ℕ) (url : String) (answer : WebhookAnswer)
  /-- An URL that was not safe at the moment. -/
  | skipped (id : ℕ) (url : String)
  deriving DecidableEq

/-- The outside world at a step: how names resolve, and how an endpoint answers. -/
structure Moment where
  net : Network
  answer : WebhookAnswer

structure DispatchWorld (C D : Type) where
  dispatcher : EventDispatcher C D
  dispatches : List (Dispatch C D) := []
  log : List (DispatchEffect C) := []

inductive DispatchOp (C D : Type)
  | registerListener (eventType : String) (callback : C)
  | unregisterListener (eventType : String) (callback : C)
  | registerWebhook (net : Network) (url : String)
  | unregisterWebhook (url : String)
  | clear
  /-- `dispatch` up to its first lock. -/
  | dispatch (payload : EventPayloadDTO D)
  /-- The next step of a dispatch. -/
  | advance (id : ℕ) (now : Moment)

section Step

variable {C D : Type}

/-- An URL notified, by the verdict on it.  A check that raises is not caught. -/
def notifyUrl (id : ℕ) (url : String) (rest : List String) (allSuccess : Bool)
    (answer : WebhookAnswer) :
    Except PythonException (Bool × String) → DispatchPhase C × List (DispatchEffect C)
  | .error e => (.raised e, [])
  | .ok (false, _) => (.sending rest false, [.skipped id url])
  | .ok (true, _) => (.sending rest (allSuccess && answer.delivered), [.requested id url answer])

/-- One step of a dispatch: its next phase, and what it does.  A listener that raises is passed
over. -/
def DispatchPhase.next (id : ℕ) (eventType : String) (now : Moment) (s : EventDispatcher C D) :
    DispatchPhase C → DispatchPhase C × List (DispatchEffect C)
  | .recorded => (.invoking (s.callbacks eventType), [])
  | .invoking [] => (.invoked, [])
  | .invoking (callback :: rest) => (.invoking rest, [.called id callback])
  | .invoked => (.sending s.webhookUrls true, [])
  | .sending [] allSuccess => (.returned allSuccess, [])
  | .sending (url :: rest) allSuccess =>
      notifyUrl id url rest allSuccess now.answer (isSafeWebhookUrl now.net url false)
  | .returned allSuccess => (.returned allSuccess, [])
  | .raised e => (.raised e, [])

def dispatchStep [DecidableEq C] (op : DispatchOp C D) (w : DispatchWorld C D) :
    DispatchWorld C D :=
  match op with
  | .registerListener eventType callback =>
      { w with dispatcher := w.dispatcher.registerListener eventType callback }
  | .unregisterListener eventType callback =>
      { w with dispatcher := (w.dispatcher.unregisterListener eventType callback).2 }
  | .registerWebhook net url =>
      match w.dispatcher.registerWebhook net url with
      | .ok dispatcher => { w with dispatcher }
      | .error _ => w
  | .unregisterWebhook url => { w with dispatcher := (w.dispatcher.unregisterWebhook url).2 }
  | .clear => { w with dispatcher := w.dispatcher.clear }
  | .dispatch payload =>
      { w with
        dispatcher := w.dispatcher.record payload
        dispatches := w.dispatches ++ [{ payload }] }
  | .advance id now =>
      match w.dispatches[id]? with
      | none => w
      | some d =>
          let next := d.phase.next id d.payload.eventType now w.dispatcher
          { w with
            dispatches := w.dispatches.set id { d with phase := next.1 }
            log := w.log ++ next.2 }

end Step

end DealFlow.Addon
