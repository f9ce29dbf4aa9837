import DealFlow.Addon.EventDispatcher
import DealFlow.Lib.Run

/-!
# What a dispatch delivers

However the threads interleave, a dispatch that returns has called the listeners of its event as
they stood at one moment, each in its place and once for each registration, whatever any of them
raised, and it has tried the URLs as they stood at a later moment; what `notify_dealflow` returns,
which `dispatch` drops, is success exactly when each of them answered with success
(`dispatch_delivers`).  Each request is sent to an URL that is a public target in the very step in
which it leaves (`requests_public`); the redirects that `urlopen` follows are not in the model.

The history of a dispatcher holds the last events that were dispatched since it was last cleared, in
the order in which they were recorded (`recent_events_newest`).
-/

namespace DealFlow.Addon

open Lib

section Trail

variable {C : Type}

/-- The callback that an effect of one dispatch calls. -/
def DispatchEffect.callOf (id : ℕ) : DispatchEffect C → Option C
  | .called other callback => if other = id then some callback else none
  | _ => none

/-- The URL that an effect of one dispatch tries, and whether the endpoint took the event. -/
def DispatchEffect.attemptOf (id : ℕ) : DispatchEffect C → Option (String × Bool)
  | .requested other url answer => if other = id then some (url, answer.delivered) else none
  | .skipped other url => if other = id then some (url, false) else none
  | _ => none

def DispatchEffect.id : DispatchEffect C → ℕ
  | .called id _ => id
  | .requested id _ _ => id
  | .skipped id _ => id

/-- The callbacks a dispatch has called, in order. -/
def callTrail (log : List (DispatchEffect C)) (id : ℕ) : List C :=
  log.filterMap (·.callOf id)

/-- The URLs a dispatch has tried, in order. -/
def attemptTrail (log : List (DispatchEffect C)) (id : ℕ) : List (String × Bool) :=
  log.filterMap (·.attemptOf id)

@[simp] theorem callTrail_append (log more : List (DispatchEffect C)) (id : ℕ) :
    callTrail (log ++ more) id = callTrail log id ++ callTrail more id :=
  List.filterMap_append

@[simp] theorem attemptTrail_append (log more : List (DispatchEffect C)) (id : ℕ) :
    attemptTrail (log ++ more) id = attemptTrail log id ++ attemptTrail more id :=
  List.filterMap_append

section Single

variable (id : ℕ) (callback : C) (url : String) (answer : WebhookAnswer)

@[simp] theorem callTrail_nil : callTrail ([] : List (DispatchEffect C)) id = [] := rfl

@[simp] theorem attemptTrail_nil : attemptTrail ([] : List (DispatchEffect C)) id = [] := rfl

@[simp] theorem callTrail_called : callTrail [.called id callback] id = [callback] := by
  simp [callTrail, DispatchEffect.callOf]

@[simp] theorem attemptTrail_called : attemptTrail [.called id callback] id = [] := rfl

@[simp] theorem callTrail_requested :
    callTrail [(.requested id url answer : DispatchEffect C)] id = [] := rfl

@[simp] theorem attemptTrail_requested :
    attemptTrail [(.requested id url answer : DispatchEffect C)] id =
      [(url, answer.delivered)] := by
  simp [attemptTrail, DispatchEffect.attemptOf]

@[simp] theorem callTrail_skipped :
    callTrail [(.skipped id url : DispatchEffect C)] id = [] := rfl

@[simp] theorem attemptTrail_skipped :
    attemptTrail [(.skipped id url : DispatchEffect C)] id = [(url, false)] := by
  simp [attemptTrail, DispatchEffect.attemptOf]

end Single

/-- The effects of other dispatches leave no trail. -/
theorem trail_foreign {log : List (DispatchEffect C)} {id : ℕ} (foreign : ∀ e ∈ log, e.id ≠ id) :
    callTrail log id = [] ∧ attemptTrail log id = [] := by
  constructor
  · refine List.filterMap_eq_nil_iff.mpr fun e mem => ?_
    cases e with
    | called other callback => exact if_neg (foreign _ mem)
    | requested | skipped => rfl
  · refine List.filterMap_eq_nil_iff.mpr fun e mem => ?_
    cases e with
    | called => rfl
    | requested other url answer => exact if_neg (foreign _ mem)
    | skipped other url => exact if_neg (foreign _ mem)

end Trail

section Progress

variable {C D : Type}

/-- The listeners were these when the dispatch read them. -/
def ListenersRead (past : List (DispatchWorld C D × DispatchOp C D)) (id : ℕ)
    (payload : EventPayloadDTO D) (callbacks : List C) : Prop :=
  ∃ t ∈ past, t.1.dispatches[id]? = some { payload, phase := .recorded } ∧
    (∃ now, t.2 = .advance id now) ∧ callbacks = t.1.dispatcher.callbacks payload.eventType

/-- The URLs were these when the dispatch read them. -/
def UrlsRead (past : List (DispatchWorld C D × DispatchOp C D)) (id : ℕ)
    (payload : EventPayloadDTO D) (urls : List String) : Prop :=
  ∃ t ∈ past, t.1.dispatches[id]? = some { payload, phase := .invoked } ∧
    (∃ now, t.2 = .advance id now) ∧ urls = t.1.dispatcher.webhookUrls

/-- What a dispatch has done by the phase it is in. -/
def PhaseReached (past : List (DispatchWorld C D × DispatchOp C D)) (id : ℕ)
    (payload : EventPayloadDTO D) (called : List C) (tried : List (String × Bool)) :
    DispatchPhase C → Prop
  | .recorded => called = [] ∧ tried = []
  | .invoking rest => ListenersRead past id payload (called ++ rest) ∧ tried = []
  | .invoked => ListenersRead past id payload called ∧ tried = []
  | .sending rest allSuccess => ListenersRead past id payload called ∧
      UrlsRead past id payload (tried.map (·.1) ++ rest) ∧ allSuccess = tried.all (·.2)
  | .returned allSuccess => ListenersRead past id payload called ∧
      UrlsRead past id payload (tried.map (·.1)) ∧ allSuccess = tried.all (·.2)
  | .raised _ => ListenersRead past id payload called

theorem ListenersRead.later {past more : List (DispatchWorld C D × DispatchOp C D)} {id : ℕ}
    {payload : EventPayloadDTO D} {callbacks : List C}
    (read : ListenersRead past id payload callbacks) :
    ListenersRead (past ++ more) id payload callbacks := by
  obtain ⟨t, mem, rest⟩ := read
  exact ⟨t, List.mem_append_left _ mem, rest⟩

theorem UrlsRead.later {past more : List (DispatchWorld C D × DispatchOp C D)} {id : ℕ}
    {payload : EventPayloadDTO D} {urls : List String} (read : UrlsRead past id payload urls) :
    UrlsRead (past ++ more) id payload urls := by
  obtain ⟨t, mem, rest⟩ := read
  exact ⟨t, List.mem_append_left _ mem, rest⟩

theorem PhaseReached.later {past more : List (DispatchWorld C D × DispatchOp C D)} {id : ℕ}
    {payload : EventPayloadDTO D} {called : List C} {tried : List (String × Bool)}
    {phase : DispatchPhase C} (reached : PhaseReached past id payload called tried phase) :
    PhaseReached (past ++ more) id payload called tried phase := by
  cases phase with
  | recorded => exact reached
  | invoking rest => exact ⟨reached.1.later, reached.2⟩
  | invoked => exact ⟨reached.1.later, reached.2⟩
  | sending rest allSuccess => exact ⟨reached.1.later, reached.2.1.later, reached.2.2⟩
  | returned allSuccess => exact ⟨reached.1.later, reached.2.1.later, reached.2.2⟩
  | raised e => exact ListenersRead.later reached

/-- The effects of a step are those of its dispatch. -/
theorem next_effects (id : ℕ) (eventType : String) (now : Moment) (s : EventDispatcher C D)
    (phase : DispatchPhase C) : ∀ e ∈ (phase.next id eventType now s).2, e.id = id := by
  cases phase with
  | recorded | invoked | returned | raised => exact nofun
  | invoking rest =>
      cases rest with
      | nil => exact nofun
      | cons callback rest => exact List.forall_mem_singleton.mpr rfl
  | sending rest allSuccess =>
      cases rest with
      | nil => exact nofun
      | cons url rest =>
          rw [DispatchPhase.next]
          rcases isSafeWebhookUrl now.net url false with e | ⟨_ | _, reason⟩
          · exact nofun
          · exact List.forall_mem_singleton.mpr rfl
          · exact List.forall_mem_singleton.mpr rfl

/-- A step of a dispatch leads on to what its next phase says. -/
theorem PhaseReached.next {past : List (DispatchWorld C D × DispatchOp C D)} {id : ℕ}
    {w : DispatchWorld C D} {payload : EventPayloadDTO D} {phase : DispatchPhase C}
    (found : w.dispatches[id]? = some { payload, phase })
    (reached : PhaseReached past id payload (callTrail w.log id) (attemptTrail w.log id) phase)
    (now : Moment) :
    let next := phase.next id payload.eventType now w.dispatcher
    PhaseReached (past ++ [(w, .advance id now)]) id payload (callTrail (w.log ++ next.2) id)
      (attemptTrail (w.log ++ next.2) id) next.1 := by
  have last : (w, .advance id now) ∈ past ++ [(w, DispatchOp.advance id now)] :=
    List.mem_append_right _ (List.mem_singleton_self _)
  have kept : PhaseReached (past ++ [(w, .advance id now)]) id payload (callTrail w.log id)
      (attemptTrail w.log id) phase := reached.later
  dsimp only
  rw [callTrail_append, attemptTrail_append]
  cases phase with
  | recorded =>
      obtain ⟨noCalls, noTries⟩ := reached
      refine ⟨⟨_, last, found, ⟨now, rfl⟩, ?_⟩, ?_⟩
      · rw [noCalls]
        rfl
      · rw [noTries]
        rfl
  | invoking rest =>
      cases rest with
      | nil => simpa [DispatchPhase.next, PhaseReached] using kept
      | cons callback rest => simpa [DispatchPhase.next, PhaseReached] using kept
  | invoked =>
      obtain ⟨read, noTries⟩ := kept
      refine ⟨by simpa [DispatchPhase.next] using read, ⟨_, last, found, ⟨now, rfl⟩, ?_⟩, ?_⟩
      · rw [noTries]
        rfl
      · rw [noTries]
        rfl
  | sending rest allSuccess =>
      cases rest with
      | nil => simpa [DispatchPhase.next, PhaseReached] using kept
      | cons url rest =>
          obtain ⟨read, urls, success⟩ := kept
          rw [DispatchPhase.next]
          rcases isSafeWebhookUrl now.net url false with e | ⟨_ | _, reason⟩
          · simpa [notifyUrl, PhaseReached] using read
          · simpa [notifyUrl, PhaseReached] using ⟨read, urls⟩
          · simpa [notifyUrl, PhaseReached] using ⟨read, urls, congrArg (· && _) success⟩
  | returned allSuccess => simpa [DispatchPhase.next, PhaseReached] using kept
  | raised e => simpa [DispatchPhase.next, PhaseReached] using kept

end Progress

/-! ## Registrations -/

section Registrations

variable {C D : Type}

/-- No listener is registered twice for one type of events. -/
def OncePerType (w : DispatchWorld C D) : Prop :=
  ∀ eventType, (w.dispatcher.listenersOf eventType).Nodup

theorem OncePerType.set {w w' : DispatchWorld C D} (once : OncePerType w) {eventType : String}
    {callbacks : List C} (nodup : callbacks.Nodup)
    (listeners : w'.dispatcher.listeners = w.dispatcher.listeners.set eventType callbacks) :
    OncePerType w' := by
  intro other
  unfold EventDispatcher.listenersOf
  rw [listeners, Dict.get_set]
  split
  · exact nodup
  · exact once other

end Registrations

/-! ## Requests -/

section Requests

variable {C D : Type}

/-- Each request has left in one step of its dispatch, which found its URL to be a public target at
that moment.  Where an endpoint redirects a request, what `urlopen` does with the redirect is not in
the model. -/
def RequestsPublic [DecidableEq C] (past : List (DispatchWorld C D × DispatchOp C D))
    (log : List (DispatchEffect C)) : Prop :=
  ∀ before id url answer after, log = before ++ .requested id url answer :: after →
    ∃ t ∈ past, ∃ now, t.2 = .advance id now ∧ t.1.log = before ∧
      (dispatchStep t.2 t.1).log = before ++ [.requested id url answer] ∧
      PublicTarget now.net url

theorem next_requested {id : ℕ} {eventType : String} {now : Moment} {s : EventDispatcher C D}
    {phase : DispatchPhase C} {other : ℕ} {url : String} {answer : WebhookAnswer}
    (requested : .requested other url answer ∈ (phase.next id eventType now s).2) :
    other = id ∧ PublicTarget now.net url := by
  refine ⟨next_effects id eventType now s phase _ requested, ?_⟩
  cases phase with
  | recorded | invoked | returned | raised => cases requested
  | invoking rest =>
      cases rest with
      | nil => cases requested
      | cons callback rest => cases List.mem_singleton.mp requested
  | sending rest allSuccess =>
      cases rest with
      | nil => cases requested
      | cons target rest =>
          rw [DispatchPhase.next] at requested
          cases checked : isSafeWebhookUrl now.net target false with
          | error e =>
              rw [checked] at requested
              cases requested
          | ok verdict =>
              rcases verdict with ⟨_ | _, reason⟩
              · rw [checked] at requested
                cases List.mem_singleton.mp requested
              · rw [checked] at requested
                cases List.mem_singleton.mp requested
                exact (isSafeWebhookUrl_safe checked).mp rfl

/-- A step of a dispatch does one thing at most. -/
theorem next_effects_le (id : ℕ) (eventType : String) (now : Moment) (s : EventDispatcher C D)
    (phase : DispatchPhase C) :
    (phase.next id eventType now s).2 = [] ∨ ∃ e, (phase.next id eventType now s).2 = [e] := by
  cases phase with
  | recorded | invoked | returned | raised => exact .inl rfl
  | invoking rest =>
      cases rest with
      | nil => exact .inl rfl
      | cons callback rest => exact .inr ⟨_, rfl⟩
  | sending rest allSuccess =>
      cases rest with
      | nil => exact .inl rfl
      | cons url rest =>
          rw [DispatchPhase.next]
          rcases isSafeWebhookUrl now.net url false with e | ⟨_ | _, reason⟩
          · exact .inl rfl
          · exact .inr ⟨_, rfl⟩
          · exact .inr ⟨_, rfl⟩

end Requests

/-! ## Runs -/

section Runs

variable {C D : Type}

/-- The invariant of the dispatches: each has done what its phase says, and the log is theirs. -/
structure Dispatched (past : List (DispatchWorld C D × DispatchOp C D)) (w : DispatchWorld C D) :
    Prop where
  reached : ∀ id d, w.dispatches[id]? = some d →
    PhaseReached past id d.payload (callTrail w.log id) (attemptTrail w.log id) d.phase
  known : ∀ e ∈ w.log, e.id < w.dispatches.length

theorem Dispatched.start {w : DispatchWorld C D} (dispatches : w.dispatches = [])
    (log : w.log = []) : Dispatched [] w where
  reached id d found := by
    rw [dispatches] at found
    cases found
  known e mem := by
    rw [log] at mem
    cases mem

/-- A step that touches neither the dispatches nor their log. -/
theorem Dispatched.frame {past : List (DispatchWorld C D × DispatchOp C D)}
    {w w' : DispatchWorld C D} (inv : Dispatched past w) (t : DispatchWorld C D × DispatchOp C D)
    (dispatches : w'.dispatches = w.dispatches) (log : w'.log = w.log) :
    Dispatched (past ++ [t]) w' where
  reached id d found := by
    rw [dispatches] at found
    rw [log]
    exact (inv.reached id d found).later
  known := by
    rw [log, dispatches]
    exact inv.known

variable [DecidableEq C]

theorem Dispatched.dispatch {past : List (DispatchWorld C D × DispatchOp C D)}
    {w : DispatchWorld C D} (inv : Dispatched past w) (payload : EventPayloadDTO D) :
    Dispatched (past ++ [(w, .dispatch payload)]) (dispatchStep (.dispatch payload) w) where
  reached id d found := by
    have located : (w.dispatches ++ [Dispatch.mk payload .recorded])[id]? = some d := found
    rw [List.getElem?_append] at located
    split at located
    · exact (inv.reached id d located).later
    · next beyond =>
        obtain rfl := List.mem_singleton.mp (List.mem_of_getElem? located)
        exact trail_foreign fun e mem same => beyond (same ▸ inv.known e mem)
  known e mem := by
    have known := inv.known e mem
    have grown : (dispatchStep (.dispatch payload) w).dispatches.length =
        w.dispatches.length + 1 := List.length_append
    omega

theorem Dispatched.advance {past : List (DispatchWorld C D × DispatchOp C D)}
    {w : DispatchWorld C D} (inv : Dispatched past w) (id : ℕ) (now : Moment) :
    Dispatched (past ++ [(w, .advance id now)]) (dispatchStep (.advance id now) w) := by
  cases found : w.dispatches[id]? with
  | none =>
      have idle : dispatchStep (.advance id now) w = w := by
        simp only [dispatchStep, found]
      rw [idle]
      exact inv.frame _ rfl rfl
  | some d =>
      have moved : dispatchStep (.advance id now) w =
          let next := d.phase.next id d.payload.eventType now w.dispatcher
          { w with
            dispatches := w.dispatches.set id { d with phase := next.1 }
            log := w.log ++ next.2 } := by
        simp only [dispatchStep, found]
      have effects := next_effects id d.payload.eventType now w.dispatcher d.phase
      rw [moved]
      constructor
      · intro other d' located
        dsimp only at located ⊢
        by_cases same : other = id
        · subst same
          have within := (List.getElem?_eq_some_iff.mp found).1
          rw [List.getElem?_set_self within] at located
          obtain rfl := Option.some.inj located
          exact (inv.reached other d found).next found now
        · rw [List.getElem?_set_ne (Ne.symm same)] at located
          have foreign : ∀ e ∈ (d.phase.next id d.payload.eventType now w.dispatcher).2,
              e.id ≠ other := fun e mem own => same (own.symm.trans (effects e mem))
          obtain ⟨calls, tries⟩ := trail_foreign foreign
          rw [callTrail_append, attemptTrail_append, calls, tries, List.append_nil,
            List.append_nil]
          exact (inv.reached other d' located).later
      · intro e mem
        rw [List.length_set]
        rcases List.mem_append.mp mem with old | new
        · exact inv.known e old
        · rw [effects e new]
          exact (List.getElem?_eq_some_iff.mp found).1

theorem dispatched_run {s : EventDispatcher C D} (ops : List (DispatchOp C D)) :
    Dispatched (history dispatchStep ops { dispatcher := s })
      (run dispatchStep ops { dispatcher := s }) := by
  refine run_induction (Dispatched.start rfl rfl) (fun past w op inv => ?_) ops
  cases op with
  | dispatch payload => exact inv.dispatch payload
  | advance id now => exact inv.advance id now
  | registerWebhook net url =>
      refine inv.frame _ ?_ ?_ <;> (unfold dispatchStep; dsimp only; split <;> rfl)
  | registerListener | unregisterListener | unregisterWebhook | clear =>
      exact inv.frame _ rfl rfl

theorem OncePerType.step {w : DispatchWorld C D} (once : OncePerType w) (op : DispatchOp C D) :
    OncePerType (dispatchStep op w) := by
  cases op with
  | registerListener eventType callback =>
      refine once.set ?_ rfl
      split
      · exact once eventType
      · next new =>
          rw [← List.concat_eq_append]
          exact (once eventType).concat new
  | unregisterListener eventType callback =>
      unfold dispatchStep EventDispatcher.unregisterListener
      dsimp only
      split
      · exact once.set ((once eventType).erase callback) rfl
      · exact once
  | registerWebhook net url =>
      unfold dispatchStep
      dsimp only
      split
      · next registered =>
          rcases (EventDispatcher.registerWebhook_ok registered).2 with rfl | rfl
          · exact once
          · exact once
      · exact once
  | unregisterWebhook url =>
      unfold dispatchStep EventDispatcher.unregisterWebhook
      dsimp only
      split
      · exact once
      · exact once
  | clear => exact fun _ => List.nodup_nil
  | dispatch payload => exact once
  | advance id now =>
      unfold dispatchStep
      dsimp only
      split
      · exact once
      · exact once

/-- A dispatch that has returned has called the listeners as they stood when it read them, and tried
the URLs as they stood when it read those; `notify_dealflow` has returned success exactly when every
endpoint took the event. -/
theorem dispatch_delivers (webhookUrls : List String) (envWebhook : Option String)
    (maxHistory : ℕ) (ops : List (DispatchOp C D)) (id : ℕ) (payload : EventPayloadDTO D)
    (allSuccess : Bool) :
    let start : DispatchWorld C D :=
      { dispatcher := EventDispatcher.init webhookUrls envWebhook maxHistory }
    (run dispatchStep ops start).dispatches[id]? =
      some { payload, phase := .returned allSuccess } →
    let past := history dispatchStep ops start
    let log := (run dispatchStep ops start).log
    (∀ t ∈ past, OncePerType t.1) ∧
      ListenersRead past id payload (callTrail log id) ∧
      UrlsRead past id payload ((attemptTrail log id).map (·.1)) ∧
      (allSuccess = true ↔ ∀ attempt ∈ attemptTrail log id, attempt.2 = true) := by
  intro start returned past log
  have once : OncePerType start := fun _ => List.nodup_nil
  obtain ⟨listeners, urls, success⟩ := (dispatched_run ops).reached id _ returned
  refine ⟨(run_invariant dispatchStep OncePerType once (fun _ op inv => inv.step op) ops).1,
    listeners, urls, ?_⟩
  rw [success, List.all_eq_true]

/-- A network of one endpoint, with a public address. -/
def hooksNetwork : Network where
  urlparse _ := .ok { scheme := "https", hostname := some "hooks.acme.com", port := .ok none }
  getaddrinfo _ _ := .ok ["93.184.216.34"]
  ipAddress text := some { text }

/-- An event for one listener of its type and one of all events, with one endpoint that refuses
it. -/
theorem dispatch_refused :
    let payload : EventPayloadDTO ℕ :=
      { eventType := "sale_order.confirmed", timestamp := "2026-09-05T10:00:00", actorId := none
        recordId := 7, model := "sale.order", data := 0 }
    let now : Moment := { net := hooksNetwork, answer := .status 500 }
    let ops : List (DispatchOp ℕ ℕ) :=
      [.registerListener "*" 2, .registerListener "sale_order.confirmed" 1,
        .registerWebhook hooksNetwork "https://hooks.acme.com/df", .dispatch payload] ++
          List.replicate 7 (.advance 0 now)
    let start : DispatchWorld ℕ ℕ := { dispatcher := EventDispatcher.init [] none 1000 }
    let past := history dispatchStep ops start
    let log := (run dispatchStep ops start).log
    (∀ t ∈ past, OncePerType t.1) ∧
      ListenersRead past 0 payload (callTrail log 0) ∧
      UrlsRead past 0 payload ((attemptTrail log 0).map (·.1)) ∧
      (false = true ↔ ∀ attempt ∈ attemptTrail log 0, attempt.2 = true) := by
  intro payload now ops start past log
  exact dispatch_delivers [] none 1000 ops 0 payload false (by decide +kernel)

/-- The log grows in the steps of the dispatches alone, by one effect at a time. -/
theorem log_step (op : DispatchOp C D) (w : DispatchWorld C D) :
    (dispatchStep op w).log = w.log ∨ ∃ id now, ∃ d : Dispatch C D, ∃ e,
      op = .advance id now ∧
      (DispatchPhase.next id d.payload.eventType now w.dispatcher d.phase).2 = [e] ∧
      (dispatchStep op w).log = w.log ++ [e] := by
  cases op with
  | registerListener | unregisterListener | unregisterWebhook | clear | dispatch =>
      exact .inl rfl
  | registerWebhook net url =>
      left
      unfold dispatchStep
      dsimp only
      split <;> rfl
  | advance id now =>
      cases found : w.dispatches[id]? with
      | none =>
          left
          simp only [dispatchStep, found]
      | some d =>
          have grown : (dispatchStep (.advance id now) w).log = w.log ++
              (d.phase.next id d.payload.eventType now w.dispatcher).2 := by
            simp only [dispatchStep, found]
          rcases next_effects_le id d.payload.eventType now w.dispatcher d.phase with
            none | ⟨e, one⟩
          · rw [none, List.append_nil] at grown
            exact .inl grown
          · rw [one] at grown
            exact .inr ⟨id, now, d, e, rfl, one, grown⟩

/-- No request is sent to an URL that is not a public target in the very step it leaves in, wherever
the URL came from. -/
theorem requests_public (s : EventDispatcher C D) (ops : List (DispatchOp C D)) :
    RequestsPublic (history dispatchStep ops { dispatcher := s })
      (run dispatchStep ops { dispatcher := s }).log := by
  refine run_induction (motive := fun past w => RequestsPublic past w.log) ?_ ?_ ops
  · intro before id url answer after split
    exact absurd split (by simp)
  · intro past w op inv before id url answer after split
    rcases log_step op w with same | ⟨advanced, now, d, e, rfl, one, grown⟩
    · obtain ⟨t, mem, sent⟩ := inv before id url answer after (same ▸ split)
      exact ⟨t, List.mem_append_left _ mem, sent⟩
    · rcases List.eq_nil_or_concat after with rfl | ⟨later, last, rfl⟩
      · -- the step that has just been made sends it
        obtain ⟨rfl, rfl⟩ : before = w.log ∧ e = .requested id url answer := by
          have ends := grown.symm.trans split
          rw [List.append_inj_left' ends rfl]
          exact ⟨rfl, List.singleton_inj.mp (List.append_inj_right' ends rfl)⟩
        obtain ⟨rfl, target⟩ := next_requested (one ▸ List.mem_singleton_self _)
        exact ⟨_, List.mem_append_right _ (List.mem_singleton_self _), now, rfl, rfl, grown,
          target⟩
      · have ends : w.log ++ [e] = (before ++ .requested id url answer :: later) ++ [last] := by
          rw [← grown, split]
          simp
        obtain ⟨t, mem, sent⟩ := inv before id url answer later (List.append_inj_left' ends rfl)
        exact ⟨t, List.mem_append_left _ mem, sent⟩

end Runs

/-! ## The recent events -/

variable {C D : Type}

/-- The events recorded since the last time the dispatcher was cleared, oldest first. -/
def sinceClear (ops : List (DispatchOp C D)) : List (EventPayloadDTO D) :=
  ops.foldl (fun recorded op =>
    match op with
    | .clear => []
    | .dispatch payload => recorded ++ [payload]
    | _ => recorded) []

variable [DecidableEq C]

/-- What a step does to the history. -/
theorem recentEvents_step (op : DispatchOp C D) (w : DispatchWorld C D) :
    (dispatchStep op w).dispatcher.maxHistory = w.dispatcher.maxHistory ∧
      (dispatchStep op w).dispatcher.recentEvents =
        match op with
        | .clear => []
        | .dispatch payload => pushBounded w.dispatcher.maxHistory w.dispatcher.recentEvents payload
        | _ => w.dispatcher.recentEvents := by
  cases op with
  | registerListener | clear | dispatch => exact ⟨rfl, rfl⟩
  | unregisterListener eventType callback =>
      unfold dispatchStep EventDispatcher.unregisterListener
      dsimp only
      split <;> exact ⟨rfl, rfl⟩
  | registerWebhook net url =>
      unfold dispatchStep
      dsimp only
      split
      · next registered =>
          rcases (EventDispatcher.registerWebhook_ok registered).2 with rfl | rfl
          · exact ⟨rfl, rfl⟩
          · exact ⟨rfl, rfl⟩
      · exact ⟨rfl, rfl⟩
  | unregisterWebhook url =>
      unfold dispatchStep EventDispatcher.unregisterWebhook
      dsimp only
      split <;> exact ⟨rfl, rfl⟩
  | advance id now =>
      unfold dispatchStep
      dsimp only
      split <;> exact ⟨rfl, rfl⟩

/-- The recent events are the newest ones since the last clearing, newest first. -/
theorem recent_events_newest (webhookUrls : List String) (envWebhook : Option String)
    (maxHistory : ℕ) (ops : List (DispatchOp C D)) (limit : ℤ) :
    let start : DispatchWorld C D :=
      { dispatcher := EventDispatcher.init webhookUrls envWebhook maxHistory }
    (run dispatchStep ops start).dispatcher.getRecentEvents limit =
      sliceTo limit ((sinceClear ops).reverse.take maxHistory) := by
  intro start
  have held : (run dispatchStep ops start).dispatcher.maxHistory = maxHistory ∧
      (run dispatchStep ops start).dispatcher.recentEvents = (sinceClear ops).rtake maxHistory := by
    induction ops using List.reverseRecOn with
    | nil => exact ⟨rfl, (List.rtake_nil _).symm⟩
    | append_singleton ops op ih =>
        obtain ⟨bound, events⟩ := ih
        obtain ⟨same, recorded⟩ := recentEvents_step op (run dispatchStep ops start)
        rw [run_concat]
        refine ⟨same.trans bound, ?_⟩
        rw [recorded, bound, events]
        unfold sinceClear
        rw [List.foldl_append, List.foldl_cons, List.foldl_nil]
        cases op with
        | clear => exact (List.rtake_nil _).symm
        | dispatch payload => exact pushBounded_rtake maxHistory _ payload
        | registerListener | unregisterListener | registerWebhook | unregisterWebhook | advance =>
            rfl
  unfold EventDispatcher.getRecentEvents
  rw [held.2, reverse_rtake]

end DealFlow.Addon
