import MatterStrip.App.Shown

/-!
The events as they are queued: a type, a union and a handler.

`AppTask` keeps of an event what its handler does with it. In the code an event is a record that is
filled in by one function and read by another, which tests the type, or trusts it, before it reads a
member of the union. `EventLoop` is the application with these records. In all its runs every event
is filled in as its handler reads it (`WellFormed`), so that no other member of the union is ever
read and the branch for an event that cannot be handled is never taken; and what is left of the
records is the application of the other modules (`Move.toApp`).
-/

namespace MatterStrip

open Lib LightingManager

/-! ### The records -/

namespace RawEvent

def kEventTypeButton : UInt16 := 0

def kEventTypeTimer : UInt16 := 1

def kEventTypeLight : UInt16 := 2

end RawEvent

/-- The functions that the field `Handler` is set to. -/
inductive EventHandler
  | lightActionEventHandler
  /-- `BaseApplication::ButtonHandler`, which is not part of the repository -/
  | buttonHandler
  /-- a handler of the light's timer -/
  | timer (handler : TimerHandler)
  deriving DecidableEq, Repr

/-- The union, by the member that was written. -/
inductive EventUnion
  | buttonEvent (action : UInt8)
  /-- the context is the light, and there is one -/
  | timerEvent
  | lightEvent (action : UInt8) (actor : Int32)
  deriving DecidableEq, Repr

/-- A member can be read if it is the one that was written. -/
def EventUnion.buttonEvent? : EventUnion → Option UInt8
  | .buttonEvent action => some action
  | _ => none

def EventUnion.timerEvent? : EventUnion → Option Unit
  | .timerEvent => some ()
  | _ => none

def EventUnion.lightEvent? : EventUnion → Option (UInt8 × Int32)
  | .lightEvent action actor => some (action, actor)
  | _ => none

/-- `AppEvent`, as it is in the queue -/
structure RawEvent where
  type : UInt16
  union : EventUnion
  handler : EventHandler
  deriving DecidableEq, Repr

/-- `Action_t` as the `uint8_t` that an event has room for -/
def Action.toUInt8 : Action → UInt8
  | .onAction => 0
  | .offAction => 1
  | .invalidAction => 2

/-- `static_cast` back to `Action_t`, of a value that is one of its enumerators -/
def Action.ofUInt8? (v : UInt8) : Option Action :=
  if v = 0 then some .onAction
  else if v = 1 then some .offAction
  else if v = 2 then some .invalidAction
  else none

@[simp] lemma Action.ofUInt8?_toUInt8 (a : Action) : Action.ofUInt8? a.toUInt8 = some a := by
  cases a <;> rfl

/-! ### The event loop -/

/-- The application with the queue of records, and the button actions that
`BaseApplication::ButtonHandler` has been called with. The queue of `app` is not used. -/
structure EventLoop (n : ℕ) where
  app : AppTask n
  queue : List RawEvent
  handedOver : List UInt8

/-- What is done to the loop. -/
inductive LoopAct
  /-- an act that neither posts an event nor handles one -/
  | app (act : AppAct)
  | buttonEventHandler (button btnAction : UInt8)
  | postLightActionRequest (aActor : Int32) (aAction : Action)
  /-- the light's timer expires -/
  | timerEventHandler
  | dispatchEvent

namespace EventLoop

/-- `APP_FUNCTION_BUTTON` -/
def appFunctionButton : UInt8 := 0

/-- `APP_LIGHT_SWITCH` -/
def appLightSwitch : UInt8 := 1

variable {n : ℕ} (linear : UInt16 → ℚ) (buttonPressed : UInt8) (s : EventLoop n)

def postEvent (event : RawEvent) : EventLoop n := { s with queue := s.queue ++ [event] }

/-- `AppTask::ButtonEventHandler`; the platform says which action is a press. -/
def buttonEventHandler (button btnAction : UInt8) : EventLoop n :=
  let event (handler : EventHandler) : RawEvent :=
    ⟨RawEvent.kEventTypeButton, .buttonEvent btnAction, handler⟩
  if button = appLightSwitch ∧ btnAction = buttonPressed then
    s.postEvent (event .lightActionEventHandler)
  else if button = appFunctionButton then s.postEvent (event .buttonHandler)
  else s

def postLightActionRequest (aActor : Int32) (aAction : Action) : EventLoop n :=
  s.postEvent ⟨RawEvent.kEventTypeLight, .lightEvent aAction.toUInt8 aActor,
    .lightActionEventHandler⟩

def timerEventHandler : Option (EventLoop n) :=
  s.app.timer.map fun _ =>
    { s with app := { s.app with timer := none } }.postEvent
      ⟨RawEvent.kEventTypeTimer, .timerEvent, .timer s.app.light.timerEventHandler⟩

/-- `AppTask::LightActionEventHandler`: whether it went without `APP_ERROR_UNHANDLED_EVENT`, and the
application after it; `none` where it reads what was not written. -/
def lightActionEventHandler (w : AppTask n) (aEvent : RawEvent) : Option (Bool × AppTask n) :=
  if aEvent.type = RawEvent.kEventTypeLight then
    aEvent.union.lightEvent?.bind fun light =>
      (Action.ofUInt8? light.1).map fun action => (true, w.initiateAction light.2 action)
  else if aEvent.type = RawEvent.kEventTypeButton then
    some (true, w.initiateAction kEventTypeButton
      (if w.light.isLightOn then .offAction else .onAction))
  else some (false, w)

/-- `BaseApplication::DispatchEvent`: the handler of the event is called with it.
`BaseApplication::ButtonHandler` is not part of the repository either, and is taken to return, to post
no event and to leave the light alone. -/
def handle (aEvent : RawEvent) : Option (Bool × EventLoop n) :=
  match aEvent.handler with
  | .lightActionEventHandler =>
    (lightActionEventHandler s.app aEvent).map fun result => (result.1, { s with app := result.2 })
  | .buttonHandler =>
    aEvent.union.buttonEvent?.map fun action =>
      (true, { s with handedOver := s.handedOver ++ [action] })
  | .timer handler =>
    aEvent.union.timerEvent?.map fun _ =>
      (true, { s with app := s.app.absorb (s.app.light.handle handler) })

def dispatchEvent : Option (Bool × EventLoop n) :=
  match s.queue with
  | [] => none
  | event :: queue => { s with queue := queue }.handle event

/-- The inner loop of `AppTaskMain`, for so many rounds at most: the next event is dispatched until
there is none. `none` if an event is not handled, or one is left. -/
def appTaskMain : ℕ → EventLoop n → Option (EventLoop n)
  | 0, s => if s.queue = [] then some s else none
  | rounds + 1, s =>
    if s.queue = [] then some s
    else
      match s.dispatchEvent with
      | some (true, s') => appTaskMain rounds s'
      | _ => none

def step : LoopAct → Option (EventLoop n)
  | .app .lightButton => none
  | .app .expire => none
  | .app .dispatch => none
  | .app act => (s.app.step linear act).map fun app => { s with app := app }
  | .buttonEventHandler button btnAction =>
    some (s.buttonEventHandler buttonPressed button btnAction)
  | .postLightActionRequest aActor aAction => some (s.postLightActionRequest aActor aAction)
  | .timerEventHandler => s.timerEventHandler
  | .dispatchEvent => s.dispatchEvent.map Prod.snd

def start (n : ℕ) (buffer : Memory UInt8) (currentLedState : Bool) : EventLoop n :=
  ⟨AppTask.init n buffer currentLedState, [], []⟩

end EventLoop

/-! ### Every event is filled in as its handler reads it -/

/-- The ways in which the three functions that post an event fill it in. -/
inductive RawEvent.WellFormed : RawEvent → Prop
  | light (action : Action) (actor : Int32) :
      WellFormed ⟨kEventTypeLight, .lightEvent action.toUInt8 actor, .lightActionEventHandler⟩
  | lightSwitch (btnAction : UInt8) :
      WellFormed ⟨kEventTypeButton, .buttonEvent btnAction, .lightActionEventHandler⟩
  | functionButton (btnAction : UInt8) :
      WellFormed ⟨kEventTypeButton, .buttonEvent btnAction, .buttonHandler⟩
  | timer (handler : TimerHandler) : WellFormed ⟨kEventTypeTimer, .timerEvent, .timer handler⟩

/-- What the handler of an event makes of it, as the application has it. -/
def RawEvent.appEvent? (event : RawEvent) : Option AppEvent :=
  match event.handler with
  | .timer handler => some (.timerEvent handler)
  | .buttonHandler => none
  | .lightActionEventHandler =>
    if event.type = kEventTypeButton then some .buttonEvent
    else event.union.lightEvent?.bind fun light =>
      (Action.ofUInt8? light.1).map fun action => .lightEvent action light.2

/-- The button action that an event hands over to `BaseApplication::ButtonHandler`. -/
def RawEvent.handedOver? (event : RawEvent) : Option UInt8 :=
  match event.handler with
  | .buttonHandler => event.union.buttonEvent?
  | _ => none

namespace EventLoop

variable {n : ℕ} {linear : UInt16 → ℚ} {buttonPressed : UInt8} {s s' : EventLoop n}

/-- The loop after an event, by what the event is to the application. -/
def after (s : EventLoop n) (event : RawEvent) : EventLoop n :=
  { s with app := event.appEvent?.elim s.app s.app.dispatchEvent
           handedOver := s.handedOver ++ event.handedOver?.toList }

/-- **An event that is filled in as its handler reads it is handled**: no member of the union is read
that was not written, and the branch for an unhandled event is not taken. -/
theorem handle_of_wellFormed {event : RawEvent} (h : event.WellFormed) (s : EventLoop n) :
    s.handle event = some (true, s.after event) := by
  cases h with
  | light action actor =>
    simp [handle, lightActionEventHandler, RawEvent.appEvent?, EventUnion.lightEvent?,
      RawEvent.kEventTypeLight, RawEvent.kEventTypeButton, after, AppTask.dispatchEvent,
      RawEvent.handedOver?]
  | lightSwitch btnAction =>
    simp [handle, lightActionEventHandler, RawEvent.appEvent?, RawEvent.kEventTypeLight,
      RawEvent.kEventTypeButton, after, AppTask.dispatchEvent, AppTask.buttonAction,
      RawEvent.handedOver?]
  | functionButton btnAction => rfl
  | timer handler =>
    simp [handle, RawEvent.appEvent?, EventUnion.timerEvent?, after, AppTask.dispatchEvent,
      RawEvent.handedOver?]

/-- Every event of the queue is filled in as its handler reads it. -/
def EventsOk (s : EventLoop n) : Prop := ∀ event ∈ s.queue, event.WellFormed

lemma EventsOk.postEvent (h : EventsOk s) {event : RawEvent} (hevent : event.WellFormed) :
    EventsOk (s.postEvent event) := by
  intro e he
  rcases List.mem_append.1 he with he | he
  · exact h e he
  · exact List.mem_singleton.1 he ▸ hevent

lemma EventsOk.rest (h : EventsOk s) {event : RawEvent} {queue : List RawEvent}
    (hq : s.queue = event :: queue) : EventsOk ({ s with queue := queue }.after event) :=
  fun e he => h e (hq ▸ List.mem_cons_of_mem _ he)

/-- Dispatching takes the oldest event and does what it is to the application. -/
lemma EventsOk.dispatchEvent (h : EventsOk s) {event : RawEvent} {queue : List RawEvent}
    (hq : s.queue = event :: queue) :
    s.dispatchEvent = some (true, { s with queue := queue }.after event) := by
  have hevent : event.WellFormed := h event (hq ▸ List.mem_cons_self)
  unfold EventLoop.dispatchEvent
  rw [hq]
  exact handle_of_wellFormed hevent { s with queue := queue }

/-- **Everything that a step of the loop can do**, with the events that it posts filled in. -/
inductive Move (linear : UInt16 → ℚ) (s : EventLoop n) : EventLoop n → Prop
  /-- the application takes a step in which no event is posted or handled -/
  | app {act : AppAct} {w : AppTask n} : act ≠ .lightButton → act ≠ .expire → act ≠ .dispatch →
      s.app.step linear act = some w → Move linear s { s with app := w }
  | noEvent : Move linear s s
  | lightSwitch (btnAction : UInt8) : Move linear s
      (s.postEvent ⟨RawEvent.kEventTypeButton, .buttonEvent btnAction, .lightActionEventHandler⟩)
  | functionButton (btnAction : UInt8) : Move linear s
      (s.postEvent ⟨RawEvent.kEventTypeButton, .buttonEvent btnAction, .buttonHandler⟩)
  | request (action : Action) (actor : Int32) : Move linear s
      (s.postEvent ⟨RawEvent.kEventTypeLight, .lightEvent action.toUInt8 actor,
        .lightActionEventHandler⟩)
  | expired {purpose : Purpose} : s.app.timer = some purpose → Move linear s
      ({ s with app := { s.app with timer := none } }.postEvent
        ⟨RawEvent.kEventTypeTimer, .timerEvent, .timer s.app.light.timerEventHandler⟩)
  | handled {event : RawEvent} {queue : List RawEvent} : s.queue = event :: queue →
      Move linear s ({ s with queue := queue }.after event)

lemma step_app {act : AppAct} (hbutton : act ≠ .lightButton) (hexpire : act ≠ .expire)
    (hdispatch : act ≠ .dispatch) : s.step linear buttonPressed (.app act) =
      (s.app.step linear act).map fun app => { s with app := app } := by
  cases act with
  | lightButton => exact absurd rfl hbutton
  | expire => exact absurd rfl hexpire
  | dispatch => exact absurd rfl hdispatch
  | _ => rfl

lemma EventsOk.step_move (h : EventsOk s) {act : LoopAct}
    (hstep : s.step linear buttonPressed act = some s') : Move linear s s' := by
  cases act with
  | app act =>
    by_cases hposts : act = .lightButton ∨ act = .expire ∨ act = .dispatch
    · obtain rfl | rfl | rfl := hposts
      · cases hstep
      · cases hstep
      · cases hstep
    · simp only [not_or] at hposts
      obtain ⟨hbutton, hexpire, hdispatch⟩ := hposts
      rw [step_app hbutton hexpire hdispatch] at hstep
      obtain ⟨w, hw, rfl⟩ := Option.map_eq_some_iff.1 hstep
      exact .app hbutton hexpire hdispatch hw
  | buttonEventHandler button btnAction =>
    obtain rfl := Option.some.inj hstep
    unfold buttonEventHandler
    split_ifs
    · exact .lightSwitch btnAction
    · exact .functionButton btnAction
    · exact .noEvent
  | postLightActionRequest aActor aAction =>
    obtain rfl := Option.some.inj hstep
    exact .request aAction aActor
  | timerEventHandler =>
    obtain ⟨purpose, htimer, rfl⟩ := Option.map_eq_some_iff.1 hstep
    exact .expired htimer
  | dispatchEvent =>
    obtain ⟨result, hresult, rfl⟩ := Option.map_eq_some_iff.1 hstep
    cases hq : s.queue with
    | nil =>
      rw [EventLoop.dispatchEvent, hq] at hresult
      cases hresult
    | cons event queue =>
      obtain rfl := Option.some.inj ((h.dispatchEvent hq).symm.trans hresult)
      exact .handled hq

lemma EventsOk.move (h : EventsOk s) (hmove : Move linear s s') : EventsOk s' := by
  cases hmove with
  | app _ _ _ _ => exact h
  | noEvent => exact h
  | lightSwitch btnAction => exact h.postEvent (.lightSwitch btnAction)
  | functionButton btnAction => exact h.postEvent (.functionButton btnAction)
  | request action actor => exact h.postEvent (.light action actor)
  | expired _ =>
    have h' : EventsOk { s with app := { s.app with timer := none } } := h
    exact h'.postEvent (.timer _)
  | handled hq => exact h.rest hq

/-! ### What is left of the records is the application -/

end EventLoop

/-- The same application, with another queue. -/
def AppTask.withQueue {n : ℕ} (w : AppTask n) (queue : List AppEvent) : AppTask n :=
  { w with queue := queue }

namespace AppTask

variable {n : ℕ} {linear : UInt16 → ℚ} {w w' : AppTask n} (queue : List AppEvent)

lemma absorb_withQueue (w : AppTask n) (result : LightingManager × List LightCall) :
    (w.withQueue queue).absorb result = (w.absorb result).withQueue queue := by
  refine absorb_simulation (R := fun w w' => w' = w.withQueue queue) result ?_ rfl
  rintro w w' call rfl
  cases call with
  | actionCompleted aAction =>
    unfold perform actionCompleted
    cases hsync : w.mSyncClusterToButtonAction <;> simp [withQueue, hsync]
  | _ => rfl

lemma dispatchEvent_withQueue (w : AppTask n) (event : AppEvent) :
    (w.withQueue queue).dispatchEvent event = (w.dispatchEvent event).withQueue queue := by
  cases event with
  | timerEvent handler => exact w.absorb_withQueue queue _
  | buttonEvent => exact w.absorb_withQueue queue _
  | lightEvent action actor => exact w.absorb_withQueue queue _

/-- A step in which no event is posted or handled can be taken with any queue. -/
lemma step_withQueue {act : AppAct} (hbutton : act ≠ .lightButton) (hexpire : act ≠ .expire)
    (hdispatch : act ≠ .dispatch) (h : w.step linear act = some w') :
    (w.withQueue queue).step linear act = some (w'.withQueue queue) := by
  cases act with
  | attributeChange clusterId attributeId value =>
    obtain rfl := Option.some.inj h
    refine congrArg some ?_
    unfold matterPostAttributeChangeCallback
    split_ifs
    all_goals first
      | exact w.absorb_withQueue queue _
      | rfl
  | lightButton => exact absurd rfl hbutton
  | onTriggerOffWithEffect effect =>
    obtain rfl := Option.some.inj h
    exact congrArg some (w.absorb_withQueue queue _)
  | enableAutoTurnOff aOn =>
    obtain rfl := Option.some.inj h
    rfl
  | setAutoTurnOffDuration d =>
    obtain rfl := Option.some.inj h
    rfl
  | expire => exact absurd rfl hexpire
  | dispatch => exact absurd rfl hdispatch
  | stripHandler =>
    obtain rfl := Option.some.inj h
    rfl

end AppTask

namespace EventLoop

variable {n : ℕ} {linear : UInt16 → ℚ} {buttonPressed : UInt8} {s s' : EventLoop n}

/-- The application, with the events as it has them. -/
def toApp (s : EventLoop n) : AppTask n := s.app.withQueue (s.queue.filterMap RawEvent.appEvent?)

/-- A request is an event of the application that no act of it posts. -/
inductive AppMove (linear : UInt16 → ℚ) (w : AppTask n) : AppTask n → Prop
  | step (act : AppAct) {w' : AppTask n} : w.step linear act = some w' → AppMove linear w w'
  | none : AppMove linear w w
  | request (action : Action) (actor : Int32) :
      AppMove linear w (w.withQueue (w.queue ++ [.lightEvent action actor]))

lemma toApp_handled {event : RawEvent} {queue : List RawEvent} (hq : s.queue = event :: queue) :
    AppMove linear s.toApp ({ s with queue := queue }.after event).toApp := by
  cases happ : event.appEvent? with
  | none =>
    have hsame : ({ s with queue := queue }.after event).toApp = s.toApp := by
      simp only [toApp, after, hq, List.filterMap_cons, happ, Option.elim_none]
    exact hsame ▸ .none
  | some appEvent =>
    refine .step .dispatch ?_
    have hcons : s.toApp = s.app.withQueue (appEvent :: queue.filterMap RawEvent.appEvent?) := by
      simp only [toApp, hq, List.filterMap_cons, happ]
    have hafter : ({ s with queue := queue }.after event).toApp =
        (s.app.dispatchEvent appEvent).withQueue (queue.filterMap RawEvent.appEvent?) := by
      simp only [toApp, after, happ, Option.elim_some]
    rw [hcons, hafter]
    exact congrArg some (s.app.dispatchEvent_withQueue _ appEvent)

/-- **A step of the loop is a step of the application**, or nothing to it, or a request. -/
theorem Move.toApp (h : Move linear s s') : AppMove linear s.toApp s'.toApp := by
  have hpost : ∀ (w : AppTask n) {event : RawEvent} {appEvent : AppEvent},
      event.appEvent? = some appEvent → ({ s with app := w }.postEvent event).toApp =
        w.withQueue (s.toApp.queue ++ [appEvent]) := by
    intro w event appEvent happ
    simp [EventLoop.toApp, postEvent, AppTask.withQueue, happ]
  cases h with
  | app hbutton hexpire hdispatch hstep =>
    exact .step _ (AppTask.step_withQueue _ hbutton hexpire hdispatch hstep)
  | noEvent => exact .none
  | lightSwitch btnAction =>
    refine .step .lightButton ?_
    exact congrArg some (hpost s.app rfl).symm
  | functionButton btnAction =>
    have hsame : (s.postEvent ⟨RawEvent.kEventTypeButton, .buttonEvent btnAction,
        .buttonHandler⟩).toApp = s.toApp := by
      simp [EventLoop.toApp, postEvent, RawEvent.appEvent?, List.filterMap_cons]
    exact hsame ▸ .none
  | request action actor =>
    have hlight : RawEvent.appEvent? ⟨RawEvent.kEventTypeLight,
        .lightEvent action.toUInt8 actor, .lightActionEventHandler⟩ =
          some (.lightEvent action actor) := by
      simp [RawEvent.appEvent?, RawEvent.kEventTypeLight, RawEvent.kEventTypeButton,
        EventUnion.lightEvent?]
    exact hpost s.app hlight ▸ .request action actor
  | expired htimer =>
    refine .step .expire ?_
    rw [hpost { s.app with timer := .none } rfl]
    have htimer' : s.toApp.timer = some _ := htimer
    simp only [AppTask.step, AppTask.expire, htimer', Option.map_some]
    rfl
  | handled hq => exact toApp_handled hq

/-! ### Runs of the loop -/

lemma AppMove.exists_toSystem {w w' : AppTask n} (h : AppMove linear w w') :
    ∃ log, Run LightSystem.step w.toSystem log w'.toSystem := by
  cases h with
  | step _ hstep => exact ⟨_, run_execLog (AppTask.step_toSystem linear hstep)⟩
  | none => exact ⟨[], .start⟩
  | request action actor =>
    have hsame : (w.withQueue (w.queue ++ [.lightEvent action actor])).toSystem = w.toSystem := by
      simp [AppTask.toSystem, AppTask.withQueue, AppEvent.timerHandler?]
    exact ⟨[], hsame ▸ .start⟩

/-- The LED, the strip and the light agree. -/
structure Lit (w : AppTask n) : Prop where
  shows : AppTask.Shows w
  led : AppTask.LedShows w

lemma AppMove.lit {w w' : AppTask n} (h : AppMove linear w w') (hlit : Lit w) : Lit w' := by
  cases h with
  | step _ hstep => exact ⟨hlit.shows.step hstep, hlit.led.step linear hstep⟩
  | none => exact hlit
  | request action actor => exact ⟨⟨hlit.shows.set, hlit.shows.shown⟩, hlit.led⟩

variable {buffer : Memory UInt8} {currentLedState : Bool} {log : List (EventLoop n × LoopAct)}

lemma eventsOk_of_run
    (hrun : Run (step linear buttonPressed) (start n buffer currentLedState) log s) : EventsOk s :=
  hrun.invariant (I := EventsOk) (by simp [EventsOk, start]) fun _ _ _ h hstep =>
    h.move (h.step_move hstep)

/-- **Every event that is posted is handled.** In every state of every run of the event loop each
queued event is filled in as its handler reads it, and the next one is dispatched without an error:
no member of the union is read but the one that was written. -/
theorem events_handled (linear : UInt16 → ℚ) (buttonPressed : UInt8) (n : ℕ) (buffer : Memory UInt8)
    (currentLedState : Bool) (log : List (EventLoop n × LoopAct)) (s : EventLoop n)
    (hrun : Run (step linear buttonPressed) (start n buffer currentLedState) log s) :
    (∀ event ∈ s.queue, event.WellFormed) ∧
      (s.queue ≠ [] → ∃ s', s.dispatchEvent = some (true, s')) := by
  have hok := eventsOk_of_run hrun
  refine ⟨hok, ?_⟩
  intro hne
  obtain ⟨event, queue, hq⟩ := List.exists_cons_of_ne_nil hne
  exact ⟨_, hok.dispatchEvent hq⟩

/-- A request to turn on behind a button that is pressed and one that is only handed over. -/
theorem events_handled_request :
    ∃ log s, Run (step linearExact 1) (start 1 (fun _ => 0) false) log s ∧
      log.map Prod.snd =
        [.buttonEventHandler 1 1, .buttonEventHandler 0 0, .postLightActionRequest 2 .onAction] ∧
      s.queue.length = 3 ∧ ∃ s', s.dispatchEvent = some (true, s') := by
  obtain ⟨log, hrun, hlog⟩ := exists_run_of_exec (step linearExact 1) (start 1 (fun _ => 0) false)
    [.buttonEventHandler 1 1, .buttonEventHandler 0 0, .postLightActionRequest 2 .onAction] rfl
  exact ⟨log, _, hrun, hlog, rfl,
    (events_handled linearExact 1 1 (fun _ => 0) false log _ hrun).2 (List.cons_ne_nil _ _)⟩

/-- The light of the loop goes through the same transitions as the light by itself. -/
lemma exists_run_toSystem
    (hrun : Run (step linear buttonPressed) (start n buffer currentLedState) log s) :
    ∃ log', Run LightSystem.step (LightSystem.start currentLedState true true) log'
      s.toApp.toSystem := by
  have hinv := hrun.invariant (I := fun s => EventsOk s ∧ ∃ log', Run LightSystem.step
    (LightSystem.start currentLedState true true) log' s.toApp.toSystem)
    ⟨by simp [EventsOk, start], [], .start⟩ (by
      rintro t act u ⟨hok, log', hlight⟩ hstep
      have hmove := hok.step_move hstep
      obtain ⟨log'', hlight'⟩ := hmove.toApp.exists_toSystem
      exact ⟨hok.move hmove, log' ++ log'', hlight.append hlight'⟩)
  exact hinv.2

lemma lit_of_run
    (hrun : Run (step linear buttonPressed) (start n buffer currentLedState) log s) :
    Lit s.toApp := by
  have hstart : Lit (start n buffer currentLedState).toApp := by
    refine ⟨AppTask.shows_init n buffer currentLedState, ?_⟩
    cases currentLedState <;> rfl
  have hinv := hrun.invariant (I := fun s => EventsOk s ∧ Lit s.toApp)
    ⟨by simp [EventsOk, start], hstart⟩ (by
      rintro t act u ⟨hok, hlit⟩ hstep
      have hmove := hok.step_move hstep
      exact ⟨hok.move hmove, hmove.toApp.lit hlit⟩)
  exact hinv.2

/-- **The event loop runs the light.** Whatever the buttons, the requests and the attributes do, the
light, its timer and its events are those of a run of the light; and the LED is lit, and the strip
switched on, exactly if that light is on or turning on. -/
theorem light_of_loop (linear : UInt16 → ℚ) (buttonPressed : UInt8) (n : ℕ) (buffer : Memory UInt8)
    (currentLedState : Bool) (log : List (EventLoop n × LoopAct)) (s : EventLoop n)
    (hrun : Run (step linear buttonPressed) (start n buffer currentLedState) log s) :
    (∃ log', Run LightSystem.step (LightSystem.start currentLedState true true) log'
        s.toApp.toSystem) ∧
      s.app.sLightLED = s.app.light.mState.isOn ∧
      s.app.strip.ctl.turnedOn = s.app.light.mState.isOn := by
  obtain ⟨⟨-, spec, href, hon⟩, hled⟩ := lit_of_run hrun
  have hturned : s.app.strip.ctl.turnedOn = s.app.light.mState.isOn := href.turnedOn.trans hon
  exact ⟨exists_run_toSystem hrun, Eq.trans hled hturned, hturned⟩

/-- A request to turn on, handled. -/
theorem light_of_loop_request :
    ∃ log s, Run (step linearExact 1) (start 1 (fun _ => 0) false) log s ∧
      log.map Prod.snd = [.postLightActionRequest 2 .onAction, .dispatchEvent] ∧
      s.app.light.mState = .onInitiated ∧ s.app.sLightLED = true := by
  obtain ⟨log, hrun, hlog⟩ := exists_run_of_exec (step linearExact 1) (start 1 (fun _ => 0) false)
    [.postLightActionRequest 2 .onAction, .dispatchEvent] rfl
  exact ⟨log, _, hrun, hlog, rfl,
    (light_of_loop linearExact 1 1 (fun _ => 0) false log _ hrun).2.1⟩

/-! ### The loop of `AppTaskMain` -/

lemma foldl_after (events : List RawEvent) (s : EventLoop n) :
    events.foldl after s =
      ⟨(events.filterMap RawEvent.appEvent?).foldl AppTask.dispatchEvent s.app, s.queue,
        s.handedOver ++ events.filterMap RawEvent.handedOver?⟩ := by
  induction events generalizing s with
  | nil => simp
  | cons event events ih =>
    rw [List.foldl_cons, ih]
    cases happ : event.appEvent? <;> cases hbutton : event.handedOver? <;>
      simp [after, happ, hbutton]

lemma EventsOk.appTaskMain (h : EventsOk s) {rounds : ℕ} (hrounds : s.queue.length ≤ rounds) :
    s.appTaskMain rounds = some (s.queue.foldl after { s with queue := [] }) := by
  induction rounds generalizing s with
  | zero =>
    have hempty : s.queue = [] := List.eq_nil_of_length_eq_zero (Nat.le_zero.1 hrounds)
    rw [EventLoop.appTaskMain, if_pos hempty, hempty, List.foldl_nil, ← hempty]
  | succ rounds ih =>
    cases hq : s.queue with
    | nil => rw [EventLoop.appTaskMain, if_pos hq, List.foldl_nil, ← hq]
    | cons event queue =>
      have hlen : queue.length ≤ rounds := by
        rw [hq, List.length_cons] at hrounds
        omega
      have hnext : EventsOk ({ s with queue := queue }.after event) := h.rest hq
      have hne : ¬ s.queue = [] := by simp [hq]
      rw [EventLoop.appTaskMain, if_neg hne, h.dispatchEvent hq]
      exact ih hnext hlen

/-- **The loop of `AppTaskMain` empties the queue.** As no handler posts an event, which is an
assumption on `BaseApplication::ButtonHandler` (`handle`), as many rounds as there are events are
enough; every event of the light is then handled in its order, and every button action handed over in
its order. The starts of the timer are taken to succeed. -/
theorem appTaskMain_empties (linear : UInt16 → ℚ) (buttonPressed : UInt8) (n : ℕ)
    (buffer : Memory UInt8) (currentLedState : Bool) (log : List (EventLoop n × LoopAct))
    (s : EventLoop n)
    (hrun : Run (step linear buttonPressed) (start n buffer currentLedState) log s) (rounds : ℕ)
    (hrounds : s.queue.length ≤ rounds) :
    s.appTaskMain rounds =
      some ⟨(s.queue.filterMap RawEvent.appEvent?).foldl AppTask.dispatchEvent s.app, [],
        s.handedOver ++ s.queue.filterMap RawEvent.handedOver?⟩ := by
  rw [(eventsOk_of_run hrun).appTaskMain hrounds, foldl_after]

/-- A press of the light switch and a request to turn off, which the light refuses while it turns
on. -/
theorem appTaskMain_empties_refused :
    ∃ log s s', Run (step linearExact 1) (start 1 (fun _ => 0) false) log s ∧
      log.map Prod.snd = [.buttonEventHandler 1 1, .postLightActionRequest 2 .offAction] ∧
      s.appTaskMain 2 = some s' ∧ s'.app.light.mState = .onInitiated := by
  obtain ⟨log, hrun, hlog⟩ := exists_run_of_exec (step linearExact 1) (start 1 (fun _ => 0) false)
    [.buttonEventHandler 1 1, .postLightActionRequest 2 .offAction] rfl
  exact ⟨log, _, _, hrun, hlog, appTaskMain_empties linearExact 1 1 (fun _ => 0) false log _ hrun 2
    (Nat.le_refl 2), rfl⟩

end EventLoop

end MatterStrip
