import MatterStrip.Light.Protocol
import MatterStrip.Strip.Controller

/-!
`AppTask`: the callbacks that join the light to the LED, the strip and the attributes, the event
handlers, and the attribute change callback.

The calls that a function of the light makes are performed one by one (`perform`). What they leave
of the light, the timer and the timer events is a step of `LightSystem` (`step_toSystem`), so that a
run of the application is a run of the light; what they leave of the strip depends on the two
callbacks alone (`absorb_strip`).
-/

namespace MatterStrip

open Lib LightingManager

/-! ### Clusters and attributes -/

def onOffId : UInt32 := 0x0006

def onOffAttributeId : UInt32 := 0x0000

def levelControlId : UInt32 := 0x0008

def colorControlId : UInt32 := 0x0300

/-- The bytes behind the `value` pointer, read as a `uint16_t`. -/
def uint16At (value : Memory UInt8) : UInt16 := (value 0).toUInt16 + 256 * (value 1).toUInt16

/-! ### The application -/

/-- An event of `sAppEventQueue` that concerns the light. -/
inductive AppEvent
  /-- posted by `LightingManager::TimerEventHandler` -/
  | timerEvent (handler : TimerHandler)
  /-- posted by `ButtonEventHandler`, for `LightActionEventHandler` -/
  | buttonEvent
  /-- posted by `PostLightActionRequest`, for `LightActionEventHandler` -/
  | lightEvent (action : Action) (actor : Int32)
  deriving DecidableEq, Repr

def AppEvent.timerHandler? : AppEvent → Option TimerHandler
  | .timerEvent handler => some handler
  | .buttonEvent => none
  | .lightEvent _ _ => none

/-- The application: `LightMgr()`, its timer, the event queue, the fields of `AppTask`, the strip,
and how many runs of `UpdateClusterState` `ScheduleWork` has been asked for. -/
structure AppTask (n : ℕ) where
  light : LightingManager
  /-- what the light's timer was last started for; `none` when it does not run -/
  timer : Option Purpose
  /-- the oldest event first -/
  queue : List AppEvent
  mSyncClusterToButtonAction : Bool
  sLightLED : Bool
  strip : Strip n
  scheduled : ℕ

namespace AppTask

variable {n : ℕ} (linear : UInt16 → ℚ) (w : AppTask n)

def actionInitiated (aAction : Action) (aActor : Int32) : AppTask n :=
  let lightOn : Bool := aAction = .onAction
  { w with
    sLightLED := lightOn
    strip := { w.strip with ctl := w.strip.ctl.turnOnOff lightOn }
    mSyncClusterToButtonAction :=
      if aActor = kEventTypeButton then true else w.mSyncClusterToButtonAction }

/-- `AppTask::ActionCompleted`, which only logs its action -/
def actionCompleted (_aAction : Action) : AppTask n :=
  if w.mSyncClusterToButtonAction then
    { w with scheduled := w.scheduled + 1, mSyncClusterToButtonAction := false }
  else w

def perform : LightCall → AppTask n
  | .osTimerStart purpose _ => { w with timer := some purpose }
  | .osTimerStop => { w with timer := none }
  | .actionInitiated aAction aActor => w.actionInitiated aAction aActor
  | .actionCompleted aAction => w.actionCompleted aAction

/-- The application after a function of the light. -/
def absorb (result : LightingManager × List LightCall) : AppTask n :=
  result.2.foldl perform { w with light := result.1 }

def initiateAction (aActor : Int32) (aAction : Action) : AppTask n :=
  w.absorb (w.light.initiateAction aActor aAction).2

/-- The action of a button event in `LightActionEventHandler`. -/
def buttonAction : Action := if w.light.isLightOn then .offAction else .onAction

/-- The handlers of the events: those of the light's timer, and `LightActionEventHandler`. -/
def dispatchEvent : AppEvent → AppTask n
  | .timerEvent handler => w.absorb (w.light.handle handler)
  | .buttonEvent => w.initiateAction kEventTypeButton w.buttonAction
  | .lightEvent action actor => w.initiateAction actor action

def matterPostAttributeChangeCallback (clusterId attributeId : UInt32) (value : Memory UInt8) :
    AppTask n :=
  let call (w : AppTask n) (op : StripOp) : AppTask n := { w with strip := w.strip.call linear op }
  if clusterId = onOffId ∧ attributeId = onOffAttributeId then
    w.initiateAction kEventTypeLight (if value 0 ≠ 0 then .onAction else .offAction)
  else if clusterId = levelControlId then
    if attributeId = 0 then call w (.setLevel (value 0)) else w
  else if clusterId = colorControlId then
    let w := if attributeId = 0x00000000 then call w (.setHue (value 0)) else w
    let w := if attributeId = 0x00000001 then call w (.setSaturation (value 0)) else w
    if attributeId = 0x00000007 then call w (.setColorTemperature (uint16At value)) else w
  else w

/-- The application after `AppTask::Init`, from the OnOff attribute, with any content of the pulse
buffer. -/
def init (n : ℕ) (buffer : Memory UInt8) (currentLedState : Bool) : AppTask n :=
  let light := (LightingManager.zero.init currentLedState).setCallbacks true true
  let strip := Strip.init n buffer
  { light := light
    timer := none
    queue := []
    mSyncClusterToButtonAction := false
    sLightLED := light.isLightOn
    strip := { strip with ctl := strip.ctl.turnOnOff light.isLightOn }
    scheduled := 0 }

def expire : Option (AppTask n) :=
  w.timer.map fun _ =>
    { w with timer := none, queue := w.queue ++ [.timerEvent w.light.timerEventHandler] }

def dispatch : Option (AppTask n) :=
  match w.queue with
  | [] => none
  | event :: queue => some ({ w with queue := queue }.dispatchEvent event)

end AppTask

inductive AppAct
  | attributeChange (clusterId attributeId : UInt32) (value : Memory UInt8)
  | lightButton
  | onTriggerOffWithEffect (effect : OnOffEffect)
  | enableAutoTurnOff (aOn : Bool)
  | setAutoTurnOffDuration (aDurationInSecs : UInt32)
  | expire
  | dispatch
  | stripHandler

namespace AppTask

variable {n : ℕ} (linear : UInt16 → ℚ) (w : AppTask n)

def step : AppAct → Option (AppTask n)
  | .attributeChange clusterId attributeId value =>
    some (w.matterPostAttributeChangeCallback linear clusterId attributeId value)
  | .lightButton => some { w with queue := w.queue ++ [.buttonEvent] }
  | .onTriggerOffWithEffect effect => some (w.absorb (w.light.onTriggerOffWithEffect effect))
  | .enableAutoTurnOff aOn => some { w with light := w.light.enableAutoTurnOff aOn }
  | .setAutoTurnOffDuration d => some { w with light := w.light.setAutoTurnOffDuration d }
  | .expire => w.expire
  | .dispatch => w.dispatch
  | .stripHandler => some { w with strip := w.strip.handlerIteration }

/-! ### What the calls leave -/

/-- What the callbacks do to the strip. -/
def stripAfter (strip : Strip n) : List Callback → Strip n
  | [] => strip
  | .initiated aAction :: cbs =>
    stripAfter { strip with ctl := strip.ctl.turnOnOff (aAction = .onAction) } cbs
  | .completed _ :: cbs => stripAfter strip cbs

lemma stripAfter_append (strip : Strip n) (cbs cbs' : List Callback) :
    stripAfter strip (cbs ++ cbs') = stripAfter (stripAfter strip cbs) cbs' := by
  induction cbs generalizing strip with
  | nil => rfl
  | cons cb cbs ih =>
    cases cb with
    | initiated aAction => exact ih _
    | completed aAction => exact ih strip

variable (result : LightingManager × List LightCall)

/-- **The rule for the calls of the light.** What relates two applications, whatever call both
perform, relates what a function of the light leaves of them. -/
lemma absorb_simulation {R : AppTask n → AppTask n → Prop} {w w' : AppTask n}
    (hperform : ∀ w w' call, R w w' → R (w.perform call) (w'.perform call))
    (h : R { w with light := result.1 } { w' with light := result.1 }) :
    R (w.absorb result) (w'.absorb result) :=
  foldl_simulation hperform result.2 _ _ h

/-- What holds of one application, whatever call it performs. -/
lemma absorb_invariant {I : AppTask n → Prop} {w : AppTask n}
    (hperform : ∀ w call, I w → I (w.perform call)) (h : I { w with light := result.1 }) :
    I (w.absorb result) :=
  foldl_history (J := fun _ w => I w) h (fun _ w call hw => hperform w call hw) result.2

/-- What one call leaves. -/
lemma perform_eq (call : LightCall) :
    (w.perform call).light = w.light ∧
      (w.perform call).timer = timerAfter w.timer [call] ∧
      (w.perform call).queue = w.queue ∧
      (w.perform call).strip = stripAfter w.strip (callbacks [call]) := by
  cases call with
  | osTimerStart purpose ms => exact ⟨rfl, rfl, rfl, rfl⟩
  | osTimerStop => exact ⟨rfl, rfl, rfl, rfl⟩
  | actionInitiated aAction aActor => exact ⟨rfl, rfl, rfl, rfl⟩
  | actionCompleted aAction =>
    simp only [perform, actionCompleted]
    split <;> exact ⟨rfl, rfl, rfl, rfl⟩

lemma foldl_perform (calls : List LightCall) :
    (calls.foldl perform w).light = w.light ∧
      (calls.foldl perform w).timer = timerAfter w.timer calls ∧
      (calls.foldl perform w).queue = w.queue ∧
      (calls.foldl perform w).strip = stripAfter w.strip (callbacks calls) := by
  refine foldl_history (J := fun calls (w' : AppTask n) => w'.light = w.light ∧
    w'.timer = timerAfter w.timer calls ∧ w'.queue = w.queue ∧
    w'.strip = stripAfter w.strip (callbacks calls)) ⟨rfl, rfl, rfl, rfl⟩ ?_ calls
  rintro calls w' call ⟨hlight, htimer, hqueue, hstrip⟩
  obtain ⟨hlight', htimer', hqueue', hstrip'⟩ := w'.perform_eq call
  rw [callbacks_append, stripAfter_append, timerAfter_append, ← hstrip, ← htimer]
  exact ⟨hlight'.trans hlight, htimer', hqueue'.trans hqueue, hstrip'⟩

@[simp] lemma absorb_light : (w.absorb result).light = result.1 :=
  (foldl_perform { w with light := result.1 } result.2).1

@[simp] lemma absorb_timer : (w.absorb result).timer = timerAfter w.timer result.2 :=
  (foldl_perform { w with light := result.1 } result.2).2.1

@[simp] lemma absorb_queue : (w.absorb result).queue = w.queue :=
  (foldl_perform { w with light := result.1 } result.2).2.2.1

lemma absorb_strip : (w.absorb result).strip = stripAfter w.strip (callbacks result.2) :=
  (foldl_perform { w with light := result.1 } result.2).2.2.2

/-- The calls of an accepted action: the timer started, and the callback. -/
lemma absorb_initiated (h : w.light.mActionInitiatedCB = true) (new : LightingManager)
    (armed : Bool) (purpose : Purpose) (ms : UInt32) (aActor : Int32) (aAction : Action) :
    w.absorb (new, stopIf armed ++ [.osTimerStart purpose ms] ++
        w.light.initiatedCall aActor aAction) =
      { w with light := new, timer := some purpose }.actionInitiated aAction aActor := by
  rw [initiatedCall, if_pos h]
  cases armed <;> rfl

lemma absorb_completed (h : w.light.mActionCompletedCB = true) (new : LightingManager)
    (aAction : Action) :
    w.absorb (new, w.light.completedCall aAction) =
      { w with light := new }.actionCompleted aAction := by
  rw [completedCall, if_pos h]
  rfl

/-- An action that is refused leaves the application as it is. -/
lemma initiateAction_refused {aAction : Action}
    (h : ¬ (aAction = .onAction ∧ w.light.AcceptsOn) ∧
      ¬ (aAction = .offAction ∧ w.light.AcceptsOff)) (aActor : Int32) :
    w.initiateAction aActor aAction = w := by
  rw [initiateAction, LightingManager.initiateAction_refused _ h]
  rfl

/-- **What `InitiateAction` does to the application.** -/
theorem initiateAction_cases (hset : CallbacksSet w.light) (aActor : Int32) (aAction : Action) :
    (aAction = .onAction ∧ w.light.AcceptsOn ∧ w.initiateAction aActor aAction =
      { w with light := { w.light with mState := .onInitiated, mOffEffectArmed := false }
               timer := some .actuatorMovement }.actionInitiated .onAction aActor) ∨
    (aAction = .offAction ∧ w.light.AcceptsOff ∧ w.initiateAction aActor aAction =
      { w with light := { w.light with mState := .offInitiated, mAutoTurnOffTimerArmed := false }
               timer := some .actuatorMovement }.actionInitiated .offAction aActor) ∨
    (¬ (aAction = .onAction ∧ w.light.AcceptsOn) ∧ ¬ (aAction = .offAction ∧ w.light.AcceptsOff) ∧
      w.initiateAction aActor aAction = w) := by
  rcases w.light.initiateAction_cases aActor aAction with
    ⟨ha, hon, hr⟩ | ⟨ha, hoff, hr⟩ | ⟨hon, hoff, -⟩
  · subst ha
    refine Or.inl ⟨rfl, hon, ?_⟩
    rw [initiateAction, hr]
    exact w.absorb_initiated hset.initiated _ _ _ _ _ _
  · subst ha
    refine Or.inr (Or.inl ⟨rfl, hoff, ?_⟩)
    rw [initiateAction, hr]
    exact w.absorb_initiated hset.initiated _ _ _ _ _ _
  · exact Or.inr (Or.inr ⟨hon, hoff, w.initiateAction_refused ⟨hon, hoff⟩ aActor⟩)

/-! ### The light of the application -/

/-- The light, its timer and its events. -/
def toSystem : LightSystem := ⟨w.light, w.timer, w.queue.filterMap AppEvent.timerHandler?⟩

/-- The steps of the light in a step of the application. -/
def lightActs : AppAct → List LightAct
  | .attributeChange clusterId attributeId value =>
    if clusterId = onOffId ∧ attributeId = onOffAttributeId then
      [.initiateAction kEventTypeLight (if value 0 ≠ 0 then .onAction else .offAction)]
    else []
  | .lightButton => []
  | .onTriggerOffWithEffect effect => [.onTriggerOffWithEffect effect]
  | .enableAutoTurnOff aOn => [.enableAutoTurnOff aOn]
  | .setAutoTurnOffDuration d => [.setAutoTurnOffDuration d]
  | .expire => [.expire]
  | .dispatch =>
    match w.queue.head? with
    | some (.timerEvent _) => [.dispatch]
    | some .buttonEvent => [.initiateAction kEventTypeButton w.buttonAction]
    | some (.lightEvent action actor) => [.initiateAction actor action]
    | none => []
  | .stripHandler => []

lemma toSystem_absorb : (w.absorb result).toSystem = (w.toSystem.absorb result).1 := by
  simp [toSystem, LightSystem.absorb]

lemma toSystem_initiateAction (aActor : Int32) (aAction : Action) :
    w.toSystem.step (.initiateAction aActor aAction) =
      some (w.initiateAction aActor aAction).toSystem := by
  rw [initiateAction, toSystem_absorb]
  rfl

lemma toSystem_trigger (effect : OnOffEffect) :
    w.toSystem.step (.onTriggerOffWithEffect effect) =
      some (w.absorb (w.light.onTriggerOffWithEffect effect)).toSystem := by
  rw [toSystem_absorb]
  rfl

variable {w} {w' : AppTask n}

lemma toSystem_expire (h : w.expire = some w') :
    w.toSystem.step .expire = some w'.toSystem := by
  obtain ⟨purpose, htimer, rfl⟩ := Option.map_eq_some_iff.1 h
  simp [LightSystem.step, LightSystem.outcome, htimer, toSystem, AppEvent.timerHandler?]

lemma toSystem_timerEvent {handler : TimerHandler} {queue : List AppEvent}
    (hq : w.queue = .timerEvent handler :: queue) :
    w.toSystem.step .dispatch =
      some ({ w with queue := queue }.absorb (w.light.handle handler)).toSystem := by
  rw [toSystem_absorb]
  simp only [LightSystem.step, LightSystem.outcome, toSystem, hq, List.filterMap_cons,
    AppEvent.timerHandler?]
  rfl

lemma toSystem_dispatch (h : w.dispatch = some w') :
    exec LightSystem.step w.toSystem (w.lightActs .dispatch) = some w'.toSystem := by
  unfold dispatch at h
  split at h
  · cases h
  · next event queue hq =>
    obtain rfl := Option.some.inj h
    cases event with
    | timerEvent handler =>
      simp only [lightActs, hq, List.head?_cons, exec, toSystem_timerEvent hq]
      rfl
    | buttonEvent =>
      have hsys : w.toSystem = { w with queue := queue }.toSystem := by
        simp only [toSystem, hq, List.filterMap_cons, AppEvent.timerHandler?]
      simp only [lightActs, hq, List.head?_cons, exec, hsys, toSystem_initiateAction]
      rfl
    | lightEvent action actor =>
      have hsys : w.toSystem = { w with queue := queue }.toSystem := by
        simp only [toSystem, hq, List.filterMap_cons, AppEvent.timerHandler?]
      simp only [lightActs, hq, List.head?_cons, exec, hsys, toSystem_initiateAction]
      rfl

/-- The attribute change callback acts on the light through the OnOff attribute alone. -/
lemma toSystem_attributeChange (clusterId attributeId : UInt32) (value : Memory UInt8)
    (h : ¬ (clusterId = onOffId ∧ attributeId = onOffAttributeId)) :
    (w.matterPostAttributeChangeCallback linear clusterId attributeId value).toSystem =
      w.toSystem := by
  unfold matterPostAttributeChangeCallback
  rw [if_neg h]
  split_ifs <;> rfl

/-- **A step of the application is a step of the light, or several, or none.** -/
theorem step_toSystem {a : AppAct} (h : w.step linear a = some w') :
    exec LightSystem.step w.toSystem (w.lightActs a) = some w'.toSystem := by
  cases a with
  | attributeChange clusterId attributeId value =>
    obtain rfl := Option.some.inj h
    by_cases hid : clusterId = onOffId ∧ attributeId = onOffAttributeId
    · simp only [lightActs, if_pos hid, exec, toSystem_initiateAction,
        matterPostAttributeChangeCallback]
      rfl
    · simp only [lightActs, if_neg hid, exec, toSystem_attributeChange linear _ _ _ hid]
  | lightButton =>
    obtain rfl := Option.some.inj h
    simp [lightActs, exec, toSystem, AppEvent.timerHandler?]
  | onTriggerOffWithEffect effect =>
    obtain rfl := Option.some.inj h
    simp only [lightActs, exec, toSystem_trigger]
    rfl
  | enableAutoTurnOff aOn =>
    obtain rfl := Option.some.inj h
    rfl
  | setAutoTurnOffDuration d =>
    obtain rfl := Option.some.inj h
    rfl
  | expire =>
    simp only [lightActs, exec, toSystem_expire h]
    rfl
  | dispatch => exact toSystem_dispatch h
  | stripHandler =>
    obtain rfl := Option.some.inj h
    rfl

/-- **A run of the application is a run of the light.** -/
theorem exists_run_toSystem {s : AppTask n} {log : List (AppTask n × AppAct)}
    (h : Run (step linear) s log w) :
    ∃ log', Run LightSystem.step s.toSystem log' w.toSystem :=
  ⟨_, h.refines fun _ _ _ hstep => step_toSystem linear hstep⟩

end AppTask

end MatterStrip
