import MatterStrip.App.StartUp

/-!
The handlers of the application task, statement by statement, while the other tasks go on.

Everything about `LightMgr()` is shared: the network writes the OnOff attribute from a task of its
own, the timer expires in another, and no lock is taken. Here the application task is the one that
is preempted, at any statement; what the other tasks do in between they do at once, as tasks of a
higher priority do. Left alone, the statements of a handler come to what the handler does in the
other modules, where it is never preempted (`handles_alone`).
-/

namespace MatterStrip

open Lib LightingManager

/-! ### The statements -/

/-- The statement of `InitiateAction`, after its test, or of `ActionInitiated` that is executed
next. -/
inductive ActionPc
  /-- `if (mAutoTurnOffTimerArmed && new_state == kState_OffInitiated)` -/
  | testAutoTurnOff
  | clearAutoTurnOff
  | cancelAutoTurnOff
  /-- `if (mOffEffectArmed && new_state == kState_OnInitiated)` -/
  | testOffEffect
  | cancelOffEffect
  | clearOffEffect
  | startTimer
  /-- `mState = new_state` -/
  | setState
  /-- `if (mActionInitiated_CB)` -/
  | testCallback
  | setLed
  | turnOnOff
  | setSync
  deriving DecidableEq, Repr

/-- The statement of the application task that is executed next. -/
inductive TaskPc
  /-- `osMessageQueueGet` -/
  | get
  /-- `LightActionEventHandler` reads `IsLightOn` for a button event -/
  | lightActionEventHandler
  /-- the test of `InitiateAction` -/
  | initiateAction (aActor : Int32) (aAction : Action)
  | initiating (pc : ActionPc) (aActor : Int32) (aAction : Action) (newState : LightState)
  /-- `if (!light->mAutoTurnOffTimerArmed)` -/
  | autoTurnOffTimerEventHandler
  | clearAutoTurnOffTimerArmed
  /-- `if (!light->mOffEffectArmed)` -/
  | offEffectTimerEventHandler
  | clearOffEffectArmed
  /-- the tests of `ActuatorMovementTimerEventHandler` -/
  | actuatorMovementTimerEventHandler
  /-- `light->mState = ...` -/
  | setCompleted (state : LightState) (actionCompleted : Action)
  /-- `if (light->mActionCompleted_CB)` and `ActionCompleted` -/
  | completedCallback (actionCompleted : Action)
  /-- `if (light->mAutoTurnOff && actionCompleted == ON_ACTION)` -/
  | testAutoTurnOff (actionCompleted : Action)
  | startAutoTurnOff
  | armAutoTurnOff
  deriving DecidableEq, Repr

/-- The application, and where its task stands. -/
structure Interrupted (n : ℕ) where
  app : AppTask n
  pc : TaskPc

inductive InterruptAct
  /-- the task executes its next statement -/
  | task
  /-- another task acts, or an interrupt; `UpdateClusterState` writes the OnOff attribute -/
  | other (act : AppAct)

namespace Interrupted

variable {n : ℕ}

/-- Where the handler of an event begins. -/
def entry : AppEvent → TaskPc
  | .timerEvent .autoTurnOffTimerEventHandler => .autoTurnOffTimerEventHandler
  | .timerEvent .offEffectTimerEventHandler => .offEffectTimerEventHandler
  | .timerEvent .actuatorMovementTimerEventHandler => .actuatorMovementTimerEventHandler
  | .buttonEvent => .lightActionEventHandler
  | .lightEvent action actor => .initiateAction actor action

/-- The statements of `InitiateAction` and `ActionInitiated`; `none` at the end. -/
def initiatingNext (w : AppTask n) (pc : ActionPc) (aActor : Int32) (aAction : Action)
    (newState : LightState) : AppTask n × Option ActionPc :=
  let light := w.light
  match pc with
  | .testAutoTurnOff =>
    (w, some (if light.mAutoTurnOffTimerArmed = true ∧ newState = .offInitiated then
      .clearAutoTurnOff else .testOffEffect))
  | .clearAutoTurnOff =>
    ({ w with light := { light with mAutoTurnOffTimerArmed := false } }, some .cancelAutoTurnOff)
  | .cancelAutoTurnOff => (w.perform .osTimerStop, some .testOffEffect)
  | .testOffEffect =>
    (w, some (if light.mOffEffectArmed = true ∧ newState = .onInitiated then
      .cancelOffEffect else .startTimer))
  | .cancelOffEffect => (w.perform .osTimerStop, some .clearOffEffect)
  | .clearOffEffect =>
    ({ w with light := { light with mOffEffectArmed := false } }, some .startTimer)
  | .startTimer =>
    (w.perform (.osTimerStart .actuatorMovement actuatorMovementPeriosMs), some .setState)
  | .setState => ({ w with light := { light with mState := newState } }, some .testCallback)
  | .testCallback => (w, if light.mActionInitiatedCB then some .setLed else none)
  | .setLed => ({ w with sLightLED := aAction = .onAction }, some .turnOnOff)
  | .turnOnOff =>
    ({ w with strip := { w.strip with ctl := w.strip.ctl.turnOnOff (aAction = .onAction) } },
      some .setSync)
  | .setSync =>
    ({ w with mSyncClusterToButtonAction :=
        if aActor = kEventTypeButton then true else w.mSyncClusterToButtonAction }, none)

/-- The next statement of the application task; without an event it waits. -/
def next (s : Interrupted n) : Interrupted n :=
  let w := s.app
  let light := w.light
  match s.pc with
  | .get =>
    match w.queue with
    | [] => s
    | event :: queue => ⟨{ w with queue := queue }, entry event⟩
  | .lightActionEventHandler => ⟨w, .initiateAction kEventTypeButton w.buttonAction⟩
  | .initiateAction aActor aAction =>
    match light.newState aAction with
    | none => ⟨w, .get⟩
    | some newState => ⟨w, .initiating .testAutoTurnOff aActor aAction newState⟩
  | .initiating pc aActor aAction newState =>
    let result := initiatingNext w pc aActor aAction newState
    ⟨result.1, result.2.elim .get fun pc => .initiating pc aActor aAction newState⟩
  | .autoTurnOffTimerEventHandler =>
    ⟨w, if light.mAutoTurnOffTimerArmed = false then .get else .clearAutoTurnOffTimerArmed⟩
  | .clearAutoTurnOffTimerArmed =>
    ⟨{ w with light := { light with mAutoTurnOffTimerArmed := false } },
      .initiateAction kEventTypeTimer .offAction⟩
  | .offEffectTimerEventHandler =>
    ⟨w, if light.mOffEffectArmed = false then .get else .clearOffEffectArmed⟩
  | .clearOffEffectArmed =>
    ⟨{ w with light := { light with mOffEffectArmed := false } },
      .initiateAction kEventTypeTimer .offAction⟩
  | .actuatorMovementTimerEventHandler =>
    ⟨w, if light.mState = .offInitiated then .setCompleted .offCompleted .offAction
      else if light.mState = .onInitiated then .setCompleted .onCompleted .onAction
      else .get⟩
  | .setCompleted state actionCompleted =>
    ⟨{ w with light := { light with mState := state } }, .completedCallback actionCompleted⟩
  | .completedCallback actionCompleted =>
    ⟨if light.mActionCompletedCB then w.actionCompleted actionCompleted else w,
      .testAutoTurnOff actionCompleted⟩
  | .testAutoTurnOff actionCompleted =>
    ⟨w, if light.mAutoTurnOff = true ∧ actionCompleted = .onAction then .startAutoTurnOff else .get⟩
  | .startAutoTurnOff =>
    ⟨w.perform (.osTimerStart .autoTurnOff (light.mAutoTurnOffDuration * 1000)), .armAutoTurnOff⟩
  | .armAutoTurnOff =>
    ⟨{ w with light := { light with mAutoTurnOffTimerArmed := true } }, .get⟩

/-- The other tasks do everything but handle events. -/
def step (linear : UInt16 → ℚ) (s : Interrupted n) : InterruptAct → Option (Interrupted n)
  | .task => some s.next
  | .other .dispatch => none
  | .other act => (s.app.step linear act).map fun app => ⟨app, s.pc⟩

def start (n : ℕ) (buffer : Memory UInt8) (currentLedState : Bool) : Interrupted n :=
  ⟨AppTask.init n buffer currentLedState, .get⟩

/-! ### Left alone, the statements come to the handler -/

section Alone

variable {w : AppTask n} {s t u : Interrupted n} {aActor : Int32} {aAction : Action}

/-- Left alone, the task gets from `s` to `t` within `k` statements. -/
def ReachesWithin (k : ℕ) (s t : Interrupted n) : Prop := ∃ l ≤ k, next^[l] s = t

lemma reachesWithin_next {k : ℕ} (h : ReachesWithin k s.next t) : ReachesWithin (k + 1) s t := by
  obtain ⟨l, hl, rfl⟩ := h
  exact ⟨l + 1, by omega, rfl⟩

lemma reachesWithin_self (k : ℕ) (s : Interrupted n) : ReachesWithin k s s := ⟨0, by omega, rfl⟩

lemma ReachesWithin.mono {k l : ℕ} (h : ReachesWithin k s t) (hkl : k ≤ l) :
    ReachesWithin l s t := by
  obtain ⟨m, hm, hst⟩ := h
  exact ⟨m, by omega, hst⟩

/-- The statements that follow the test, if it accepts ON. -/
lemma initiating_on (w : AppTask n) (h : w.light.AcceptsOn) :
    ReachesWithin 10 ⟨w, .initiating .testAutoTurnOff aActor .onAction .onInitiated⟩
      ⟨w.initiateAction aActor .onAction, .get⟩ := by
  have hcount : 2 * w.light.mOffEffectArmed.toNat + 3 * w.light.mActionInitiatedCB.toNat ≤ 5 := by
    have harmed := Bool.toNat_le w.light.mOffEffectArmed
    have hset := Bool.toNat_le w.light.mActionInitiatedCB
    omega
  refine ⟨5 + (2 * w.light.mOffEffectArmed.toNat + 3 * w.light.mActionInitiatedCB.toNat),
    by omega, ?_⟩
  rw [AppTask.initiateAction, LightingManager.initiateAction_on _ h]
  obtain ⟨⟨state, ci, cc, auto, d, aa, ea⟩, timer, queue, sync, led, strip, scheduled⟩ := w
  cases ci <;> cases aa <;> cases ea <;> rfl

/-- The statements that follow the test, if it accepts OFF. -/
lemma initiating_off (w : AppTask n) (h : w.light.AcceptsOff) :
    ReachesWithin 10 ⟨w, .initiating .testAutoTurnOff aActor .offAction .offInitiated⟩
      ⟨w.initiateAction aActor .offAction, .get⟩ := by
  have hcount :
      2 * w.light.mAutoTurnOffTimerArmed.toNat + 3 * w.light.mActionInitiatedCB.toNat ≤ 5 := by
    have harmed := Bool.toNat_le w.light.mAutoTurnOffTimerArmed
    have hset := Bool.toNat_le w.light.mActionInitiatedCB
    omega
  refine ⟨5 + (2 * w.light.mAutoTurnOffTimerArmed.toNat + 3 * w.light.mActionInitiatedCB.toNat),
    by omega, ?_⟩
  rw [AppTask.initiateAction, LightingManager.initiateAction_off _ h]
  obtain ⟨⟨state, ci, cc, auto, d, aa, ea⟩, timer, queue, sync, led, strip, scheduled⟩ := w
  obtain ⟨-, rfl⟩ : state = .onCompleted ∧ ea = false := h
  cases ci <;> cases aa <;> rfl

lemma newState_on {light : LightingManager} (h : light.AcceptsOn) :
    light.newState .onAction = some .onInitiated := if_pos ⟨h, rfl⟩

lemma newState_off {light : LightingManager} (h : light.AcceptsOff) :
    light.newState .offAction = some .offInitiated := by
  rw [newState, if_neg (by simp), if_pos ⟨h.1, rfl, h.2⟩]

lemma newState_refused {light : LightingManager}
    (h : ¬ (aAction = .onAction ∧ light.AcceptsOn) ∧ ¬ (aAction = .offAction ∧ light.AcceptsOff)) :
    light.newState aAction = none := by
  rw [newState, if_neg fun h' => h.1 ⟨h'.2, h'.1⟩, if_neg fun h' => h.2 ⟨h'.2.1, h'.1, h'.2.2⟩]

/-- `InitiateAction`, left alone. -/
lemma initiateAction_alone (w : AppTask n) (aActor : Int32) (aAction : Action) :
    ReachesWithin 11 ⟨w, .initiateAction aActor aAction⟩
      ⟨w.initiateAction aActor aAction, .get⟩ := by
  apply reachesWithin_next
  by_cases hon : aAction = .onAction ∧ w.light.AcceptsOn
  · obtain ⟨rfl, hon⟩ := hon
    simp only [next, newState_on hon]
    exact initiating_on w hon
  · by_cases hoff : aAction = .offAction ∧ w.light.AcceptsOff
    · obtain ⟨rfl, hoff⟩ := hoff
      simp only [next, newState_off hoff]
      exact initiating_off w hoff
    · simp only [next, newState_refused ⟨hon, hoff⟩, w.initiateAction_refused ⟨hon, hoff⟩]
      exact reachesWithin_self 10 _

lemma actuatorMovement_alone (w : AppTask n) :
    ReachesWithin 6 ⟨w, .actuatorMovementTimerEventHandler⟩
      ⟨w.absorb w.light.actuatorMovementTimerEventHandler, .get⟩ := by
  obtain ⟨⟨state, ci, cc, auto, d, aa, ea⟩, timer, queue, sync, led, strip, scheduled⟩ := w
  cases state with
  | offCompleted => exact ⟨1, by omega, rfl⟩
  | onCompleted => exact ⟨1, by omega, rfl⟩
  | offInitiated => exact ⟨4, by omega, by cases cc <;> cases sync <;> cases auto <;> rfl⟩
  | onInitiated =>
    cases auto with
    | false => exact ⟨4, by omega, by cases cc <;> cases sync <;> rfl⟩
    | true => exact ⟨6, by omega, by cases cc <;> cases sync <;> rfl⟩

lemma autoTurnOff_alone (w : AppTask n) :
    ReachesWithin 13 ⟨w, .autoTurnOffTimerEventHandler⟩
      ⟨w.absorb w.light.autoTurnOffTimerEventHandler, .get⟩ := by
  apply reachesWithin_next
  cases harmed : w.light.mAutoTurnOffTimerArmed with
  | false =>
    simp only [next, harmed, if_true, LightingManager.autoTurnOffTimerEventHandler]
    exact reachesWithin_self 12 _
  | true =>
    simp only [next, harmed, Bool.true_eq_false, if_false,
      LightingManager.autoTurnOffTimerEventHandler]
    exact reachesWithin_next (initiateAction_alone { w with light := _ } kEventTypeTimer .offAction)

lemma offEffect_alone (w : AppTask n) :
    ReachesWithin 13 ⟨w, .offEffectTimerEventHandler⟩
      ⟨w.absorb w.light.offEffectTimerEventHandler, .get⟩ := by
  apply reachesWithin_next
  cases harmed : w.light.mOffEffectArmed with
  | false =>
    simp only [next, harmed, if_true, LightingManager.offEffectTimerEventHandler]
    exact reachesWithin_self 12 _
  | true =>
    simp only [next, harmed, Bool.true_eq_false, if_false,
      LightingManager.offEffectTimerEventHandler]
    exact reachesWithin_next (initiateAction_alone { w with light := _ } kEventTypeTimer .offAction)

/-- **Left alone, the statements of a handler come to the handler.** Without another task in
between, the application task that finds an event in its queue is back at it within 14 statements,
and has done what `dispatchEvent` does at once. The starts of the timer are taken to succeed. -/
theorem handles_alone (w : AppTask n) (event : AppEvent) (queue : List AppEvent)
    (hq : w.queue = event :: queue) :
    ReachesWithin 14 ⟨w, .get⟩ ⟨{ w with queue := queue }.dispatchEvent event, .get⟩ := by
  apply reachesWithin_next
  simp only [next, hq]
  generalize { w with queue := queue } = w
  cases event with
  | timerEvent handler =>
    cases handler with
    | autoTurnOffTimerEventHandler => exact autoTurnOff_alone w
    | offEffectTimerEventHandler => exact offEffect_alone w
    | actuatorMovementTimerEventHandler => exact (actuatorMovement_alone w).mono (by omega)
  | buttonEvent =>
    apply reachesWithin_next
    exact (initiateAction_alone w kEventTypeButton w.buttonAction).mono (by omega)
  | lightEvent action actor => exact (initiateAction_alone w actor action).mono (by omega)

/-- The light is off, and its button has been pressed. -/
theorem handles_alone_button :
    ∃ (w : AppTask 1) (t : Interrupted 1), w.queue = [.buttonEvent] ∧
      ReachesWithin 14 ⟨w, .get⟩ t ∧ t.pc = .get ∧ t.app.light.mState = .onInitiated ∧
      t.app.sLightLED = true :=
  ⟨{ AppTask.init 1 (fun _ => 0) false with queue := [.buttonEvent] }, _, rfl,
    handles_alone _ .buttonEvent [] rfl, rfl, rfl, rfl⟩

end Alone

end Interrupted

end MatterStrip
