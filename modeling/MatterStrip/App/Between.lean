import MatterStrip.App.Device
import MatterStrip.App.Interrupted

/-!
The LED and the strip follow the light, wherever the application task is preempted.

Between the test of `InitiateAction` and its assignment to `mState` other tasks may act freely: what
they do is overwritten as a whole. From the assignment to the end of `ActionInitiated`, and between
the test and the assignment of `ActuatorMovementTimerEventHandler`, an action is in progress, and
nothing can be accepted but a write of On that cancels an off effect. That such a write does not
fall there, where the task turns the light off (`Orderly`), is just what it takes (`agrees_iff`).
-/

namespace MatterStrip

open Lib LightingManager

/-- `mState` is assigned, and the LED and the strip are not yet both switched. -/
def TaskPc.inCallback : TaskPc → Bool
  | .initiating .testCallback _ _ _ => true
  | .initiating .setLed _ _ _ => true
  | .initiating .turnOnOff _ _ _ => true
  | _ => false

/-- The statements between which no other task may turn the light on. -/
def TaskPc.critical (pc : TaskPc) : Bool :=
  pc.inCallback || match pc with
    | .setCompleted _ _ => true
    | _ => false

namespace Interrupted

variable {n : ℕ}

/-! ### What another task can do in between -/

section Other

variable {linear : UInt16 → ℚ} {w w' : AppTask n} {act : AppAct}

/-- The LED and the strip show the state of the light. -/
def Agrees (w : AppTask n) : Prop :=
  w.sLightLED = w.light.mState.isOn ∧ w.strip.ctl.turnedOn = w.light.mState.isOn

/-- The state of the light, the LED and whether the strip is on are left alone. -/
structure Leaves (w w' : AppTask n) : Prop where
  state : w'.light.mState = w.light.mState
  led : w'.sLightLED = w.sLightLED
  strip : w'.strip.ctl.turnedOn = w.strip.ctl.turnedOn

/-- The OnOff attribute is written On. -/
def WritesOn (act : AppAct) : Prop :=
  ∃ value, act = .attributeChange onOffId onOffAttributeId value ∧ value 0 ≠ 0

/-- The light is switched, and the LED and the strip with it. -/
structure Switched (on : Bool) (w' : AppTask n) : Prop where
  state : w'.light.mState = if on then .onInitiated else .offInitiated
  led : w'.sLightLED = on
  strip : w'.strip.ctl.turnedOn = on

/-- What another task can do: leave the three alone, or switch them on or off. -/
inductive Meanwhile (w : AppTask n) (act : AppAct) (w' : AppTask n) : Prop
  | leaves : Leaves w w' → Meanwhile w act w'
  | on : WritesOn act → w.light.AcceptsOn → Switched true w' → Meanwhile w act w'
  | off : w.light.AcceptsOff → Switched false w' → Meanwhile w act w'

lemma Switched.agrees {on : Bool} (h : Switched on w') : Agrees w' := by
  cases on with
  | false => exact ⟨by rw [h.led, h.state]; rfl, by rw [h.strip, h.state]; rfl⟩
  | true => exact ⟨by rw [h.led, h.state]; rfl, by rw [h.strip, h.state]; rfl⟩

lemma acts_set {aActor : Int32} {aAction : Action} (h : w.Acts aActor aAction w')
    (hset : CallbacksSet w.light) : CallbacksSet w'.light := by
  cases h with
  | on _ => exact ⟨hset.initiated, hset.completed⟩
  | off _ => exact ⟨hset.initiated, hset.completed⟩
  | refused _ _ => exact hset

/-- A write of the OnOff attribute initiates the action that it asks for. -/
lemma step_onOff {value : Memory UInt8} (hset : CallbacksSet w.light)
    (h : w.step linear (.attributeChange onOffId onOffAttributeId value) = some w') :
    w.Acts kEventTypeLight (if value 0 ≠ 0 then .onAction else .offAction) w' := by
  obtain rfl := Option.some.inj h
  exact w.acts_initiateAction hset kEventTypeLight (if value 0 ≠ 0 then .onAction else .offAction)

/-- A write of On that can be accepted is. -/
lemma switched_of_writesOn (hset : CallbacksSet w.light) (hwrites : WritesOn act)
    (haccepts : w.light.AcceptsOn) (h : w.step linear act = some w') : Switched true w' := by
  obtain ⟨value, rfl, hvalue⟩ := hwrites
  have hacts := step_onOff hset h
  rw [if_pos hvalue] at hacts
  cases hacts with
  | on _ => exact ⟨rfl, rfl, StripController.turnOnOff_turnedOn _⟩
  | refused hon _ => exact absurd ⟨rfl, haccepts⟩ hon

/-- **Everything that another task can do.** -/
theorem meanwhile_of_step (hset : CallbacksSet w.light) (hact : act ≠ .dispatch)
    (h : w.step linear act = some w') : CallbacksSet w'.light ∧ Meanwhile w act w' := by
  cases act with
  | attributeChange clusterId attributeId value =>
    by_cases honoff : clusterId = onOffId ∧ attributeId = onOffAttributeId
    · obtain ⟨rfl, rfl⟩ := honoff
      have hacts := step_onOff hset h
      refine ⟨acts_set hacts hset, ?_⟩
      by_cases hvalue : value 0 ≠ 0
      · rw [if_pos hvalue] at hacts
        cases hacts with
        | on hon =>
          exact .on ⟨value, rfl, hvalue⟩ hon ⟨rfl, rfl, StripController.turnOnOff_turnedOn _⟩
        | refused _ _ => exact .leaves ⟨rfl, rfl, rfl⟩
      · rw [if_neg hvalue] at hacts
        cases hacts with
        | off hoff => exact .off hoff ⟨rfl, rfl, StripController.turnOnOff_turnedOn _⟩
        | refused _ _ => exact .leaves ⟨rfl, rfl, rfl⟩
    · obtain rfl := Option.some.inj h
      rw [AppTask.attributeChange_eq w honoff]
      refine ⟨hset, .leaves ⟨rfl, rfl, ?_⟩⟩
      rcases attributeOps_cases clusterId attributeId value with hops | ⟨op, hops, hop⟩
      · rw [hops]
        rfl
      · rw [hops]
        exact AppTask.turnedOn_call linear hop
  | lightButton =>
    obtain rfl := Option.some.inj h
    exact ⟨hset, .leaves ⟨rfl, rfl, rfl⟩⟩
  | onTriggerOffWithEffect effect =>
    obtain rfl := Option.some.inj h
    exact ⟨⟨hset.initiated, hset.completed⟩, .leaves ⟨rfl, rfl, rfl⟩⟩
  | enableAutoTurnOff aOn =>
    obtain rfl := Option.some.inj h
    exact ⟨⟨hset.initiated, hset.completed⟩, .leaves ⟨rfl, rfl, rfl⟩⟩
  | setAutoTurnOffDuration d =>
    obtain rfl := Option.some.inj h
    exact ⟨⟨hset.initiated, hset.completed⟩, .leaves ⟨rfl, rfl, rfl⟩⟩
  | expire =>
    obtain ⟨purpose, -, rfl⟩ := Option.map_eq_some_iff.1 h
    exact ⟨hset, .leaves ⟨rfl, rfl, rfl⟩⟩
  | dispatch => exact absurd rfl hact
  | stripHandler =>
    obtain rfl := Option.some.inj h
    refine ⟨hset, .leaves ⟨rfl, rfl, ?_⟩⟩
    show w.strip.handlerIteration.ctl.turnedOn = w.strip.ctl.turnedOn
    rw [(Strip.handlerIteration_eq w.strip).1]
    exact StripController.verifyLevel_turnedOn

end Other

/-! ### The LED, the strip and the light -/

/-- The states that the test of `InitiateAction` chooses. -/
def Initiates (aAction : Action) (newState : LightState) : Prop :=
  aAction = .onAction ∧ newState = .onInitiated ∨ aAction = .offAction ∧ newState = .offInitiated

/-- What the statements that are left rely on. -/
def Promise (w : AppTask n) : TaskPc → Prop
  | .initiating .testCallback _ aAction newState =>
    Initiates aAction newState ∧ w.light.mState = newState
  | .initiating .setLed _ aAction newState =>
    Initiates aAction newState ∧ w.light.mState = newState
  | .initiating .turnOnOff _ aAction newState =>
    Initiates aAction newState ∧ w.light.mState = newState ∧ w.sLightLED = newState.isOn
  | .initiating _ _ aAction newState => Initiates aAction newState ∧ Agrees w
  | .setCompleted state _ =>
    w.light.isActionInProgress = true ∧ state = w.light.mState.completed ∧ Agrees w
  | _ => Agrees w

section Kept

variable {linear : UInt16 → ℚ} {w w' : AppTask n} {pc : TaskPc} {s t : Interrupted n}
  {a : InterruptAct}

lemma Leaves.agrees (h : Leaves w w') (hw : Agrees w) : Agrees w' :=
  ⟨by rw [h.led, h.state, hw.1], by rw [h.strip, h.state, hw.2]⟩

lemma Promise.leaves (h : Promise w pc) (hw : Leaves w w') : Promise w' pc := by
  have hprogress : w'.light.isActionInProgress = w.light.isActionInProgress := by
    simp only [isActionInProgress, hw.state]
  cases pc with
  | initiating pc aActor aAction newState =>
    cases pc with
    | testCallback => exact ⟨h.1, hw.state.trans h.2⟩
    | setLed => exact ⟨h.1, hw.state.trans h.2⟩
    | turnOnOff => exact ⟨h.1, hw.state.trans h.2.1, hw.led.trans h.2.2⟩
    | _ => exact ⟨h.1, hw.agrees h.2⟩
  | setCompleted state actionCompleted =>
    exact ⟨hprogress.trans h.1, by rw [hw.state, h.2.1], hw.agrees h.2.2⟩
  | _ => exact hw.agrees h

/-- Outside the callback the promise is at least that the three agree, -/
lemma Promise.agrees (h : Promise w pc) (hpc : pc.inCallback = false) : Agrees w := by
  cases pc with
  | initiating pc aActor aAction newState =>
    cases pc with
    | testCallback => cases hpc
    | setLed => cases hpc
    | turnOnOff => cases hpc
    | _ => exact h.2
  | setCompleted state actionCompleted => exact h.2.2
  | _ => exact h

/-- and outside the critical statements no more, but for the action. -/
lemma Promise.of_agrees (h : Promise w pc) (hpc : pc.critical = false) (hw : Agrees w') :
    Promise w' pc := by
  cases pc with
  | initiating pc aActor aAction newState =>
    cases pc with
    | testCallback => cases hpc
    | setLed => cases hpc
    | turnOnOff => cases hpc
    | _ => exact ⟨h.1, hw⟩
  | setCompleted state actionCompleted => cases hpc
  | _ => exact hw

lemma Initiates.inProgress {aAction : Action} {newState : LightState}
    (h : Initiates aAction newState) (hw : w.light.mState = newState) :
    w.light.isActionInProgress = true := by
  rcases h with ⟨-, rfl⟩ | ⟨-, rfl⟩ <;> simp [isActionInProgress, hw]

/-- Where the task is turning the light on, another that does so too does no harm. -/
lemma Promise.switched (h : Promise w pc) (hpc : pc.critical = true)
    (hstate : w.light.mState = .onInitiated) (hw : Switched true w') : Promise w' pc := by
  have hsame : w'.light.mState = w.light.mState := hw.state.trans hstate.symm
  cases pc with
  | initiating pc aActor aAction newState =>
    cases pc with
    | testCallback => exact ⟨h.1, hsame.trans h.2⟩
    | setLed => exact ⟨h.1, hsame.trans h.2⟩
    | turnOnOff =>
      refine ⟨h.1, hsame.trans h.2.1, hw.led.trans ?_⟩
      rw [← h.2.1, hstate]
      rfl
    | _ => cases hpc
  | setCompleted state actionCompleted =>
    refine ⟨?_, by rw [hsame, h.2.1], hw.agrees⟩
    simp [isActionInProgress, hw.state]
  | _ => cases hpc

/-- At the critical statements an action is in progress. -/
lemma Promise.inProgress (h : Promise w pc) (hpc : pc.critical = true) :
    w.light.isActionInProgress = true := by
  cases pc with
  | initiating pc aActor aAction newState =>
    cases pc with
    | testCallback => exact h.1.inProgress h.2
    | setLed => exact h.1.inProgress h.2
    | turnOnOff => exact h.1.inProgress h.2.1
    | _ => cases hpc
  | setCompleted state actionCompleted => exact h.1
  | _ => cases hpc

/-- What holds at every statement. -/
structure Kept (s : Interrupted n) : Prop where
  set : CallbacksSet s.app.light
  promise : Promise s.app s.pc

/-- The condition on a step: while the task is at a critical statement of turning the light off, no
other task writes the OnOff attribute On if an off effect is armed. -/
def Orderly (s : Interrupted n) (a : InterruptAct) : Prop :=
  s.pc.critical = true → s.app.light.mState = .offInitiated → s.app.light.mOffEffectArmed = true →
    ∀ act, a = .other act → ¬ WritesOn act

/-- The action tells the state that it leads to. -/
lemma Initiates.isOn {aAction : Action} {newState : LightState} (h : Initiates aAction newState) :
    newState.isOn = decide (aAction = .onAction) := by
  rcases h with ⟨rfl, rfl⟩ | ⟨rfl, rfl⟩ <;> rfl

lemma initiates_newState {light : LightingManager} {aAction : Action} {newState : LightState}
    (h : light.newState aAction = some newState) : Initiates aAction newState := by
  unfold LightingManager.newState at h
  split_ifs at h with hon hoff
  · exact Or.inl ⟨hon.2, (Option.some.inj h).symm⟩
  · exact Or.inr ⟨hoff.2.1, (Option.some.inj h).symm⟩

lemma Kept.initiating {actionPc : ActionPc} {aActor : Int32} {aAction : Action}
    {newState : LightState} (h : Kept ⟨w, .initiating actionPc aActor aAction newState⟩) :
    Kept (next ⟨w, .initiating actionPc aActor aAction newState⟩) := by
  obtain ⟨hset, hpromise⟩ := h
  have hset' : ∀ light : LightingManager, light.mActionInitiatedCB = w.light.mActionInitiatedCB →
      light.mActionCompletedCB = w.light.mActionCompletedCB → CallbacksSet light :=
    fun light hci hcc => ⟨hci.trans hset.initiated, hcc.trans hset.completed⟩
  cases actionPc with
  | testAutoTurnOff =>
    simp only [next, initiatingNext, Option.elim_some]
    split_ifs
    · exact ⟨hset, hpromise⟩
    · exact ⟨hset, hpromise⟩
  | clearAutoTurnOff => exact ⟨hset' _ rfl rfl, hpromise⟩
  | cancelAutoTurnOff => exact ⟨hset, hpromise⟩
  | testOffEffect =>
    simp only [next, initiatingNext, Option.elim_some]
    split_ifs
    · exact ⟨hset, hpromise⟩
    · exact ⟨hset, hpromise⟩
  | cancelOffEffect => exact ⟨hset, hpromise⟩
  | clearOffEffect => exact ⟨hset' _ rfl rfl, hpromise⟩
  | startTimer => exact ⟨hset, hpromise⟩
  | setState => exact ⟨hset' _ rfl rfl, hpromise.1, rfl⟩
  | testCallback =>
    have hcb : w.light.mActionInitiatedCB = true := hset.initiated
    simp only [next, initiatingNext, hcb, if_true, Option.elim_some]
    exact ⟨hset, hpromise⟩
  | setLed => exact ⟨hset, hpromise.1, hpromise.2, hpromise.1.isOn.symm⟩
  | turnOnOff =>
    obtain ⟨hinitiates, hstate, hled⟩ := hpromise
    have hturned : (w.strip.ctl.turnOnOff (aAction = .onAction)).turnedOn = newState.isOn := by
      rw [StripController.turnOnOff_turnedOn, hinitiates.isOn]
    exact ⟨hset, hinitiates, hled.trans (congrArg LightState.isOn hstate.symm),
      hturned.trans (congrArg LightState.isOn hstate.symm)⟩
  | setSync => exact ⟨hset, hpromise.2⟩

/-- **A statement of the task keeps the promise.** -/
theorem Kept.next (h : Kept s) : Kept s.next := by
  obtain ⟨w, pc⟩ := s
  cases pc with
  | initiating pc aActor aAction newState => exact h.initiating
  | get =>
    obtain ⟨hset, hpromise⟩ := h
    unfold Interrupted.next
    cases hq : w.queue with
    | nil =>
      simp only [hq]
      exact ⟨hset, hpromise⟩
    | cons event queue =>
      simp only [hq]
      refine ⟨hset, ?_⟩
      cases event with
      | timerEvent handler => cases handler <;> exact hpromise
      | buttonEvent => exact hpromise
      | lightEvent action actor => exact hpromise
  | lightActionEventHandler => exact ⟨h.set, h.promise⟩
  | initiateAction aActor aAction =>
    unfold Interrupted.next
    cases hnew : w.light.newState aAction with
    | none =>
      simp only [hnew]
      exact ⟨h.set, h.promise⟩
    | some newState =>
      simp only [hnew]
      exact ⟨h.set, initiates_newState hnew, h.promise⟩
  | autoTurnOffTimerEventHandler =>
    simp only [Interrupted.next]
    split_ifs <;> exact ⟨h.set, h.promise⟩
  | clearAutoTurnOffTimerArmed => exact ⟨⟨h.set.initiated, h.set.completed⟩, h.promise⟩
  | offEffectTimerEventHandler =>
    simp only [Interrupted.next]
    split_ifs <;> exact ⟨h.set, h.promise⟩
  | clearOffEffectArmed => exact ⟨⟨h.set.initiated, h.set.completed⟩, h.promise⟩
  | actuatorMovementTimerEventHandler =>
    simp only [Interrupted.next]
    split_ifs with hoff hon
    · exact ⟨h.set, by simp [isActionInProgress, hoff], by rw [hoff]; rfl, h.promise⟩
    · exact ⟨h.set, by simp [isActionInProgress, hon], by rw [hon]; rfl, h.promise⟩
    · exact ⟨h.set, h.promise⟩
  | setCompleted state actionCompleted =>
    obtain ⟨hset, -, hstate, hled, hturned⟩ := h
    have hon : state.isOn = w.light.mState.isOn := by
      rw [hstate]
      exact LightState.isOn_completed _
    exact ⟨⟨hset.initiated, hset.completed⟩, hled.trans hon.symm, hturned.trans hon.symm⟩
  | completedCallback actionCompleted =>
    have hcb : w.light.mActionCompletedCB = true := h.set.completed
    simp only [Interrupted.next, hcb, if_true, AppTask.actionCompleted]
    cases hsync : w.mSyncClusterToButtonAction with
    | false => exact ⟨h.set, h.promise⟩
    | true => exact ⟨h.set, h.promise⟩
  | testAutoTurnOff actionCompleted =>
    simp only [Interrupted.next]
    split_ifs <;> exact ⟨h.set, h.promise⟩
  | startAutoTurnOff => exact ⟨h.set, h.promise⟩
  | armAutoTurnOff => exact ⟨⟨h.set.initiated, h.set.completed⟩, h.promise⟩

lemma exists_of_other {act : AppAct} (hact : act ≠ .dispatch)
    (h : s.step linear (.other act) = some t) :
    ∃ w, s.app.step linear act = some w ∧ (⟨w, s.pc⟩ : Interrupted n) = t := by
  cases act with
  | dispatch => exact absurd rfl hact
  | _ => exact Option.map_eq_some_iff.1 h

/-- **Another task in between keeps the promise**, if it is orderly. -/
theorem Kept.step (h : Kept s) (hok : Orderly s a) (hstep : s.step linear a = some t) : Kept t := by
  cases a with
  | task =>
    obtain rfl := Option.some.inj hstep
    exact h.next
  | other act =>
    by_cases hact : act = .dispatch
    · subst hact
      cases hstep
    · obtain ⟨w', hw', rfl⟩ := exists_of_other hact hstep
      obtain ⟨hset, hmeanwhile⟩ := meanwhile_of_step h.set hact hw'
      refine ⟨hset, ?_⟩
      have hprogress : s.pc.critical = true → s.app.light.isActionInProgress = true :=
        h.promise.inProgress
      -- at a critical statement an action is accepted only through an armed off effect
      cases hmeanwhile with
      | leaves hleaves => exact h.promise.leaves hleaves
      | on hwrites hon hswitched =>
        cases hpc : s.pc.critical with
        | false => exact h.promise.of_agrees hpc hswitched.agrees
        | true =>
          cases hstate : s.app.light.mState with
          | onInitiated => exact h.promise.switched hpc hstate hswitched
          | offInitiated =>
            have harmed : s.app.light.mOffEffectArmed = true := hon.resolve_left (by simp [hstate])
            exact absurd hwrites (hok hpc hstate harmed act rfl)
          | offCompleted => simp [isActionInProgress, hstate, hpc] at hprogress
          | onCompleted => simp [isActionInProgress, hstate, hpc] at hprogress
      | off hoff hswitched =>
        cases hpc : s.pc.critical with
        | false => exact h.promise.of_agrees hpc hswitched.agrees
        | true => simp [isActionInProgress, hoff.1, hpc] at hprogress

end Kept

/-! ### Where the condition is broken -/

section Broken

variable {linear : UInt16 → ℚ} {w w' : AppTask n} {pc : TaskPc} {s t : Interrupted n}
  {a : InterruptAct}

/-- The light is turning on, and the task is about to switch something off. -/
def Doomed (w : AppTask n) : TaskPc → Prop
  | .initiating .testCallback _ aAction _ => aAction = .offAction ∧ w.light.mState = .onInitiated
  | .initiating .setLed _ aAction _ => aAction = .offAction ∧ w.light.mState = .onInitiated
  | .initiating .turnOnOff _ aAction _ => aAction = .offAction ∧ w.light.mState = .onInitiated
  | .setCompleted state _ =>
    state = .offCompleted ∧ w.light.mState = .onInitiated ∧ w.sLightLED = true
  | _ => False

structure Broken (s : Interrupted n) : Prop where
  set : CallbacksSet s.app.light
  doomed : Doomed s.app s.pc

lemma Doomed.critical (h : Doomed w pc) : pc.critical = true := by
  cases pc with
  | initiating pc aActor aAction newState =>
    cases pc with
    | testCallback => rfl
    | setLed => rfl
    | turnOnOff => rfl
    | _ => exact absurd h id
  | setCompleted state actionCompleted => rfl
  | _ => exact absurd h id

lemma Doomed.state (h : Doomed w pc) : w.light.mState = .onInitiated := by
  cases pc with
  | initiating pc aActor aAction newState =>
    cases pc with
    | testCallback => exact h.2
    | setLed => exact h.2
    | turnOnOff => exact h.2
    | _ => exact absurd h id
  | setCompleted state actionCompleted => exact h.2.1
  | _ => exact absurd h id

/-- What is doomed stays so as long as the light is turning on and the LED is not switched off. -/
lemma Doomed.of_state (h : Doomed w pc) (hstate : w'.light.mState = .onInitiated)
    (hled : w.sLightLED = true → w'.sLightLED = true) : Doomed w' pc := by
  cases pc with
  | initiating pc aActor aAction newState =>
    cases pc with
    | testCallback => exact ⟨h.1, hstate⟩
    | setLed => exact ⟨h.1, hstate⟩
    | turnOnOff => exact ⟨h.1, hstate⟩
    | _ => exact absurd h id
  | setCompleted state actionCompleted => exact ⟨h.1, hstate, hled h.2.2⟩
  | _ => exact absurd h id

/-- A write of On that is not orderly dooms the action of the task. -/
lemma Promise.doomed (h : Promise w pc) (hpc : pc.critical = true)
    (hstate : w.light.mState = .offInitiated) (hw : Switched true w') : Doomed w' pc := by
  have hoff : ∀ {aAction : Action} {newState : LightState}, Initiates aAction newState →
      w.light.mState = newState → aAction = .offAction := by
    rintro aAction newState (⟨-, rfl⟩ | ⟨rfl, -⟩) hsame
    · rw [hstate] at hsame
      cases hsame
    · rfl
  cases pc with
  | initiating pc aActor aAction newState =>
    cases pc with
    | testCallback => exact ⟨hoff h.1 h.2, hw.state⟩
    | setLed => exact ⟨hoff h.1 h.2, hw.state⟩
    | turnOnOff => exact ⟨hoff h.1 h.2.1, hw.state⟩
    | _ => cases hpc
  | setCompleted state actionCompleted =>
    refine ⟨?_, hw.state, hw.led⟩
    rw [h.2.1, hstate]
    rfl
  | _ => cases hpc

lemma Kept.broken (h : Kept s) (hok : ¬ Orderly s a) (hstep : s.step linear a = some t) :
    Broken t := by
  simp only [Orderly, not_forall, not_not] at hok
  obtain ⟨hpc, hstate, harmed, act, rfl, hwrites⟩ := hok
  have hact : act ≠ .dispatch := by
    rintro rfl
    obtain ⟨value, hvalue, -⟩ := hwrites
    cases hvalue
  obtain ⟨w', hw', rfl⟩ := exists_of_other hact hstep
  exact ⟨(meanwhile_of_step h.set hact hw').1,
    h.promise.doomed hpc hstate (switched_of_writesOn h.set hwrites (Or.inr harmed) hw')⟩

/-- No other task can make up for it, -/
lemma Broken.other {act : AppAct} (h : Broken s) (hstep : s.step linear (.other act) = some t) :
    Broken t := by
  by_cases hact : act = .dispatch
  · subst hact
    cases hstep
  · obtain ⟨w', hw', rfl⟩ := exists_of_other hact hstep
    obtain ⟨hset, hmeanwhile⟩ := meanwhile_of_step h.set hact hw'
    refine ⟨hset, ?_⟩
    cases hmeanwhile with
    | leaves hleaves =>
      exact h.doomed.of_state (hleaves.state.trans h.doomed.state)
        fun hled => hleaves.led.trans hled
    | on _ _ hswitched => exact h.doomed.of_state hswitched.state fun _ => hswitched.led
    | off hoff _ =>
      have hstate := h.doomed.state
      rw [hoff.1] at hstate
      cases hstate

/-- and the task carries it to the end of its section. -/
lemma Broken.next (h : Broken s) :
    Broken s.next ∨ s.next.pc.inCallback = false ∧ ¬ Agrees s.next.app := by
  obtain ⟨w, pc⟩ := s
  obtain ⟨hset, hdoomed⟩ := h
  cases pc with
  | initiating pc aActor aAction newState =>
    cases pc with
    | testCallback =>
      have hcb : w.light.mActionInitiatedCB = true := hset.initiated
      simp only [Interrupted.next, initiatingNext, hcb, if_true, Option.elim_some]
      exact Or.inl ⟨hset, hdoomed⟩
    | setLed => exact Or.inl ⟨hset, hdoomed⟩
    | turnOnOff =>
      obtain ⟨rfl, hstate⟩ := hdoomed
      refine Or.inr ⟨rfl, fun hagrees => ?_⟩
      have hturned : (w.strip.ctl.turnOnOff false).turnedOn = w.light.mState.isOn := hagrees.2
      rw [StripController.turnOnOff_turnedOn, hstate] at hturned
      cases hturned
    | _ => exact absurd hdoomed id
  | setCompleted state actionCompleted =>
    obtain ⟨rfl, -, hled⟩ := hdoomed
    refine Or.inr ⟨rfl, fun hagrees => ?_⟩
    have hled' : w.sLightLED = false := hagrees.1
    rw [hled] at hled'
    cases hled'
  | _ => exact absurd hdoomed id

end Broken

section Agreement

variable {linear : UInt16 → ℚ} {buffer : Memory UInt8} {currentLedState : Bool}
  {log : List (Interrupted n × InterruptAct)} {t : Interrupted n}

lemma kept_start (n : ℕ) (buffer : Memory UInt8) (currentLedState : Bool) :
    Kept (start n buffer currentLedState) := by
  refine ⟨⟨rfl, rfl⟩, ?_⟩
  cases currentLedState <;> exact ⟨rfl, rfl⟩

/-- A run that agrees outside of the callback has been orderly, or is about to show that it has
not. -/
lemma orderly_or_broken (hrun : Run (step linear) (start n buffer currentLedState) log t)
    (hagrees : Always (fun s => s.pc.inCallback = false → Agrees s.app) log t) :
    Meets Orderly log ∧ Kept t ∨ Broken t := by
  revert hagrees
  refine Run.history
    (J := fun log t => Always (fun s => s.pc.inCallback = false → Agrees s.app) log t →
      Meets Orderly log ∧ Kept t ∨ Broken t) ?_ ?_ hrun
  · exact fun _ => Or.inl ⟨meets_nil, kept_start n buffer currentLedState⟩
  · intro log s a u ih hstep hagrees
    rw [always_snoc] at hagrees
    rcases ih hagrees.1 with ⟨hmeets, hkept⟩ | hbroken
    · by_cases hok : Orderly s a
      · exact Or.inl ⟨meets_snoc.2 ⟨hmeets, hok⟩, hkept.step hok hstep⟩
      · exact Or.inr (hkept.broken hok hstep)
    · cases a with
      | task =>
        obtain rfl := Option.some.inj hstep
        rcases hbroken.next with hnext | ⟨hpc, hnot⟩
        · exact Or.inr hnext
        · exact absurd (hagrees.2 hpc) hnot
      | other act => exact Or.inr (hbroken.other hstep)

/-- **When the LED and the strip follow the light, preempted or not.** In a run that does not end in
the middle of a critical section, they are switched as the light is at every statement outside of
`ActionInitiated` if and only if, with an off effect armed, no write of On falls between the
assignment of `mState` and the end of `ActionInitiated`, or between the test and the assignment of
the actuator handler, while the task is turning the light off. -/
theorem agrees_iff (linear : UInt16 → ℚ) (n : ℕ) (buffer : Memory UInt8) (currentLedState : Bool)
    (log : List (Interrupted n × InterruptAct)) (t : Interrupted n)
    (hrun : Run (step linear) (start n buffer currentLedState) log t)
    (hpc : t.pc.critical = false) :
    Always (fun s => s.pc.inCallback = false → s.app.sLightLED = s.app.light.mState.isOn ∧
      s.app.strip.ctl.turnedOn = s.app.light.mState.isOn) log t ↔ Meets Orderly log := by
  constructor
  · intro hagrees
    rcases orderly_or_broken hrun hagrees with ⟨hmeets, -⟩ | hbroken
    · exact hmeets
    · rw [hbroken.doomed.critical] at hpc
      cases hpc
  · intro hok
    have hkept : Always Kept log t := hrun.guarded (kept_start n buffer currentLedState)
      (fun _ _ _ h hok hstep => h.step hok hstep) hok
    exact hkept.imp fun s h => h.promise.agrees

/-- On is written with an off effect armed, when the task has assigned `mState` for the button: the
task switches the LED and the strip off after the network has switched them on. -/
theorem agrees_iff_race :
    ∃ (log : List (Interrupted 1 × InterruptAct)) (t : Interrupted 1),
      Run (step linearExact) (start 1 (fun _ => 0) true) log t ∧
      log.map Prod.snd = [.other .lightButton] ++ List.replicate 7 .task ++
        [.other (.onTriggerOffWithEffect ⟨0, 0⟩),
          .other (.attributeChange onOffId onOffAttributeId fun _ => 1)] ++
        List.replicate 4 .task ∧
      t.pc = .get ∧ t.app.light.mState = .onInitiated ∧ t.app.sLightLED = false ∧
      ¬ Meets Orderly log := by
  obtain ⟨t, ht, hpc, hstate, hled⟩ : ∃ t, exec (step linearExact) (start 1 (fun _ => 0) true)
      ([.other .lightButton] ++ List.replicate 7 .task ++
        [.other (.onTriggerOffWithEffect ⟨0, 0⟩),
          .other (.attributeChange onOffId onOffAttributeId fun _ => 1)] ++
        List.replicate 4 .task) = some t ∧
      t.pc = .get ∧ t.app.light.mState = .onInitiated ∧ t.app.sLightLED = false :=
    ⟨_, rfl, rfl, rfl, rfl⟩
  have hiff := agrees_iff linearExact 1 (fun _ => 0) true _ t (run_execLog ht) (by rw [hpc]; rfl)
  refine ⟨_, t, run_execLog ht, map_snd_execLog ht, hpc, hstate, hled, fun hok => ?_⟩
  obtain ⟨hled', -⟩ := (hiff.2 hok).2 (by rw [hpc]; rfl)
  rw [hled, hstate] at hled'
  cases hled'

end Agreement

end Interrupted

end MatterStrip
