import MatterStrip.App.Agreement

/-!
Everything that a step of the node can do, listed once.

`step_move` is the inversion of `Node.step` in the states that runs reach: the functions of the light
are expanded there and nowhere after it, and what holds of every step is read off the list (`Move`).
-/

namespace MatterStrip

open Lib LightingManager

variable {n : ℕ}

/-- `Acts w aActor aAction w'`: what `InitiateAction` makes of the application. -/
inductive AppTask.Acts (w : AppTask n) (aActor : Int32) : Action → AppTask n → Prop
  | on : w.light.AcceptsOn → Acts w aActor .onAction
      ({ w with light := { w.light with mState := .onInitiated, mOffEffectArmed := false }
                timer := some .actuatorMovement }.actionInitiated .onAction aActor)
  | off : w.light.AcceptsOff → Acts w aActor .offAction
      ({ w with light := { w.light with mState := .offInitiated, mAutoTurnOffTimerArmed := false }
                timer := some .actuatorMovement }.actionInitiated .offAction aActor)
  | refused {aAction : Action} : ¬ (aAction = .onAction ∧ w.light.AcceptsOn) →
      ¬ (aAction = .offAction ∧ w.light.AcceptsOff) → Acts w aActor aAction w

lemma AppTask.acts_initiateAction (w : AppTask n) (hset : CallbacksSet w.light) (aActor : Int32)
    (aAction : Action) : w.Acts aActor aAction (w.initiateAction aActor aAction) := by
  rcases w.initiateAction_cases hset aActor aAction with
    ⟨rfl, hon, hr⟩ | ⟨rfl, hoff, hr⟩ | ⟨hon, hoff, hr⟩
  · rw [hr]
    exact .on hon
  · rw [hr]
    exact .off hoff
  · rw [hr]
    exact .refused hon hoff

namespace Node

/-- `Move d a d'`: the ways in which step `a` leads from `d` to `d'`. -/
inductive Move (d : Node n) : NodeAct → Node n → Prop
  | same {newValue : Bool} : d.onOff = newValue → Move d (.write newValue) d
  | write {newValue : Bool} {w : AppTask n} : d.onOff ≠ newValue →
      d.app.Acts kEventTypeLight (if newValue then .onAction else .offAction) w →
      Move d (.write newValue) ⟨w, newValue⟩
  | armed (effect : OnOffEffect) : d.onOff = true → Move d (.offWithEffect effect)
      ⟨{ d.app with light := { d.app.light with mOffEffectArmed := true }
                    timer := some .offEffect }, false⟩
  | noEffect (effect : OnOffEffect) : d.onOff = false → Move d (.offWithEffect effect) d
  | pressed : Move d .lightButton
      ⟨{ d.app with queue := d.app.queue ++ [.buttonEvent] }, d.onOff⟩
  | expired {purpose : Purpose} : d.app.timer = some purpose → Move d .expire
      ⟨{ d.app with timer := none
                    queue := d.app.queue ++ [.timerEvent d.app.light.timerEventHandler] }, d.onOff⟩
  /-- the event finds nothing to do -/
  | spent {handler : TimerHandler} {queue : List AppEvent} :
      d.app.queue = .timerEvent handler :: queue →
      (handler = .offEffectTimerEventHandler → d.app.light.mOffEffectArmed = false) →
      (handler = .actuatorMovementTimerEventHandler → d.app.light.isActionInProgress = false) →
      Move d .dispatch ⟨{ d.app with queue := queue }, d.onOff⟩
  /-- the off effect turns the light off -/
  | effectOff {queue : List AppEvent} :
      d.app.queue = .timerEvent .offEffectTimerEventHandler :: queue →
      d.app.light.mOffEffectArmed = true → d.app.light.mState = .onCompleted →
      Move d .dispatch
        ⟨{ d.app with queue := queue
                      light := { d.app.light with mState := .offInitiated
                                                  mAutoTurnOffTimerArmed := false
                                                  mOffEffectArmed := false }
                      timer := some .actuatorMovement }.actionInitiated .offAction kEventTypeTimer,
          d.onOff⟩
  /-- the off effect meets a light that is not on -/
  | effectRefused {queue : List AppEvent} :
      d.app.queue = .timerEvent .offEffectTimerEventHandler :: queue →
      d.app.light.mOffEffectArmed = true → d.app.light.mState ≠ .onCompleted →
      Move d .dispatch
        ⟨{ d.app with queue := queue
                      light := { d.app.light with mOffEffectArmed := false } }, d.onOff⟩
  | completedOff {queue : List AppEvent} :
      d.app.queue = .timerEvent .actuatorMovementTimerEventHandler :: queue →
      d.app.light.mState = .offInitiated →
      Move d .dispatch
        ⟨{ d.app with queue := queue
                      light := { d.app.light with mState := .offCompleted } }.actionCompleted .offAction,
          d.onOff⟩
  | completedOn {queue : List AppEvent} :
      d.app.queue = .timerEvent .actuatorMovementTimerEventHandler :: queue →
      d.app.light.mState = .onInitiated →
      Move d .dispatch
        ⟨{ d.app with queue := queue
                      light := { d.app.light with mState := .onCompleted } }.actionCompleted .onAction,
          d.onOff⟩
  | button {queue : List AppEvent} {w : AppTask n} : d.app.queue = .buttonEvent :: queue →
      { d.app with queue := queue }.Acts kEventTypeButton d.app.buttonAction w →
      Move d .dispatch ⟨w, d.onOff⟩
  | upToDate {scheduled : ℕ} : d.app.scheduled = scheduled + 1 → d.onOff = d.app.light.isLightOn →
      Move d .updateClusterState ⟨{ d.app with scheduled := scheduled }, d.onOff⟩
  | writeBack {scheduled : ℕ} {w : AppTask n} : d.app.scheduled = scheduled + 1 →
      d.onOff ≠ d.app.light.isLightOn →
      { d.app with scheduled := scheduled }.Acts kEventTypeLight
        (if d.app.light.isLightOn then .onAction else .offAction) w →
      Move d .updateClusterState ⟨w, d.app.light.isLightOn⟩

variable {linear : UInt16 → ℚ} {d d' : Node n} {a : NodeAct}

/-- The event of a timer, by its handler. -/
lemma Sound.move_timerEvent (h : Sound d) {handler : TimerHandler} {queue : List AppEvent}
    (hq : d.app.queue = .timerEvent handler :: queue) :
    Move d .dispatch
      ⟨{ d.app with queue := queue }.dispatchEvent (.timerEvent handler), d.onOff⟩ := by
  simp only [AppTask.dispatchEvent]
  cases handler with
  | autoTurnOffTimerEventHandler =>
    have hr : d.app.light.autoTurnOffTimerEventHandler = (d.app.light, []) := by
      simp [autoTurnOffTimerEventHandler, h.autoUnarmed]
    rw [handle, hr]
    exact .spent hq (by simp) (by simp)
  | offEffectTimerEventHandler =>
    rcases d.app.light.offEffect_cases with ⟨hunarmed, hr⟩ | ⟨harmed, hon, hr⟩ | ⟨harmed, hon, hr⟩
    · rw [handle, hr]
      exact .spent hq (fun _ => hunarmed) (by simp)
    · rw [handle, hr, AppTask.absorb_initiated { d.app with queue := queue } h.set.initiated]
      exact .effectOff hq harmed hon
    · rw [handle, hr]
      exact .effectRefused hq harmed hon
  | actuatorMovementTimerEventHandler =>
    rcases d.app.light.actuatorMovement_cases with
      ⟨hstate, hr⟩ | ⟨hstate, -, hr⟩ | ⟨-, hauto, -⟩ | ⟨hstate, hr⟩
    · rw [handle, hr, AppTask.absorb_completed { d.app with queue := queue } h.set.completed]
      exact .completedOff hq hstate
    · rw [handle, hr, AppTask.absorb_completed { d.app with queue := queue } h.set.completed]
      exact .completedOn hq hstate
    · exact absurd (h.autoOff.symm.trans hauto) (by simp)
    · have hidle : d.app.light.isActionInProgress = false := by
        rcases hstate with hstate | hstate <;> simp [isActionInProgress, hstate]
      rw [handle, hr]
      exact .spent hq (by simp) fun _ => hidle

/-- **Everything that a step of the node can do.** -/
theorem Sound.step_move (h : Sound d) (hstep : d.step linear a = some d') : Move d a d' := by
  cases a with
  | write newValue =>
    obtain rfl := Option.some.inj hstep
    by_cases hsame : d.onOff = newValue
    · rw [setOnOffValue_same linear hsame]
      exact .same hsame
    · rw [setOnOffValue_other linear hsame]
      exact .write hsame (d.app.acts_initiateAction h.set _ _)
  | offWithEffect effect =>
    obtain rfl := Option.some.inj hstep
    by_cases hon : d.onOff = true
    · rw [offWithEffect_of_on linear h.set hon]
      exact .armed effect hon
    · rw [offWithEffect, if_neg hon]
      exact .noEffect effect (by simpa using hon)
  | lightButton =>
    obtain rfl := Option.some.inj hstep
    exact .pressed
  | expire =>
    obtain ⟨app, happ, rfl⟩ := Option.map_eq_some_iff.1 hstep
    obtain ⟨purpose, htimer, rfl⟩ := Option.map_eq_some_iff.1 happ
    exact .expired htimer
  | dispatch =>
    obtain ⟨app, happ, rfl⟩ := Option.map_eq_some_iff.1 hstep
    unfold AppTask.dispatch at happ
    split at happ
    · cases happ
    · next event queue hq =>
      obtain rfl := Option.some.inj happ
      cases event with
      | timerEvent handler => exact h.move_timerEvent hq
      | buttonEvent =>
        exact .button hq (AppTask.acts_initiateAction { d.app with queue := queue } h.set _ _)
      | lightEvent action actor => exact absurd (hq ▸ List.mem_cons_self) (h.events action actor)
  | updateClusterState =>
    simp only [step, updateClusterState] at hstep
    split at hstep
    · cases hstep
    · next scheduled hscheduled =>
      obtain rfl := Option.some.inj hstep
      have hbase := AppTask.acts_initiateAction { d.app with scheduled := scheduled } h.set
        kEventTypeLight (if d.app.light.isLightOn then .onAction else .offAction)
      by_cases hsame : d.onOff = d.app.light.isLightOn
      · have hd := setOnOffValue_same (d := ⟨{ d.app with scheduled := scheduled }, d.onOff⟩) linear
          hsame
        rw [hd]
        exact .upToDate hscheduled hsame
      · have hd := setOnOffValue_other (d := ⟨{ d.app with scheduled := scheduled }, d.onOff⟩)
          linear hsame
        rw [hd]
        exact .writeBack hscheduled hsame hbase

/-! ### The LED and the strip -/

/-- Either nothing changes of whether the light is on, the LED and the strip; or the two are switched
to where the light goes. -/
def Switches (w w' : AppTask n) : Prop :=
  (w'.light.mState.isOn = w.light.mState.isOn ∧ w'.sLightLED = w.sLightLED ∧ w'.strip = w.strip) ∨
    (w'.sLightLED = w'.light.mState.isOn ∧
      w'.strip = { w.strip with ctl := w.strip.ctl.turnOnOff w'.light.mState.isOn })

lemma switches_refl (w : AppTask n) : Switches w w := Or.inl ⟨rfl, rfl, rfl⟩

lemma switches_acts {w w' : AppTask n} {aActor : Int32} {aAction : Action}
    (h : w.Acts aActor aAction w') : Switches w w' := by
  cases h with
  | on _ => exact Or.inr ⟨rfl, rfl⟩
  | off _ => exact Or.inr ⟨rfl, rfl⟩
  | refused _ _ => exact switches_refl w

/-- Completing an action changes neither. -/
lemma switches_actionCompleted {w w' : AppTask n} (h : Switches w w') (aAction : Action) :
    Switches w (w'.actionCompleted aAction) := by
  unfold AppTask.actionCompleted
  split
  · exact h
  · exact h

/-- **A step switches the LED and the strip with the light, or leaves all three alone.** -/
theorem Move.switches (h : Move d a d') : Switches d.app d'.app := by
  cases h with
  | same _ => exact switches_refl _
  | write _ hacts => exact switches_acts hacts
  | armed effect _ => exact Or.inl ⟨rfl, rfl, rfl⟩
  | noEffect effect _ => exact switches_refl _
  | pressed => exact Or.inl ⟨rfl, rfl, rfl⟩
  | expired _ => exact Or.inl ⟨rfl, rfl, rfl⟩
  | spent _ _ _ => exact Or.inl ⟨rfl, rfl, rfl⟩
  | effectOff _ _ _ => exact Or.inr ⟨rfl, rfl⟩
  | effectRefused _ _ _ => exact Or.inl ⟨rfl, rfl, rfl⟩
  | completedOff _ hstate =>
    dsimp only
    refine switches_actionCompleted ?_ _
    refine Or.inl ⟨?_, rfl, rfl⟩
    rw [hstate]
    rfl
  | completedOn _ hstate =>
    dsimp only
    refine switches_actionCompleted ?_ _
    refine Or.inl ⟨?_, rfl, rfl⟩
    rw [hstate]
    rfl
  | @button queue w _ hacts =>
    have hw : Switches { d.app with queue := queue } w := switches_acts hacts
    exact hw
  | upToDate _ _ => exact Or.inl ⟨rfl, rfl, rfl⟩
  | @writeBack scheduled w _ _ hacts =>
    have hw : Switches { d.app with scheduled := scheduled } w := switches_acts hacts
    exact hw

lemma led_of_run {buffer : Memory UInt8} {onOff : Bool} {log : List (Node n × NodeAct)}
    (hrun : Run (step linear) (start n buffer onOff) log d) :
    d.app.sLightLED = d.app.light.mState.isOn := by
  have hinv : Sound d ∧ d.app.sLightLED = d.app.light.mState.isOn := by
    refine hrun.invariant (I := fun d => Sound d ∧ d.app.sLightLED = d.app.light.mState.isOn)
      ⟨sound_start n buffer onOff, by cases onOff <;> rfl⟩ ?_
    rintro t a u ⟨ht, hled⟩ hu
    refine ⟨(agreement_step ht hu).1, ?_⟩
    rcases (ht.step_move hu).switches with ⟨hon, hled', -⟩ | ⟨hled', -⟩
    · rw [hled', hled, hon]
    · exact hled'
  exact hinv.2

end Node

end MatterStrip
