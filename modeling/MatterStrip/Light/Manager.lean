import Mathlib.Tactic.Common

/-!
`LightingManager`: the state machine of the light.

A function of the class keeps its name; it is a function of the fields that returns the new fields
and, in order, the calls it makes to the outside (`LightCall`): to the one-shot timer and to the two
callbacks. A call
of `osTimerStart` carries the purpose of the `StartTimer` call it comes from, which the code itself
does not record. The callbacks are `AppTask`'s; what is kept here is whether they are set.

`initiateAction_cases` says once what `InitiateAction` can do; everything else about the class is
derived from it and from the lemmas on the three timer handlers.
-/

namespace MatterStrip

/-! ### Fields, events and calls -/

/-- `LightingManager::Action_t` -/
inductive Action
  | onAction
  | offAction
  | invalidAction
  deriving DecidableEq, Repr

/-- `LightingManager::State_t` -/
inductive LightState
  | offInitiated
  | offCompleted
  | onInitiated
  | onCompleted
  deriving DecidableEq, Repr

/-- The light is on, or turning on. -/
def LightState.isOn : LightState → Bool
  | .offInitiated => false
  | .offCompleted => false
  | .onInitiated => true
  | .onCompleted => true

/-- Where `StartTimer` is called from, and so what for. -/
inductive Purpose
  /-- `InitiateAction` -/
  | actuatorMovement
  /-- `ActuatorMovementTimerEventHandler` -/
  | autoTurnOff
  /-- `OnTriggerOffWithEffect` -/
  | offEffect
  deriving DecidableEq, Repr

inductive TimerHandler
  | autoTurnOffTimerEventHandler
  | offEffectTimerEventHandler
  | actuatorMovementTimerEventHandler
  deriving DecidableEq, Repr

/-- The calls that leave the class. The delay of `osTimerStart` is the one in milliseconds that
`StartTimer` is called with, before `pdMS_TO_TICKS`. The call is taken to succeed; that it fails for 0
ticks, and `StartTimer` then stops the program, is left to `LightSystem.StartsSucceed`. -/
inductive LightCall
  | osTimerStart (purpose : Purpose) (aTimeoutMs : UInt32)
  | osTimerStop
  | actionInitiated (aAction : Action) (aActor : Int32)
  | actionCompleted (aAction : Action)
  deriving DecidableEq, Repr

structure LightingManager where
  mState : LightState
  mActionInitiatedCB : Bool
  mActionCompletedCB : Bool
  mAutoTurnOff : Bool
  mAutoTurnOffDuration : UInt32
  mAutoTurnOffTimerArmed : Bool
  mOffEffectArmed : Bool
  deriving DecidableEq, Repr

def actuatorMovementPeriosMs : UInt32 := 10

def kEventTypeButton : Int32 := 0

def kEventTypeTimer : Int32 := 1

def kEventTypeLight : Int32 := 2

/-- The fields of `OnOffEffect` that `OnTriggerOffWithEffect` reads. -/
structure OnOffEffect where
  mEffectIdentifier : UInt8
  mEffectVariant : UInt8
  deriving DecidableEq, Repr

namespace OnOffEffect

def kDelayedAllOff : UInt8 := 0x00

def kDyingLight : UInt8 := 0x01

def kDelayedOffFastFade : UInt8 := 0x00

def kNoFade : UInt8 := 0x01

def kDelayedOffSlowFade : UInt8 := 0x02

def kDyingLightFadeOff : UInt8 := 0x00

/-- The duration that `OnTriggerOffWithEffect` chooses. -/
def offEffectDuration (effect : OnOffEffect) : UInt32 :=
  if effect.mEffectIdentifier = kDelayedAllOff then
    if effect.mEffectVariant = kDelayedOffFastFade then 800
    else if effect.mEffectVariant = kNoFade then 800
    else if effect.mEffectVariant = kDelayedOffSlowFade then 12800
    else 0
  else if effect.mEffectIdentifier = kDyingLight then
    if effect.mEffectVariant = kDyingLightFadeOff then 1500 else 0
  else 0

end OnOffEffect

/-! ### The functions of the class -/

namespace LightingManager

variable (light : LightingManager)

/-- The static object before `Init`, with every field zero. -/
def zero : LightingManager := ⟨.offInitiated, false, false, false, 0, false, false⟩

/-- What `LightingManager::Init` sets, from the OnOff attribute that it reads. -/
def init (currentLedState : Bool) : LightingManager :=
  { light with
    mState := if currentLedState then .onCompleted else .offCompleted
    mAutoTurnOffTimerArmed := false
    mAutoTurnOff := false
    mAutoTurnOffDuration := 0
    mOffEffectArmed := false }

/-- `LightingManager::SetCallbacks`, which of the two are not null -/
def setCallbacks (aActionInitiatedCB aActionCompletedCB : Bool) : LightingManager :=
  { light with
    mActionInitiatedCB := aActionInitiatedCB
    mActionCompletedCB := aActionCompletedCB }

def isActionInProgress : Bool := light.mState = .offInitiated ∨ light.mState = .onInitiated

def isLightOn : Bool := light.mState = .onCompleted

def enableAutoTurnOff (aOn : Bool) : LightingManager := { light with mAutoTurnOff := aOn }

def setAutoTurnOffDuration (aDurationInSecs : UInt32) : LightingManager :=
  { light with mAutoTurnOffDuration := aDurationInSecs }

/-- The test of `InitiateAction`: the state to go to, if the action is accepted. -/
def newState (aAction : Action) : Option LightState :=
  if (light.mState = .offCompleted ∨ light.mOffEffectArmed = true) ∧ aAction = .onAction then
    some .onInitiated
  else if light.mState = .onCompleted ∧ aAction = .offAction ∧ light.mOffEffectArmed = false then
    some .offInitiated
  else none

def initiateAction (aActor : Int32) (aAction : Action) :
    Bool × LightingManager × List LightCall :=
  match light.newState aAction with
  | none => (false, light, [])
  | some new =>
    let (light, stopAuto) :=
      if light.mAutoTurnOffTimerArmed = true ∧ new = .offInitiated then
        ({ light with mAutoTurnOffTimerArmed := false }, [LightCall.osTimerStop])
      else (light, [])
    let (light, stopEffect) :=
      if light.mOffEffectArmed = true ∧ new = .onInitiated then
        ({ light with mOffEffectArmed := false }, [LightCall.osTimerStop])
      else (light, [])
    let start := [LightCall.osTimerStart .actuatorMovement actuatorMovementPeriosMs]
    let light := { light with mState := new }
    let callback := if light.mActionInitiatedCB then [LightCall.actionInitiated aAction aActor] else []
    (true, light, stopAuto ++ stopEffect ++ start ++ callback)

/-- `LightingManager::TimerEventHandler`: the handler of the event that it posts -/
def timerEventHandler : TimerHandler :=
  if light.mAutoTurnOffTimerArmed then .autoTurnOffTimerEventHandler
  else if light.mOffEffectArmed then .offEffectTimerEventHandler
  else .actuatorMovementTimerEventHandler

def autoTurnOffTimerEventHandler : LightingManager × List LightCall :=
  if light.mAutoTurnOffTimerArmed = false then (light, [])
  else ({ light with mAutoTurnOffTimerArmed := false }.initiateAction kEventTypeTimer .offAction).2

def offEffectTimerEventHandler : LightingManager × List LightCall :=
  if light.mOffEffectArmed = false then (light, [])
  else ({ light with mOffEffectArmed := false }.initiateAction kEventTypeTimer .offAction).2

def actuatorMovementTimerEventHandler : LightingManager × List LightCall :=
  let (light, actionCompleted) :=
    if light.mState = .offInitiated then
      ({ light with mState := .offCompleted }, Action.offAction)
    else if light.mState = .onInitiated then
      ({ light with mState := .onCompleted }, Action.onAction)
    else (light, Action.invalidAction)
  if actionCompleted ≠ .invalidAction then
    let callback := if light.mActionCompletedCB then [LightCall.actionCompleted actionCompleted] else []
    if light.mAutoTurnOff = true ∧ actionCompleted = .onAction then
      ({ light with mAutoTurnOffTimerArmed := true },
        callback ++ [.osTimerStart .autoTurnOff (light.mAutoTurnOffDuration * 1000)])
    else (light, callback)
  else (light, [])

def handle : TimerHandler → LightingManager × List LightCall
  | .autoTurnOffTimerEventHandler => light.autoTurnOffTimerEventHandler
  | .offEffectTimerEventHandler => light.offEffectTimerEventHandler
  | .actuatorMovementTimerEventHandler => light.actuatorMovementTimerEventHandler

/-- `LightingManager::OnTriggerOffWithEffect`, on the one light there is -/
def onTriggerOffWithEffect (effect : OnOffEffect) : LightingManager × List LightCall :=
  ({ light with mOffEffectArmed := true }, [.osTimerStart .offEffect effect.offEffectDuration])

/-! ### What an action can do -/

def initiatedCall (aActor : Int32) (aAction : Action) : List LightCall :=
  if light.mActionInitiatedCB then [.actionInitiated aAction aActor] else []

def completedCall (aAction : Action) : List LightCall :=
  if light.mActionCompletedCB then [.actionCompleted aAction] else []

/-- A pending timer is stopped before it is started again. -/
def stopIf (armed : Bool) : List LightCall := if armed then [.osTimerStop] else []

/-- `InitiateAction` accepts ON when the light is off or an off effect is armed, -/
def AcceptsOn : Prop := light.mState = .offCompleted ∨ light.mOffEffectArmed = true

/-- and OFF when the light is on and none is. -/
def AcceptsOff : Prop := light.mState = .onCompleted ∧ light.mOffEffectArmed = false

instance : Decidable light.AcceptsOn := by unfold AcceptsOn; infer_instance

instance : Decidable light.AcceptsOff := by unfold AcceptsOff; infer_instance

lemma initiateAction_on (h : light.AcceptsOn) (aActor : Int32) :
    light.initiateAction aActor .onAction =
      (true, { light with mState := .onInitiated, mOffEffectArmed := false },
        stopIf light.mOffEffectArmed ++
          [.osTimerStart .actuatorMovement actuatorMovementPeriosMs] ++
          light.initiatedCall aActor .onAction) := by
  obtain ⟨st, ci, cc, ao, d, aa, ea⟩ := light
  have hnew : newState ⟨st, ci, cc, ao, d, aa, ea⟩ .onAction = some .onInitiated :=
    if_pos ⟨h, rfl⟩
  unfold initiateAction
  rw [hnew]
  cases aa <;> cases ea <;> rfl

lemma initiateAction_off (h : light.AcceptsOff) (aActor : Int32) :
    light.initiateAction aActor .offAction =
      (true, { light with mState := .offInitiated, mAutoTurnOffTimerArmed := false },
        stopIf light.mAutoTurnOffTimerArmed ++
          [.osTimerStart .actuatorMovement actuatorMovementPeriosMs] ++
          light.initiatedCall aActor .offAction) := by
  obtain ⟨st, ci, cc, ao, d, aa, ea⟩ := light
  obtain ⟨rfl, rfl⟩ : st = .onCompleted ∧ ea = false := h
  cases aa <;> rfl

lemma initiateAction_refused {aAction : Action}
    (h : ¬ (aAction = .onAction ∧ light.AcceptsOn) ∧ ¬ (aAction = .offAction ∧ light.AcceptsOff))
    (aActor : Int32) : light.initiateAction aActor aAction = (false, light, []) := by
  have hnew : light.newState aAction = none := by
    unfold newState
    rw [if_neg fun h' => h.1 ⟨h'.2, h'.1⟩, if_neg fun h' => h.2 ⟨h'.2.1, h'.1, h'.2.2⟩]
  unfold initiateAction
  rw [hnew]

/-- **What `InitiateAction` can do**: accept ON, accept OFF, or refuse and change nothing. -/
theorem initiateAction_cases (aActor : Int32) (aAction : Action) :
    (aAction = .onAction ∧ light.AcceptsOn ∧ light.initiateAction aActor aAction =
      (true, { light with mState := .onInitiated, mOffEffectArmed := false },
        stopIf light.mOffEffectArmed ++
          [.osTimerStart .actuatorMovement actuatorMovementPeriosMs] ++
          light.initiatedCall aActor .onAction)) ∨
    (aAction = .offAction ∧ light.AcceptsOff ∧ light.initiateAction aActor aAction =
      (true, { light with mState := .offInitiated, mAutoTurnOffTimerArmed := false },
        stopIf light.mAutoTurnOffTimerArmed ++
          [.osTimerStart .actuatorMovement actuatorMovementPeriosMs] ++
          light.initiatedCall aActor .offAction)) ∨
    (¬ (aAction = .onAction ∧ light.AcceptsOn) ∧ ¬ (aAction = .offAction ∧ light.AcceptsOff) ∧
      light.initiateAction aActor aAction = (false, light, [])) := by
  by_cases hon : aAction = .onAction ∧ light.AcceptsOn
  · obtain ⟨rfl, hon⟩ := hon
    exact Or.inl ⟨rfl, hon, light.initiateAction_on hon aActor⟩
  · by_cases hoff : aAction = .offAction ∧ light.AcceptsOff
    · obtain ⟨rfl, hoff⟩ := hoff
      exact Or.inr (Or.inl ⟨rfl, hoff, light.initiateAction_off hoff aActor⟩)
    · exact Or.inr (Or.inr ⟨hon, hoff, light.initiateAction_refused ⟨hon, hoff⟩ aActor⟩)

/-- **What the auto turn-off handler can do**: nothing, if it is no longer armed; turn the light
off; or clear the flag and have its action refused. -/
theorem autoTurnOff_cases :
    (light.mAutoTurnOffTimerArmed = false ∧ light.autoTurnOffTimerEventHandler = (light, [])) ∨
    (light.mAutoTurnOffTimerArmed = true ∧ light.AcceptsOff ∧
      light.autoTurnOffTimerEventHandler =
        ({ light with mState := .offInitiated, mAutoTurnOffTimerArmed := false },
          [.osTimerStart .actuatorMovement actuatorMovementPeriosMs] ++
            light.initiatedCall kEventTypeTimer .offAction)) ∨
    (light.mAutoTurnOffTimerArmed = true ∧ ¬ light.AcceptsOff ∧
      light.autoTurnOffTimerEventHandler =
        ({ light with mAutoTurnOffTimerArmed := false }, [])) := by
  cases harmed : light.mAutoTurnOffTimerArmed with
  | false => exact Or.inl ⟨rfl, by simp [autoTurnOffTimerEventHandler, harmed]⟩
  | true =>
    have hhandler : light.autoTurnOffTimerEventHandler =
        ({ light with mAutoTurnOffTimerArmed := false }.initiateAction kEventTypeTimer
          .offAction).2 := by
      simp [autoTurnOffTimerEventHandler, harmed]
    by_cases hoff : light.AcceptsOff
    · refine Or.inr (Or.inl ⟨rfl, hoff, ?_⟩)
      rw [hhandler, initiateAction_off { light with mAutoTurnOffTimerArmed := false } hoff]
      rfl
    · refine Or.inr (Or.inr ⟨rfl, hoff, ?_⟩)
      rw [hhandler, initiateAction_refused { light with mAutoTurnOffTimerArmed := false }
        ⟨by simp, fun h => hoff h.2⟩]

/-- **What the off effect handler can do.** Its action finds the flag already cleared, so that only
the state decides. -/
theorem offEffect_cases :
    (light.mOffEffectArmed = false ∧ light.offEffectTimerEventHandler = (light, [])) ∨
    (light.mOffEffectArmed = true ∧ light.mState = .onCompleted ∧
      light.offEffectTimerEventHandler =
        ({ light with mState := .offInitiated, mAutoTurnOffTimerArmed := false,
                      mOffEffectArmed := false },
          stopIf light.mAutoTurnOffTimerArmed ++
            [.osTimerStart .actuatorMovement actuatorMovementPeriosMs] ++
            light.initiatedCall kEventTypeTimer .offAction)) ∨
    (light.mOffEffectArmed = true ∧ light.mState ≠ .onCompleted ∧
      light.offEffectTimerEventHandler = ({ light with mOffEffectArmed := false }, [])) := by
  cases harmed : light.mOffEffectArmed with
  | false => exact Or.inl ⟨rfl, by simp [offEffectTimerEventHandler, harmed]⟩
  | true =>
    have hhandler : light.offEffectTimerEventHandler =
        ({ light with mOffEffectArmed := false }.initiateAction kEventTypeTimer .offAction).2 := by
      simp [offEffectTimerEventHandler, harmed]
    by_cases hon : light.mState = .onCompleted
    · refine Or.inr (Or.inl ⟨rfl, hon, ?_⟩)
      rw [hhandler,
        initiateAction_off { light with mOffEffectArmed := false } ⟨hon, rfl⟩]
      rfl
    · refine Or.inr (Or.inr ⟨rfl, hon, ?_⟩)
      rw [hhandler, initiateAction_refused { light with mOffEffectArmed := false }
        ⟨by simp, fun h => hon h.2.1⟩]

/-- **What the actuator handler can do**: complete OFF, complete ON with or without starting auto
turn-off, or nothing. -/
theorem actuatorMovement_cases :
    (light.mState = .offInitiated ∧ light.actuatorMovementTimerEventHandler =
      ({ light with mState := .offCompleted }, light.completedCall .offAction)) ∨
    (light.mState = .onInitiated ∧ light.mAutoTurnOff = false ∧
      light.actuatorMovementTimerEventHandler =
        ({ light with mState := .onCompleted }, light.completedCall .onAction)) ∨
    (light.mState = .onInitiated ∧ light.mAutoTurnOff = true ∧
      light.actuatorMovementTimerEventHandler =
        ({ light with mState := .onCompleted, mAutoTurnOffTimerArmed := true },
          light.completedCall .onAction ++
            [.osTimerStart .autoTurnOff (light.mAutoTurnOffDuration * 1000)])) ∨
    ((light.mState = .offCompleted ∨ light.mState = .onCompleted) ∧
      light.actuatorMovementTimerEventHandler = (light, [])) := by
  obtain ⟨st, ci, cc, ao, d, aa, ea⟩ := light
  cases st with
  | offInitiated => exact Or.inl ⟨rfl, by simp [actuatorMovementTimerEventHandler, completedCall]⟩
  | onInitiated =>
    cases ao with
    | false => exact Or.inr (Or.inl ⟨rfl, rfl, rfl⟩)
    | true => exact Or.inr (Or.inr (Or.inl ⟨rfl, rfl, rfl⟩))
  | offCompleted => exact Or.inr (Or.inr (Or.inr ⟨Or.inl rfl, rfl⟩))
  | onCompleted => exact Or.inr (Or.inr (Or.inr ⟨Or.inr rfl, rfl⟩))

end LightingManager

end MatterStrip
