import MatterStrip.Lib.Run
import MatterStrip.Light.Manager

/-!
`LightingManager` with its one-shot timer and the queue of the timer events.

Commands, settings, the expiry of the timer and the dispatch of the oldest event are the steps; each
is atomic, and they come in any order. The timer remembers what it was last started for. The code
does not, and nothing that a step does depends on it.

`outcome_transition` lists once everything that a step can do (`Transition`); the invariants of the
modules that follow go through that list.
-/

namespace MatterStrip

open Lib

/-- The timer after the calls: what it runs for, if it runs. -/
def timerAfter (timer : Option Purpose) : List LightCall → Option Purpose
  | [] => timer
  | .osTimerStart purpose _ :: calls => timerAfter (some purpose) calls
  | .osTimerStop :: calls => timerAfter none calls
  | .actionInitiated _ _ :: calls => timerAfter timer calls
  | .actionCompleted _ :: calls => timerAfter timer calls

/-- The light, `mLightTimer` and the timer events in `sAppEventQueue`, the oldest first. -/
structure LightSystem where
  light : LightingManager
  /-- what the timer was last started for; `none` when it does not run -/
  timer : Option Purpose
  queue : List TimerHandler
  deriving DecidableEq, Repr

inductive LightAct
  | initiateAction (aActor : Int32) (aAction : Action)
  | onTriggerOffWithEffect (effect : OnOffEffect)
  | enableAutoTurnOff (aOn : Bool)
  | setAutoTurnOffDuration (aDurationInSecs : UInt32)
  | expire
  | dispatch
  deriving DecidableEq, Repr

namespace LightSystem

variable (s : LightSystem)

/-- The system after a function of the class, with the calls it makes. -/
def absorb (result : LightingManager × List LightCall) : LightSystem × List LightCall :=
  ({ s with light := result.1, timer := timerAfter s.timer result.2 }, result.2)

/-- A step: the system after it and the calls that the light makes. Only a running timer expires,
and only a queued event is dispatched. -/
def outcome : LightAct → Option (LightSystem × List LightCall)
  | .initiateAction aActor aAction => some (s.absorb (s.light.initiateAction aActor aAction).2)
  | .onTriggerOffWithEffect effect => some (s.absorb (s.light.onTriggerOffWithEffect effect))
  | .enableAutoTurnOff aOn => some ({ s with light := s.light.enableAutoTurnOff aOn }, [])
  | .setAutoTurnOffDuration d => some ({ s with light := s.light.setAutoTurnOffDuration d }, [])
  | .expire => s.timer.map fun _ =>
      ({ s with timer := none, queue := s.queue ++ [s.light.timerEventHandler] }, [])
  | .dispatch =>
    match s.queue with
    | [] => none
    | handler :: queue => some ({ s with queue := queue }.absorb (s.light.handle handler))

def step (a : LightAct) : Option LightSystem := (s.outcome a).map Prod.fst

/-- After `Init`, from the OnOff attribute, and after `SetCallbacks`, from which of the two
callbacks are set. -/
def start (currentLedState initiatedCB completedCB : Bool) : LightSystem where
  light := (LightingManager.zero.init currentLedState).setCallbacks initiatedCB completedCB
  timer := none
  queue := []

end LightSystem

/-! ### The timer after the calls of the class -/

section TimerAfter

variable (timer : Option Purpose) (calls calls' : List LightCall)

@[simp] theorem timerAfter_nil : timerAfter timer [] = timer := rfl

@[simp] theorem timerAfter_append :
    timerAfter timer (calls ++ calls') = timerAfter (timerAfter timer calls) calls' := by
  induction calls generalizing timer with
  | nil => rfl
  | cons call calls ih => cases call <;> simp only [List.cons_append, timerAfter, ih]

@[simp] theorem timerAfter_start (purpose : Purpose) (ms : UInt32) :
    timerAfter timer (.osTimerStart purpose ms :: calls) = timerAfter (some purpose) calls := rfl

@[simp] theorem timerAfter_initiatedCall (light : LightingManager) (aActor : Int32)
    (aAction : Action) : timerAfter timer (light.initiatedCall aActor aAction) = timer := by
  unfold LightingManager.initiatedCall
  split <;> rfl

@[simp] theorem timerAfter_completedCall (light : LightingManager) (aAction : Action) :
    timerAfter timer (light.completedCall aAction) = timer := by
  unfold LightingManager.completedCall
  split <;> rfl

end TimerAfter

/-! ### What a step can do -/

open LightingManager

/-- `Transition s a t calls`: the ways in which step `a` leads from `s` to `t`. -/
inductive Transition (s : LightSystem) : LightAct → LightSystem → List LightCall → Prop
  | on (aActor : Int32) : s.light.AcceptsOn →
      Transition s (.initiateAction aActor .onAction)
        { s with light := { s.light with mState := .onInitiated, mOffEffectArmed := false }
                 timer := some .actuatorMovement }
        (stopIf s.light.mOffEffectArmed ++
          [.osTimerStart .actuatorMovement actuatorMovementPeriosMs] ++
          s.light.initiatedCall aActor .onAction)
  | off (aActor : Int32) : s.light.AcceptsOff →
      Transition s (.initiateAction aActor .offAction)
        { s with light := { s.light with mState := .offInitiated, mAutoTurnOffTimerArmed := false }
                 timer := some .actuatorMovement }
        (stopIf s.light.mAutoTurnOffTimerArmed ++
          [.osTimerStart .actuatorMovement actuatorMovementPeriosMs] ++
          s.light.initiatedCall aActor .offAction)
  | refused (aActor : Int32) (aAction : Action) :
      ¬ (aAction = .onAction ∧ s.light.AcceptsOn) →
      ¬ (aAction = .offAction ∧ s.light.AcceptsOff) →
      Transition s (.initiateAction aActor aAction) s []
  | trigger (effect : OnOffEffect) :
      Transition s (.onTriggerOffWithEffect effect)
        { s with light := { s.light with mOffEffectArmed := true }, timer := some .offEffect }
        [.osTimerStart .offEffect effect.offEffectDuration]
  | enable (aOn : Bool) :
      Transition s (.enableAutoTurnOff aOn) { s with light := s.light.enableAutoTurnOff aOn } []
  | setDuration (d : UInt32) :
      Transition s (.setAutoTurnOffDuration d)
        { s with light := s.light.setAutoTurnOffDuration d } []
  | expire (purpose : Purpose) : s.timer = some purpose →
      Transition s .expire
        { s with timer := none, queue := s.queue ++ [s.light.timerEventHandler] } []
  /-- an auto turn-off event that is no longer armed -/
  | autoSpent (queue : List TimerHandler) :
      s.queue = .autoTurnOffTimerEventHandler :: queue → s.light.mAutoTurnOffTimerArmed = false →
      Transition s .dispatch { s with queue := queue } []
  | autoOff (queue : List TimerHandler) :
      s.queue = .autoTurnOffTimerEventHandler :: queue → s.light.mAutoTurnOffTimerArmed = true →
      s.light.AcceptsOff →
      Transition s .dispatch
        { light := { s.light with mState := .offInitiated, mAutoTurnOffTimerArmed := false }
          timer := some .actuatorMovement
          queue := queue }
        ([.osTimerStart .actuatorMovement actuatorMovementPeriosMs] ++
          s.light.initiatedCall kEventTypeTimer .offAction)
  | autoRefused (queue : List TimerHandler) :
      s.queue = .autoTurnOffTimerEventHandler :: queue → s.light.mAutoTurnOffTimerArmed = true →
      ¬ s.light.AcceptsOff →
      Transition s .dispatch
        { s with light := { s.light with mAutoTurnOffTimerArmed := false }, queue := queue } []
  /-- an off effect event that is no longer armed -/
  | effectSpent (queue : List TimerHandler) :
      s.queue = .offEffectTimerEventHandler :: queue → s.light.mOffEffectArmed = false →
      Transition s .dispatch { s with queue := queue } []
  | effectOff (queue : List TimerHandler) :
      s.queue = .offEffectTimerEventHandler :: queue → s.light.mOffEffectArmed = true →
      s.light.mState = .onCompleted →
      Transition s .dispatch
        { light := { s.light with mState := .offInitiated, mAutoTurnOffTimerArmed := false,
                                  mOffEffectArmed := false }
          timer := some .actuatorMovement
          queue := queue }
        (stopIf s.light.mAutoTurnOffTimerArmed ++
          [.osTimerStart .actuatorMovement actuatorMovementPeriosMs] ++
          s.light.initiatedCall kEventTypeTimer .offAction)
  | effectRefused (queue : List TimerHandler) :
      s.queue = .offEffectTimerEventHandler :: queue → s.light.mOffEffectArmed = true →
      s.light.mState ≠ .onCompleted →
      Transition s .dispatch
        { s with light := { s.light with mOffEffectArmed := false }, queue := queue } []
  /-- an actuator event when no action is in progress -/
  | movementSpent (queue : List TimerHandler) :
      s.queue = .actuatorMovementTimerEventHandler :: queue →
      s.light.mState = .offCompleted ∨ s.light.mState = .onCompleted →
      Transition s .dispatch { s with queue := queue } []
  | completeOff (queue : List TimerHandler) :
      s.queue = .actuatorMovementTimerEventHandler :: queue → s.light.mState = .offInitiated →
      Transition s .dispatch
        { s with light := { s.light with mState := .offCompleted }, queue := queue }
        (s.light.completedCall .offAction)
  | completeOn (queue : List TimerHandler) :
      s.queue = .actuatorMovementTimerEventHandler :: queue → s.light.mState = .onInitiated →
      s.light.mAutoTurnOff = false →
      Transition s .dispatch
        { s with light := { s.light with mState := .onCompleted }, queue := queue }
        (s.light.completedCall .onAction)
  | completeOnAuto (queue : List TimerHandler) :
      s.queue = .actuatorMovementTimerEventHandler :: queue → s.light.mState = .onInitiated →
      s.light.mAutoTurnOff = true →
      Transition s .dispatch
        { light := { s.light with mState := .onCompleted, mAutoTurnOffTimerArmed := true }
          timer := some .autoTurnOff
          queue := queue }
        (s.light.completedCall .onAction ++
          [.osTimerStart .autoTurnOff (s.light.mAutoTurnOffDuration * 1000)])

namespace LightSystem

variable {s t : LightSystem} {a : LightAct} {calls : List LightCall}

/-- Dispatching an event is one of the transitions. -/
lemma dispatch_transition {handler : TimerHandler} {queue : List TimerHandler}
    (hq : s.queue = handler :: queue) :
    Transition s .dispatch ({ s with queue := queue }.absorb (s.light.handle handler)).1
      ({ s with queue := queue }.absorb (s.light.handle handler)).2 := by
  cases handler with
  | autoTurnOffTimerEventHandler =>
    rcases s.light.autoTurnOff_cases with ⟨h, hr⟩ | ⟨h, hoff, hr⟩ | ⟨h, hoff, hr⟩ <;>
      simp only [handle, absorb, hr, timerAfter_nil, timerAfter_append, timerAfter_start,
        timerAfter_initiatedCall]
    · exact .autoSpent queue hq h
    · exact .autoOff queue hq h hoff
    · exact .autoRefused queue hq h hoff
  | offEffectTimerEventHandler =>
    rcases s.light.offEffect_cases with ⟨h, hr⟩ | ⟨h, hon, hr⟩ | ⟨h, hon, hr⟩ <;>
      simp only [handle, absorb, hr, timerAfter_nil, timerAfter_append, timerAfter_start,
        timerAfter_initiatedCall]
    · exact .effectSpent queue hq h
    · exact .effectOff queue hq h hon
    · exact .effectRefused queue hq h hon
  | actuatorMovementTimerEventHandler =>
    rcases s.light.actuatorMovement_cases with
      ⟨h, hr⟩ | ⟨h, hauto, hr⟩ | ⟨h, hauto, hr⟩ | ⟨h, hr⟩ <;>
      simp only [handle, absorb, hr, timerAfter_nil, timerAfter_append, timerAfter_start,
        timerAfter_completedCall]
    · exact .completeOff queue hq h
    · exact .completeOn queue hq h hauto
    · exact .completeOnAuto queue hq h hauto
    · exact .movementSpent queue hq h

/-- **What a step can do.** -/
theorem outcome_transition (h : s.outcome a = some (t, calls)) : Transition s a t calls := by
  cases a with
  | initiateAction aActor aAction =>
    obtain ⟨rfl, rfl⟩ := Prod.ext_iff.1 (Option.some.inj h)
    rcases s.light.initiateAction_cases aActor aAction with
      ⟨rfl, hon, hr⟩ | ⟨rfl, hoff, hr⟩ | ⟨hon, hoff, hr⟩ <;>
      simp only [absorb, hr, timerAfter_nil, timerAfter_append, timerAfter_start,
        timerAfter_initiatedCall]
    · exact .on aActor hon
    · exact .off aActor hoff
    · exact .refused aActor aAction hon hoff
  | onTriggerOffWithEffect effect =>
    obtain ⟨rfl, rfl⟩ := Prod.ext_iff.1 (Option.some.inj h)
    exact .trigger effect
  | enableAutoTurnOff aOn =>
    obtain ⟨rfl, rfl⟩ := Prod.ext_iff.1 (Option.some.inj h)
    exact .enable aOn
  | setAutoTurnOffDuration d =>
    obtain ⟨rfl, rfl⟩ := Prod.ext_iff.1 (Option.some.inj h)
    exact .setDuration d
  | expire =>
    obtain ⟨purpose, htimer, hr⟩ := Option.map_eq_some_iff.1 h
    obtain ⟨rfl, rfl⟩ := Prod.ext_iff.1 hr
    exact .expire purpose htimer
  | dispatch =>
    simp only [outcome] at h
    split at h
    · cases h
    · next handler queue hq =>
      obtain ⟨rfl, rfl⟩ := Prod.ext_iff.1 (Option.some.inj h)
      exact dispatch_transition hq

/-- **What a step can do**, without the calls. -/
theorem step_transition (h : s.step a = some t) : ∃ calls, Transition s a t calls := by
  obtain ⟨⟨u, calls⟩, hout, rfl⟩ := Option.map_eq_some_iff.1 h
  exact ⟨calls, outcome_transition hout⟩

end LightSystem

end MatterStrip
