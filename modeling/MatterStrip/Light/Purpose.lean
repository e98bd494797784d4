import MatterStrip.Light.System

/-!
Whether the timer's expiry is handled for what the timer was started for.

`TimerEventHandler` does not know what `StartTimer` was called for; it goes by the two flags, auto
turn-off before off effect. `handlers_match_iff` says for each run when that is right: every start
of the timer for something else, while auto turn-off is armed, has to clear that flag, and a late
event must not clear the flag of a timer that runs.
-/

namespace MatterStrip

open Lib LightingManager

/-- The handler that a start of the timer is meant for. -/
def Purpose.handler : Purpose → TimerHandler
  | .actuatorMovement => .actuatorMovementTimerEventHandler
  | .autoTurnOff => .autoTurnOffTimerEventHandler
  | .offEffect => .offEffectTimerEventHandler

namespace LightSystem

/-- If the timer expired now, the handler of its purpose would be selected. -/
def HandlersMatch (s : LightSystem) : Prop :=
  ∀ purpose, s.timer = some purpose → s.light.timerEventHandler = purpose.handler

/-- An event of an earlier expiry does not clear the flag of a timer that runs, to have its action
refused. -/
def EventInStep (s : LightSystem) : TimerHandler → Prop
  | .autoTurnOffTimerEventHandler =>
    s.timer ≠ none → s.light.mAutoTurnOffTimerArmed = true → s.light.AcceptsOff
  | .offEffectTimerEventHandler =>
    s.timer ≠ none → s.light.mOffEffectArmed = true → s.light.mAutoTurnOffTimerArmed = false →
      s.light.mState = .onCompleted
  | .actuatorMovementTimerEventHandler => True

/-- The flags stay in step with the timer. -/
def InStep (s : LightSystem) : LightAct → Prop
  -- `InitiateAction` clears the auto turn-off flag for OFF, but not for ON
  | .initiateAction _ aAction =>
    aAction = .onAction → s.light.AcceptsOn → s.light.mAutoTurnOffTimerArmed = false
  | .onTriggerOffWithEffect _ => s.light.mAutoTurnOffTimerArmed = false
  | .enableAutoTurnOff _ => True
  | .setAutoTurnOffDuration _ => True
  | .expire => True
  | .dispatch => ∀ handler ∈ s.queue.head?, s.EventInStep handler

variable {s t : LightSystem} {a : LightAct}

/-! ### The handler that the flags select -/

lemma timerEventHandler_auto {light : LightingManager}
    (h : light.mAutoTurnOffTimerArmed = true) :
    light.timerEventHandler = .autoTurnOffTimerEventHandler := by
  simp [timerEventHandler, h]

lemma timerEventHandler_effect {light : LightingManager}
    (h : light.mAutoTurnOffTimerArmed = false) (h' : light.mOffEffectArmed = true) :
    light.timerEventHandler = .offEffectTimerEventHandler := by
  simp [timerEventHandler, h, h']

/-- The handler depends on the two flags alone. -/
lemma timerEventHandler_congr {light light' : LightingManager}
    (h : light.mAutoTurnOffTimerArmed = light'.mAutoTurnOffTimerArmed)
    (h' : light.mOffEffectArmed = light'.mOffEffectArmed) :
    light.timerEventHandler = light'.timerEventHandler := by
  simp [timerEventHandler, h, h']

variable {light : LightingManager} {queue : List TimerHandler}

/-- Where the timer and the flags are as they were, nothing changes. -/
lemma HandlersMatch.congr (hs : s.HandlersMatch)
    (hauto : light.mAutoTurnOffTimerArmed = s.light.mAutoTurnOffTimerArmed)
    (heffect : light.mOffEffectArmed = s.light.mOffEffectArmed) :
    HandlersMatch ⟨light, s.timer, queue⟩ := by
  intro purpose hp
  rw [timerEventHandler_congr hauto heffect]
  exact hs purpose hp

/-- A timer just started for `purpose`. -/
lemma handlersMatch_started {purpose : Purpose} :
    HandlersMatch ⟨light, some purpose, queue⟩ ↔ light.timerEventHandler = purpose.handler := by
  simp [HandlersMatch]

/-- Where the timer is as it was and the flags select another handler, only a timer that does not
run matches. -/
lemma handlersMatch_reselected (hs : s.HandlersMatch)
    (hne : light.timerEventHandler ≠ s.light.timerEventHandler) :
    HandlersMatch ⟨light, s.timer, queue⟩ ↔ s.timer = none := by
  constructor
  · intro ht
    by_contra hrun
    obtain ⟨purpose, hp⟩ := Option.ne_none_iff_exists'.1 hrun
    exact hne ((ht purpose hp).trans (hs purpose hp).symm)
  · intro hstopped purpose hp
    rw [hstopped] at hp
    cases hp

/-! ### One step -/

/-- **One step from a state that matches**: the next one matches exactly if the step keeps flags
and timer in step. -/
theorem handlersMatch_step (hs : s.HandlersMatch) (h : s.step a = some t) :
    t.HandlersMatch ↔ s.InStep a := by
  obtain ⟨calls, htrans⟩ := step_transition h
  clear h
  cases htrans with
  | on aActor hon =>
    rw [handlersMatch_started]
    simp only [InStep, hon, true_imp_iff]
    cases s.light.mAutoTurnOffTimerArmed <;> simp [timerEventHandler, Purpose.handler]
  | off aActor hoff =>
    rw [handlersMatch_started]
    simp [InStep, timerEventHandler, hoff.2, Purpose.handler]
  | refused aActor aAction hon _ =>
    refine iff_of_true hs ?_
    intro ha hon'
    exact absurd ⟨ha, hon'⟩ hon
  | trigger effect =>
    rw [handlersMatch_started]
    simp only [InStep]
    cases s.light.mAutoTurnOffTimerArmed <;> simp [timerEventHandler, Purpose.handler]
  | enable aOn => exact iff_of_true (hs.congr rfl rfl) trivial
  | setDuration d => exact iff_of_true (hs.congr rfl rfl) trivial
  | expire purpose _ => exact iff_of_true (by simp [HandlersMatch]) trivial
  | autoSpent queue hq harmed =>
    exact iff_of_true (hs.congr rfl rfl) (by simp [InStep, EventInStep, hq, harmed])
  | autoOff queue hq _ hoff =>
    rw [handlersMatch_started]
    simp [InStep, EventInStep, hq, hoff, timerEventHandler, hoff.2, Purpose.handler]
  | autoRefused queue hq harmed hoff =>
    refine (handlersMatch_reselected hs ?_).trans ?_
    · rw [timerEventHandler_auto harmed]
      cases heffect : s.light.mOffEffectArmed <;> simp [timerEventHandler, heffect]
    · simp [InStep, EventInStep, hq, harmed, hoff]
  | effectSpent queue hq harmed =>
    exact iff_of_true (hs.congr rfl rfl) (by simp [InStep, EventInStep, hq, harmed])
  | effectOff queue hq _ hon =>
    rw [handlersMatch_started]
    simp [InStep, EventInStep, hq, hon, timerEventHandler, Purpose.handler]
  | effectRefused queue hq harmed hon =>
    cases hauto : s.light.mAutoTurnOffTimerArmed with
    | true =>
      -- the flag of the off effect is not looked at
      refine iff_of_true ?_ (by simp [InStep, EventInStep, hq, hauto])
      intro purpose hp
      rw [← hs purpose hp, timerEventHandler_auto hauto]
      exact timerEventHandler_auto hauto
    | false =>
      refine (handlersMatch_reselected hs ?_).trans ?_
      · rw [timerEventHandler_effect hauto harmed]
        simp [timerEventHandler, hauto]
      · simp [InStep, EventInStep, hq, harmed, hon, hauto]
  | movementSpent queue hq _ =>
    exact iff_of_true (hs.congr rfl rfl) (by simp [InStep, EventInStep, hq])
  | completeOff queue hq _ =>
    exact iff_of_true (hs.congr rfl rfl) (by simp [InStep, EventInStep, hq])
  | completeOn queue hq _ _ =>
    exact iff_of_true (hs.congr rfl rfl) (by simp [InStep, EventInStep, hq])
  | completeOnAuto queue hq _ _ =>
    rw [handlersMatch_started]
    simp [InStep, EventInStep, hq, timerEventHandler, Purpose.handler]

/-! ### Runs -/

theorem handlersMatch_start (currentLedState initiatedCB completedCB : Bool) :
    (start currentLedState initiatedCB completedCB).HandlersMatch := by
  intro purpose hp
  cases hp

/-- **When the expiry is handled for its purpose.** In every state of a run the handler that would
be selected is the one of the timer's purpose, exactly if every step of the run keeps flags and
timer in step. -/
theorem handlers_match_iff (currentLedState initiatedCB completedCB : Bool)
    (log : List (LightSystem × LightAct)) (t : LightSystem)
    (hrun : Run step (start currentLedState initiatedCB completedCB) log t) :
    Always HandlersMatch log t ↔ Meets InStep log :=
  Run.always_iff trivial (fun _ _ _ _ _ => trivial)
    (handlersMatch_start currentLedState initiatedCB completedCB)
    (fun _ _ _ (_ : True) hs h => handlersMatch_step hs h) hrun

/-- ON with auto turn-off enabled: the timer runs for the movement, then for auto turn-off, and the
flags follow. -/
theorem handlers_match_autoTurnOff :
    ∃ log t, Run step (start false true true) log t ∧
      log.map Prod.snd = [.enableAutoTurnOff true, .setAutoTurnOffDuration 60,
        .initiateAction kEventTypeLight .onAction, .expire, .dispatch] ∧
      t.timer = some .autoTurnOff ∧ Always HandlersMatch log t := by
  have hexec : exec step (start false true true) [.enableAutoTurnOff true,
      .setAutoTurnOffDuration 60, .initiateAction kEventTypeLight .onAction, .expire,
      .dispatch] = some _ := rfl
  refine ⟨_, _, run_execLog hexec, map_snd_execLog hexec, rfl,
    (handlers_match_iff false true true _ _ (run_execLog hexec)).2 ?_⟩
  refine (meets_execLog rfl).2 ⟨trivial, (meets_execLog rfl).2 ⟨trivial,
    (meets_execLog rfl).2 ⟨fun _ _ => rfl, (meets_execLog rfl).2 ⟨trivial,
      (meets_execLog rfl).2 ⟨?_, meets_nil⟩⟩⟩⟩⟩
  intro handler hhandler
  obtain rfl : .actuatorMovementTimerEventHandler = handler := Option.some.inj hhandler
  trivial

/-- Auto turn-off is armed when an off effect is triggered: the timer then runs for the off effect,
and the handler of auto turn-off would be selected. -/
theorem autoTurnOff_selected_for_offEffect :
    ¬ ∀ (currentLedState initiatedCB completedCB : Bool) (log : List (LightSystem × LightAct))
      (t : LightSystem), Run step (start currentLedState initiatedCB completedCB) log t →
        t.HandlersMatch := by
  intro h
  let effect : OnOffEffect := ⟨OnOffEffect.kDelayedAllOff, OnOffEffect.kDelayedOffFastFade⟩
  obtain ⟨t, ht⟩ : ∃ t, exec step (start false true true)
      [.enableAutoTurnOff true, .setAutoTurnOffDuration 60,
        .initiateAction kEventTypeLight .onAction, .expire, .dispatch,
        .onTriggerOffWithEffect effect] = some t := ⟨_, rfl⟩
  have hmatch := h false true true _ t (run_execLog ht) .offEffect
  obtain rfl := Option.some.inj ht
  exact absurd (hmatch rfl) (by decide)

end LightSystem

end MatterStrip
