import MatterStrip.Light.System

/-!
The delays that the light asks its timer for.

`StartTimer` is called from three places: with a constant for a movement, with the duration of the
off effect, and with the duration of auto turn-off in milliseconds. The second is 0 for an effect
that `OnTriggerOffWithEffect` does not know, and the third is a 32-bit product of what was last set,
or of the 0 that `Init` leaves. So what holds of every start is asked of the last two only
(`forall_starts_iff`). `delays_right_iff` says for each run when all its delays are right;
`startsSucceed_iff` says when all its starts succeed, which the model takes for granted elsewhere:
a delay of 0 ticks is an error, and `StartTimer` then stops the program.
-/

namespace MatterStrip

open Lib LightingManager

/-- A call of `StartTimer`, and `mAutoTurnOffDuration` when it is made. -/
structure TimerStart where
  purpose : Purpose
  aTimeoutMs : UInt32
  autoTurnOffDuration : UInt32
  deriving DecidableEq, Repr

/-- The delay is one that a timer can be started with, and for auto turn-off it is the duration in
milliseconds. -/
structure TimerStart.Right (st : TimerStart) : Prop where
  pos : 0 < st.aTimeoutMs
  autoTurnOff : st.purpose = .autoTurnOff →
    st.aTimeoutMs.toNat = 1000 * st.autoTurnOffDuration.toNat

/-- `osTimerStart` accepts the delay: it does not come to 0 ticks. The macro `pdMS_TO_TICKS` is the
operating system's. -/
def TimerStart.Succeeds (pdMsToTicks : UInt32 → UInt32) (st : TimerStart) : Prop :=
  0 < pdMsToTicks st.aTimeoutMs

/-- The call of `StartTimer` that a call is, if it is one. -/
def LightCall.timerStart (duration : UInt32) : LightCall → Option TimerStart
  | .osTimerStart purpose aTimeoutMs => some ⟨purpose, aTimeoutMs, duration⟩
  | .osTimerStop => none
  | .actionInitiated _ _ => none
  | .actionCompleted _ => none

def timerStarts (duration : UInt32) (calls : List LightCall) : List TimerStart :=
  calls.filterMap (LightCall.timerStart duration)

/-- `OnTriggerOffWithEffect` knows the variant of the effect. -/
def OnOffEffect.Known (effect : OnOffEffect) : Prop :=
  effect.mEffectIdentifier = kDelayedAllOff ∧
      (effect.mEffectVariant = kDelayedOffFastFade ∨ effect.mEffectVariant = kNoFade ∨
        effect.mEffectVariant = kDelayedOffSlowFade) ∨
    effect.mEffectIdentifier = kDyingLight ∧ effect.mEffectVariant = kDyingLightFadeOff

/-- The act does not enable auto turn-off, and triggers no effect that the timer cannot be started
for. -/
structure LightAct.Startable (pdMsToTicks : UInt32 → UInt32) (a : LightAct) : Prop where
  disabled : a ≠ .enableAutoTurnOff true
  effect : ∀ effect, a = .onTriggerOffWithEffect effect → 0 < pdMsToTicks effect.offEffectDuration

namespace LightSystem

/-- The calls of `StartTimer` in a step. -/
def stepStarts (s : LightSystem) (a : LightAct) : List TimerStart :=
  match s.outcome a with
  | none => []
  | some (_, calls) => timerStarts s.light.mAutoTurnOffDuration calls

def startsOf (log : List (LightSystem × LightAct)) : List TimerStart := emitted stepStarts log

/-- No start of the timer in the run fails. -/
def StartsSucceed (pdMsToTicks : UInt32 → UInt32) (log : List (LightSystem × LightAct)) : Prop :=
  ∀ st ∈ startsOf log, st.Succeeds pdMsToTicks

/-- `Q` holds of the starts of a step other than that for a movement: of the one for the effect that
is triggered, and of the one for auto turn-off where an ON is completed with it enabled. -/
def Starts (Q : TimerStart → Prop) (s : LightSystem) : LightAct → Prop
  | .initiateAction _ _ => True
  | .onTriggerOffWithEffect effect =>
      Q ⟨.offEffect, effect.offEffectDuration, s.light.mAutoTurnOffDuration⟩
  | .enableAutoTurnOff _ => True
  | .setAutoTurnOffDuration _ => True
  | .expire => True
  | .dispatch => s.queue.head? = some .actuatorMovementTimerEventHandler →
      s.light.mState = .onInitiated → s.light.mAutoTurnOff = true →
        Q ⟨.autoTurnOff, s.light.mAutoTurnOffDuration * 1000, s.light.mAutoTurnOffDuration⟩

/-- Off effects are known ones; and where an ON is completed with auto turn-off enabled, a duration
is set that fits into 32 bits as milliseconds. -/
def Timely (s : LightSystem) : LightAct → Prop
  | .initiateAction _ _ => True
  | .onTriggerOffWithEffect effect => effect.Known
  | .enableAutoTurnOff _ => True
  | .setAutoTurnOffDuration _ => True
  | .expire => True
  | .dispatch => s.queue.head? = some .actuatorMovementTimerEventHandler →
      s.light.mState = .onInitiated → s.light.mAutoTurnOff = true →
        0 < s.light.mAutoTurnOffDuration ∧ 1000 * s.light.mAutoTurnOffDuration.toNat < UInt32.size

end LightSystem

/-! ### The delays -/

/-- **The effects that are known are the ones with a duration.** -/
theorem OnOffEffect.offEffectDuration_pos_iff (effect : OnOffEffect) :
    0 < effect.offEffectDuration ↔ effect.Known := by
  obtain ⟨identifier, variant⟩ := effect
  unfold offEffectDuration Known
  simp only
  by_cases hall : identifier = kDelayedAllOff
  · have hdying : identifier ≠ kDyingLight := by
      rw [hall]
      decide
    simp only [hall, if_true, true_and]
    split_ifs with h₁ h₂ h₃ <;> simp_all
  · simp only [hall, if_false, false_and, false_or]
    split_ifs with h₁ h₂ <;> simp_all

/-- The product of `ActuatorMovementTimerEventHandler` is exact unless it wraps. -/
lemma toNat_mul_thousand (d : UInt32) :
    (d * 1000).toNat = 1000 * d.toNat ↔ 1000 * d.toNat < UInt32.size := by
  have hmul : (d * 1000).toNat = d.toNat * 1000 % UInt32.size := UInt32.toNat_mul d 1000
  rw [UInt32.size] at hmul ⊢
  omega

lemma right_autoTurnOff_iff (d : UInt32) :
    TimerStart.Right ⟨.autoTurnOff, d * 1000, d⟩ ↔ 0 < d ∧ 1000 * d.toNat < UInt32.size := by
  have hpos : 0 < d * 1000 ↔ 0 < (d * 1000).toNat := UInt32.lt_iff_toNat_lt
  have hd : 0 < d ↔ 0 < d.toNat := UInt32.lt_iff_toNat_lt
  have hexact := toNat_mul_thousand d
  constructor
  · rintro ⟨h, hauto⟩
    have h' := hauto rfl
    refine ⟨?_, hexact.1 h'⟩
    rw [hpos] at h
    rw [hd]
    simp only at h'
    omega
  · rintro ⟨h, hfits⟩
    have h' := hexact.2 hfits
    refine ⟨?_, fun _ => h'⟩
    rw [hd] at h
    rw [hpos]
    omega

lemma right_offEffect_iff (effect : OnOffEffect) (duration : UInt32) :
    TimerStart.Right ⟨.offEffect, effect.offEffectDuration, duration⟩ ↔ effect.Known := by
  rw [← effect.offEffectDuration_pos_iff]
  exact ⟨fun h => h.pos, fun h => ⟨h, fun hpurpose => by cases hpurpose⟩⟩

lemma right_movement (duration : UInt32) :
    TimerStart.Right ⟨.actuatorMovement, actuatorMovementPeriosMs, duration⟩ :=
  ⟨(by decide : 0 < actuatorMovementPeriosMs), fun hpurpose => by cases hpurpose⟩

/-! ### The calls of `StartTimer` in a step -/

section TimerStarts

variable (duration : UInt32)

@[simp] theorem timerStarts_nil : timerStarts duration [] = [] := rfl

@[simp] theorem timerStarts_append (calls calls' : List LightCall) :
    timerStarts duration (calls ++ calls') =
      timerStarts duration calls ++ timerStarts duration calls' := List.filterMap_append

@[simp] theorem timerStarts_stopIf (armed : Bool) : timerStarts duration (stopIf armed) = [] := by
  cases armed <;> rfl

@[simp] theorem timerStarts_start (purpose : Purpose) (ms : UInt32) (calls : List LightCall) :
    timerStarts duration (.osTimerStart purpose ms :: calls) =
      ⟨purpose, ms, duration⟩ :: timerStarts duration calls := rfl

@[simp] theorem timerStarts_initiatedCall (light : LightingManager) (aActor : Int32)
    (aAction : Action) : timerStarts duration (light.initiatedCall aActor aAction) = [] := by
  unfold initiatedCall
  split <;> rfl

@[simp] theorem timerStarts_completedCall (light : LightingManager) (aAction : Action) :
    timerStarts duration (light.completedCall aAction) = [] := by
  unfold completedCall
  split <;> rfl

end TimerStarts

variable {s t : LightSystem} {a : LightAct} {calls : List LightCall} {Q : TimerStart → Prop}

/-- **One step.** What holds of the start for a movement holds of all starts of the step, exactly if
it holds of the others. -/
theorem Transition.forall_starts_iff (h : Transition s a t calls)
    (hmovement : ∀ duration, Q ⟨.actuatorMovement, actuatorMovementPeriosMs, duration⟩) :
    (∀ st ∈ timerStarts s.light.mAutoTurnOffDuration calls, Q st) ↔ s.Starts Q a := by
  cases h with
  | on aActor _ => simp [LightSystem.Starts, hmovement]
  | off aActor _ => simp [LightSystem.Starts, hmovement]
  | refused aActor aAction _ _ => exact iff_of_true (by simp) trivial
  | trigger effect => simp [LightSystem.Starts]
  | enable aOn => exact iff_of_true (by simp) trivial
  | setDuration d => exact iff_of_true (by simp) trivial
  | expire purpose _ => exact iff_of_true (by simp) trivial
  | autoSpent queue hq _ =>
    exact iff_of_true (by simp) (by simp [LightSystem.Starts, hq])
  | autoOff queue hq _ _ => simp [LightSystem.Starts, hq, hmovement]
  | autoRefused queue hq _ _ =>
    exact iff_of_true (by simp) (by simp [LightSystem.Starts, hq])
  | effectSpent queue hq _ =>
    exact iff_of_true (by simp) (by simp [LightSystem.Starts, hq])
  | effectOff queue hq _ _ => simp [LightSystem.Starts, hq, hmovement]
  | effectRefused queue hq _ _ =>
    exact iff_of_true (by simp) (by simp [LightSystem.Starts, hq])
  | movementSpent queue hq hdone =>
    refine iff_of_true (by simp) ?_
    intro _ hon
    rcases hdone with h | h <;> rw [h] at hon <;> cases hon
  | completeOff queue hq hstate => simp [LightSystem.Starts, hq, hstate]
  | completeOn queue hq hstate hauto => simp [LightSystem.Starts, hq, hstate, hauto]
  | completeOnAuto queue hq hstate hauto => simp [LightSystem.Starts, hq, hstate, hauto]

namespace LightSystem

lemma stepStarts_iff (h : s.step a = some t)
    (hmovement : ∀ duration, Q ⟨.actuatorMovement, actuatorMovementPeriosMs, duration⟩) :
    (∀ st ∈ s.stepStarts a, Q st) ↔ s.Starts Q a := by
  obtain ⟨⟨u, calls⟩, hout, rfl⟩ := Option.map_eq_some_iff.1 h
  rw [stepStarts, hout]
  exact (outcome_transition hout).forall_starts_iff hmovement

/-- Right delays are asked for by timely steps. -/
lemma starts_right_iff : s.Starts TimerStart.Right a ↔ s.Timely a := by
  cases a with
  | onTriggerOffWithEffect effect => exact right_offEffect_iff effect _
  | dispatch => simp only [Starts, Timely, right_autoTurnOff_iff]
  | _ => exact Iff.rfl

/-! ### Runs -/

/-- **When every delay is right.** All starts of the timer in a run ask for a delay that is not 0,
and for auto turn-off for the duration itself, exactly if every step of the run is timely. -/
theorem delays_right_iff (currentLedState initiatedCB completedCB : Bool)
    (log : List (LightSystem × LightAct)) (t : LightSystem)
    (hrun : Run step (start currentLedState initiatedCB completedCB) log t) :
    (∀ st ∈ startsOf log, st.Right) ↔ Meets Timely log :=
  hrun.forall_emitted_iff fun _ _ _ h => (stepStarts_iff h right_movement).trans starts_right_iff

/-- A minute of auto turn-off: the timer is started for the movement and then for 60000 ms. -/
theorem delays_right_minute :
    ∃ log t, Run step (start false true true) log t ∧
      (startsOf log).map TimerStart.aTimeoutMs = [10, 60000] ∧
      ∀ st ∈ startsOf log, st.Right := by
  have hexec : exec step (start false true true) [.enableAutoTurnOff true,
      .setAutoTurnOffDuration 60, .initiateAction kEventTypeLight .onAction, .expire,
      .dispatch] = some _ := rfl
  refine ⟨_, _, run_execLog hexec, by decide,
    (delays_right_iff false true true _ _ (run_execLog hexec)).2 ?_⟩
  refine (meets_execLog rfl).2 ⟨trivial, (meets_execLog rfl).2 ⟨trivial,
    (meets_execLog rfl).2 ⟨trivial, (meets_execLog rfl).2 ⟨trivial,
      (meets_execLog rfl).2 ⟨?_, meets_nil⟩⟩⟩⟩⟩
  exact fun _ _ _ => by decide

/-- Auto turn-off is enabled and its duration never set: the timer is started with 0. -/
theorem delay_zero_autoTurnOff :
    ∃ log t, Run step (start false true true) log t ∧
      log.map Prod.snd = [.enableAutoTurnOff true, .initiateAction kEventTypeLight .onAction,
        .expire, .dispatch] ∧
      ∃ st ∈ startsOf log, st.purpose = .autoTurnOff ∧ st.aTimeoutMs = 0 ∧ ¬ st.Right := by
  have hexec : exec step (start false true true) [.enableAutoTurnOff true,
      .initiateAction kEventTypeLight .onAction, .expire, .dispatch] = some _ := rfl
  refine ⟨_, _, run_execLog hexec, map_snd_execLog hexec, ⟨.autoTurnOff, 0, 0⟩, by decide, rfl,
    rfl, ?_⟩
  intro hright
  exact absurd hright.pos (by decide)

/-- **When every start succeeds.** Where the delay of a movement is not 0 ticks, no start of a run
fails, exactly if none for an off effect or auto turn-off does. -/
theorem startsSucceed_iff {pdMsToTicks : UInt32 → UInt32} {log : List (LightSystem × LightAct)}
    (hmovement : 0 < pdMsToTicks actuatorMovementPeriosMs) (hrun : Run step s log t) :
    StartsSucceed pdMsToTicks log ↔ Meets (Starts (TimerStart.Succeeds pdMsToTicks)) log :=
  hrun.forall_emitted_iff fun _ _ _ h => stepStarts_iff h fun _ => hmovement

lemma step_autoTurnOff (h : s.light.mAutoTurnOff = false) (ha : a ≠ .enableAutoTurnOff true)
    (hstep : s.step a = some t) : t.light.mAutoTurnOff = false := by
  obtain ⟨calls, htrans⟩ := step_transition hstep
  cases htrans with
  | enable aOn =>
    cases aOn with
    | false => rfl
    | true => exact absurd rfl ha
  | _ => exact h

/-- **Without auto turn-off** all starts succeed, if the effects are ones that the timer can be started
for. -/
theorem startsSucceed_of_disabled {pdMsToTicks : UInt32 → UInt32}
    {log : List (LightSystem × LightAct)}
    (hmovement : 0 < pdMsToTicks actuatorMovementPeriosMs) (hauto : s.light.mAutoTurnOff = false)
    (hrun : Run step s log t) (hacts : Meets (fun _ a => LightAct.Startable pdMsToTicks a) log) :
    StartsSucceed pdMsToTicks log := by
  have hoff : Always (fun s => s.light.mAutoTurnOff = false) log t :=
    hrun.guarded hauto (fun _ _ _ h ha hstep => step_autoTurnOff h ha.disabled hstep) hacts
  refine (startsSucceed_iff hmovement hrun).2 ?_
  rintro ⟨s, a⟩ hp
  cases a with
  | onTriggerOffWithEffect effect => exact (hacts _ hp).effect effect rfl
  | dispatch =>
    intro _ _ hon
    exact absurd ((hoff.1 _ hp).symm.trans hon) (by simp)
  | _ => exact trivial

/-- A duration of 50 days wraps to less than a second, and an unknown variant has no duration. -/
example : (4294968 : UInt32) * 1000 = 704 ∧
    (OnOffEffect.mk OnOffEffect.kDyingLight 1).offEffectDuration = 0 := by decide

end LightSystem

end MatterStrip
