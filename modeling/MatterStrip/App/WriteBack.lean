import MatterStrip.App.Agreement

/-!
What the write-back of a button action does to the light.

`UpdateClusterState` brings the attribute up to the state of the light, and the write of the
attribute calls `InitiateAction` with that very state. As the light is what it is asked to be, the
call is refused and nothing happens, unless an off effect is armed on a light that is on: ON is then
accepted in any state, and the write-back cancels the off effect (`write_back_quiet_iff`).
-/

namespace MatterStrip

open Lib LightingManager

namespace Node

variable {n : ℕ}

/-- The call of `InitiateAction` that `UpdateClusterState` causes, if it causes one: what it
returns, the light after it, and the calls it makes. -/
def writeBackCall (d : Node n) : Option (Bool × LightingManager × List LightCall) :=
  if d.onOff = d.app.light.isLightOn then none
  else some (d.app.light.initiateAction kEventTypeLight
    (if d.app.light.isLightOn then .onAction else .offAction))

/-- The node with the scheduled work done: what that call leaves of it, and the attribute up to
date. -/
def writtenBack (d : Node n) : Node n :=
  ⟨d.writeBackCall.elim { d.app with scheduled := d.app.scheduled - 1 } fun r =>
    { d.app with scheduled := d.app.scheduled - 1 }.absorb r.2, d.app.light.isLightOn⟩

/-- The write-back that leads from `d` to `d'` neither starts nor cancels an action. -/
structure Quiet (d d' : Node n) : Prop where
  refused : ∀ r ∈ d.writeBackCall, r.1 = false
  mState : d'.app.light.mState = d.app.light.mState
  mOffEffectArmed : d'.app.light.mOffEffectArmed = d.app.light.mOffEffectArmed
  timer : d'.app.timer = d.app.timer
  /-- The timer is neither started nor stopped. -/
  timerCalls : ∀ r ∈ d.writeBackCall, .osTimerStop ∉ r.2.2 ∧
    ∀ purpose ms, .osTimerStart purpose ms ∉ r.2.2

variable {linear : UInt16 → ℚ} {d d' : Node n}

/-- The write-back makes that call, and no other. -/
lemma updateClusterState_eq (hstep : d.updateClusterState linear = some d') :
    d' = d.writtenBack := by
  unfold updateClusterState at hstep
  split at hstep
  · cases hstep
  · next scheduled hscheduled =>
    obtain rfl := Option.some.inj hstep
    have hless : d.app.scheduled - 1 = scheduled := by omega
    rw [writtenBack, hless, writeBackCall]
    by_cases hsame : d.onOff = d.app.light.isLightOn
    · refine (setOnOffValue_same (d := ⟨{ d.app with scheduled := scheduled }, d.onOff⟩) linear
        hsame).trans ?_
      rw [if_pos hsame, ← hsame]
      rfl
    · refine (setOnOffValue_other (d := ⟨{ d.app with scheduled := scheduled }, d.onOff⟩) linear
        hsame).trans ?_
      rw [if_neg hsame]
      rfl

/-- ON is refused by a light that is on with no effect armed, and OFF by one that is not on. -/
lemma writeBack_refused (hunarmed : d.app.light.isLightOn = true →
    d.app.light.mOffEffectArmed = false) :
    d.app.light.initiateAction kEventTypeLight
      (if d.app.light.isLightOn then .onAction else .offAction) = (false, d.app.light, []) := by
  apply initiateAction_refused
  cases hon : d.app.light.isLightOn with
  | true =>
    have hstate : d.app.light.mState = .onCompleted := by simpa [isLightOn] using hon
    simp [AcceptsOn, hstate, hunarmed hon]
  | false =>
    have hstate : d.app.light.mState ≠ .onCompleted := by simpa [isLightOn] using hon
    simp [AcceptsOff, hstate]

/-- **When a write-back is quiet.** -/
theorem quiet_iff (h : Sound d) (hstep : d.updateClusterState linear = some d') :
    Quiet d d' ↔ ¬ (d.app.light.mState = .onCompleted ∧ d.app.light.mOffEffectArmed = true) := by
  have hd' := updateClusterState_eq hstep
  constructor
  · rintro hquiet ⟨hstate, harmed⟩
    -- the effect was armed with the attribute written off, and the light is on
    have hoff := h.effect harmed
    have hon : d.app.light.isLightOn = true := by simp [isLightOn, hstate]
    have hcall : d.writeBackCall =
        some (d.app.light.initiateAction kEventTypeLight .onAction) := by
      simp [writeBackCall, hoff, hon]
    have hfalse := hquiet.refused _ hcall
    rw [initiateAction_on _ (Or.inr harmed)] at hfalse
    cases hfalse
  · intro hnot
    have hunarmed : d.app.light.isLightOn = true → d.app.light.mOffEffectArmed = false := by
      intro hon
      rw [Bool.eq_false_iff]
      exact fun harmed => hnot ⟨by simpa [isLightOn] using hon, harmed⟩
    have hcall : ∀ r ∈ d.writeBackCall, r = (false, d.app.light, []) := by
      intro r hr
      rw [← writeBack_refused hunarmed]
      unfold writeBackCall at hr
      split at hr
      · cases hr
      · exact (Option.some.inj hr).symm
    have happ : d'.app = { d.app with scheduled := d.app.scheduled - 1 } := by
      rw [hd', writtenBack]
      cases hwrite : d.writeBackCall with
      | none => rfl
      | some r =>
        rw [hcall r hwrite]
        rfl
    refine ⟨fun r hr => ?_, by rw [happ], by rw [happ], by rw [happ], fun r hr => ?_⟩
    · rw [hcall r hr]
    · rw [hcall r hr]
      simp

/-! ### Runs -/

/-- A light is switched on by its button, and an off effect is triggered before the write-back: the
write-back cancels the effect and starts the timer anew. -/
theorem write_back_cancels_effect :
    ∃ log d d', Run (step linearExact) (start 1 (fun _ => 0) false) log d ∧
      log.map Prod.snd = [.lightButton, .dispatch, .expire, .dispatch, .write true,
        .offWithEffect ⟨OnOffEffect.kDelayedAllOff, OnOffEffect.kDelayedOffFastFade⟩] ∧
      d.updateClusterState linearExact = some d' ∧
      d.app.light.mOffEffectArmed = true ∧ d.app.light.mState = .onCompleted ∧
      d'.app.light.mOffEffectArmed = false ∧ d'.app.light.mState = .onInitiated ∧
      ¬ Quiet d d' := by
  obtain ⟨log, hrun, hlog⟩ := exists_run_of_exec (step linearExact) (start 1 (fun _ => 0) false)
    [.lightButton, .dispatch, .expire, .dispatch, .write true,
      .offWithEffect ⟨OnOffEffect.kDelayedAllOff, OnOffEffect.kDelayedOffFastFade⟩] rfl
  refine ⟨log, _, _, hrun, hlog, rfl, rfl, rfl, rfl, rfl, ?_⟩
  intro hquiet
  cases hquiet.mState

/-- **When the write-back of a button action is quiet.** In every state that a run reaches, the
scheduled write-back makes `writeBackCall` and nothing else; and it neither starts nor cancels an
action, exactly if the light is not on with an off effect armed. -/
theorem write_back_quiet_iff (linear : UInt16 → ℚ) (n : ℕ) (buffer : Memory UInt8) (onOff : Bool)
    (log : List (Node n × NodeAct)) (d d' : Node n)
    (hrun : Run (step linear) (start n buffer onOff) log d)
    (hstep : d.updateClusterState linear = some d') :
    d' = d.writtenBack ∧
      (Quiet d d' ↔ ¬ (d.app.light.mState = .onCompleted ∧ d.app.light.mOffEffectArmed = true)) :=
  ⟨updateClusterState_eq hstep, quiet_iff (sound_of_run hrun) hstep⟩

/-- Without the off effect the write-back only brings the attribute up to the light. -/
theorem write_back_quiet_button :
    ∃ log d d', Run (step linearExact) (start 1 (fun _ => 0) false) log d ∧
      log.map Prod.snd = [.lightButton, .dispatch, .expire, .dispatch] ∧
      d.updateClusterState linearExact = some d' ∧ d.onOff = false ∧ d'.onOff = true ∧
      Quiet d d' := by
  obtain ⟨log, hrun, hlog⟩ := exists_run_of_exec (step linearExact) (start 1 (fun _ => 0) false)
    [.lightButton, .dispatch, .expire, .dispatch] rfl
  refine ⟨log, _, _, hrun, hlog, rfl, rfl, rfl, ?_⟩
  refine (write_back_quiet_iff linearExact 1 (fun _ => 0) false log _ _ hrun rfl).2.2 ?_
  rintro ⟨-, harmed⟩
  cases harmed

end Node

end MatterStrip
