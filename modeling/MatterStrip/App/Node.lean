import MatterStrip.App.Task
import MatterStrip.Light.Delays

/-!
The application with the OnOff attribute that it shares with the network.

The attribute store is not part of the repository. A write of a value that differs from the stored
one stores it and calls `MatterPostAttributeChangeCallback` once, and an equal write does nothing;
the OffWithEffect command acts on a light whose attribute is on, triggers the effect and then
writes off. `UpdateClusterState` writes the attribute in the same way.
-/

namespace MatterStrip

open Lib LightingManager

/-- The application and the stored OnOff attribute of endpoint 1. -/
structure Node (n : ℕ) where
  app : AppTask n
  onOff : Bool

/-- What other parties do to the node. -/
inductive NodeAct
  /-- a network write of On or Off -/
  | write (newValue : Bool)
  | offWithEffect (effect : OnOffEffect)
  | lightButton
  | expire
  | dispatch
  | updateClusterState
  deriving DecidableEq, Repr

namespace Node

variable {n : ℕ} (linear : UInt16 → ℚ) (d : Node n)

def setOnOffValue (newValue : Bool) : Node n :=
  if d.onOff = newValue then d
  else
    { onOff := newValue
      app := d.app.matterPostAttributeChangeCallback linear onOffId onOffAttributeId
        fun _ => if newValue then 1 else 0 }

def offWithEffect (effect : OnOffEffect) : Node n :=
  if d.onOff = true then
    { d with app := d.app.absorb (d.app.light.onTriggerOffWithEffect effect) }.setOnOffValue
      linear false
  else d

/-- `AppTask::UpdateClusterState`, as the oldest scheduled work -/
def updateClusterState : Option (Node n) :=
  match d.app.scheduled with
  | 0 => none
  | scheduled + 1 =>
    some ({ d with app := { d.app with scheduled := scheduled } }.setOnOffValue linear
      d.app.light.isLightOn)

def step : NodeAct → Option (Node n)
  | .write newValue => some (d.setOnOffValue linear newValue)
  | .offWithEffect effect => some (d.offWithEffect linear effect)
  | .lightButton => some { d with app := { d.app with queue := d.app.queue ++ [.buttonEvent] } }
  | .expire => d.app.expire.map fun app => { d with app := app }
  | .dispatch => d.app.dispatch.map fun app => { d with app := app }
  | .updateClusterState => d.updateClusterState linear

/-- The node after `AppTask::Init`, with the value of the attribute that it finds. -/
def start (n : ℕ) (buffer : Memory UInt8) (onOff : Bool) : Node n :=
  ⟨AppTask.init n buffer onOff, onOff⟩

/-! ### What a write does -/

variable {d} {newValue : Bool}

lemma setOnOffValue_same (h : d.onOff = newValue) : d.setOnOffValue linear newValue = d :=
  if_pos h

/-- A write that changes the value initiates its action. -/
lemma setOnOffValue_other (h : d.onOff ≠ newValue) :
    d.setOnOffValue linear newValue =
      ⟨d.app.initiateAction kEventTypeLight (if newValue then .onAction else .offAction),
        newValue⟩ := by
  unfold setOnOffValue AppTask.matterPostAttributeChangeCallback
  rw [if_neg h, if_pos ⟨rfl, rfl⟩]
  cases newValue <;> rfl

/-- The command on a light whose attribute is on: the effect is armed, and the OFF of the write is
refused for it. -/
lemma offWithEffect_of_on (hset : CallbacksSet d.app.light) (h : d.onOff = true)
    (effect : OnOffEffect) :
    d.offWithEffect linear effect =
      ⟨{ d.app with light := { d.app.light with mOffEffectArmed := true }
                    timer := some .offEffect }, false⟩ := by
  unfold offWithEffect
  rw [if_pos h, setOnOffValue_other linear (by simp [h])]
  have happ : d.app.absorb (d.app.light.onTriggerOffWithEffect effect) =
      { d.app with light := { d.app.light with mOffEffectArmed := true }
                   timer := some .offEffect } := rfl
  simp only [happ, Bool.false_eq_true, if_false]
  rcases AppTask.initiateAction_cases
      { d.app with light := { d.app.light with mOffEffectArmed := true }
                   timer := some .offEffect }
      ⟨hset.initiated, hset.completed⟩ kEventTypeLight .offAction with
    ⟨ha, -, -⟩ | ⟨-, hoff, -⟩ | ⟨-, -, hr⟩
  · cases ha
  · exact absurd hoff.2 (by simp)
  · rw [hr]

/-! ### The light of the node -/

/-- The steps of the light in a write of the attribute. -/
def writeActs (d : Node n) (newValue : Bool) : List LightAct :=
  if d.onOff = newValue then []
  else [.initiateAction kEventTypeLight (if newValue then .onAction else .offAction)]

/-- The steps of the light in a step of the node. -/
def lightActs (d : Node n) : NodeAct → List LightAct
  | .write newValue => d.writeActs newValue
  | .offWithEffect effect =>
    if d.onOff = true then
      [.onTriggerOffWithEffect effect, .initiateAction kEventTypeLight .offAction]
    else []
  | .lightButton => []
  | .expire => [.expire]
  | .dispatch => d.app.lightActs .dispatch
  | .updateClusterState => d.writeActs d.app.light.isLightOn

/-- The run of the light in a run of the node. -/
def lightLog (log : List (Node n × NodeAct)) : List (LightSystem × LightAct) :=
  refined LightSystem.step (fun d : Node n => d.app.toSystem) lightActs log

variable {d' : Node n} {a : NodeAct} {log : List (Node n × NodeAct)}

lemma toSystem_setOnOffValue (d : Node n) (newValue : Bool) :
    exec LightSystem.step d.app.toSystem (d.writeActs newValue) =
      some (d.setOnOffValue linear newValue).app.toSystem := by
  by_cases hsame : d.onOff = newValue
  · rw [setOnOffValue_same linear hsame, writeActs, if_pos hsame]
    rfl
  · rw [setOnOffValue_other linear hsame, writeActs, if_neg hsame]
    simp only [exec, AppTask.toSystem_initiateAction]
    rfl

/-- **A step of the node is a step of the light, or several, or none.** -/
theorem step_toSystem (h : d.step linear a = some d') :
    exec LightSystem.step d.app.toSystem (d.lightActs a) = some d'.app.toSystem := by
  cases a with
  | write newValue =>
    obtain rfl := Option.some.inj h
    exact toSystem_setOnOffValue linear d newValue
  | offWithEffect effect =>
    obtain rfl := Option.some.inj h
    by_cases hon : d.onOff = true
    · have hwrite := toSystem_setOnOffValue linear
        { d with app := d.app.absorb (d.app.light.onTriggerOffWithEffect effect) } false
      rw [writeActs, if_neg (by simp [hon])] at hwrite
      rw [lightActs, if_pos hon, offWithEffect, if_pos hon, exec, AppTask.toSystem_trigger]
      exact hwrite
    · rw [lightActs, if_neg hon, offWithEffect, if_neg hon]
      rfl
  | lightButton =>
    obtain rfl := Option.some.inj h
    simp [lightActs, exec, AppTask.toSystem, AppEvent.timerHandler?]
  | expire =>
    obtain ⟨app, happ, rfl⟩ := Option.map_eq_some_iff.1 h
    simp only [lightActs, exec, AppTask.toSystem_expire happ]
    rfl
  | dispatch =>
    obtain ⟨app, happ, rfl⟩ := Option.map_eq_some_iff.1 h
    exact AppTask.toSystem_dispatch happ
  | updateClusterState =>
    simp only [step, updateClusterState] at h
    split at h
    · cases h
    · next scheduled _ =>
      obtain rfl := Option.some.inj h
      exact toSystem_setOnOffValue linear { d with app := { d.app with scheduled := scheduled } }
        d.app.light.isLightOn

/-- **A run of the node is a run of the light.** -/
theorem run_lightLog (h : Run (step linear) d log d') :
    Run LightSystem.step d.app.toSystem (lightLog log) d'.app.toSystem :=
  h.refines fun _ _ _ hstep => step_toSystem linear hstep

lemma mem_writeActs {newValue : Bool} {b : LightAct} (h : b ∈ d.writeActs newValue) :
    ∃ aActor aAction, b = .initiateAction aActor aAction := by
  unfold writeActs at h
  split at h
  · cases h
  · exact ⟨_, _, List.mem_singleton.1 h⟩

/-- What a step of the node can ask of the light. -/
lemma mem_lightActs {b : LightAct} (h : b ∈ d.lightActs a) :
    (∃ aActor aAction, b = .initiateAction aActor aAction) ∨ b = .expire ∨ b = .dispatch ∨
      ∃ effect, a = .offWithEffect effect ∧ b = .onTriggerOffWithEffect effect := by
  cases a with
  | write newValue => exact Or.inl (mem_writeActs h)
  | offWithEffect effect =>
    simp only [lightActs] at h
    split at h
    · rcases List.mem_cons.1 h with rfl | h
      · exact Or.inr (Or.inr (Or.inr ⟨effect, rfl, rfl⟩))
      · exact Or.inl ⟨_, _, List.mem_singleton.1 h⟩
    · cases h
  | lightButton => cases h
  | expire => exact Or.inr (Or.inl (List.mem_singleton.1 h))
  | dispatch =>
    simp only [lightActs, AppTask.lightActs] at h
    split at h
    · exact Or.inr (Or.inr (Or.inl (List.mem_singleton.1 h)))
    · exact Or.inl ⟨_, _, List.mem_singleton.1 h⟩
    · exact Or.inl ⟨_, _, List.mem_singleton.1 h⟩
    · cases h
  | updateClusterState => exact Or.inl (mem_writeActs h)

/-- **Nothing in the node enables auto turn-off**, and so no start of its timer fails, if its off
effects are ones that the timer can be started for. -/
theorem startsSucceed_of_run {pdMsToTicks : UInt32 → UInt32}
    (hmovement : 0 < pdMsToTicks actuatorMovementPeriosMs)
    (hauto : d.app.light.mAutoTurnOff = false) (hrun : Run (step linear) d log d')
    (heffects : ∀ p ∈ log, ∀ effect, p.2 = .offWithEffect effect →
      0 < pdMsToTicks effect.offEffectDuration) :
    LightSystem.StartsSucceed pdMsToTicks (lightLog log) := by
  refine LightSystem.startsSucceed_of_disabled hmovement hauto (run_lightLog linear hrun)
    (hrun.meets_refined (fun _ _ _ hstep => step_toSystem linear hstep) _ ?_)
  intro p hp b hb
  rcases mem_lightActs hb with ⟨aActor, aAction, rfl⟩ | rfl | rfl | ⟨effect, ha, rfl⟩
  · exact ⟨by simp, by simp⟩
  · exact ⟨by simp, by simp⟩
  · exact ⟨by simp, by simp⟩
  · refine ⟨by simp, ?_⟩
    rintro _ ⟨⟩
    exact heffects p hp effect ha

end Node

end MatterStrip
