import MatterStrip.App.Settle
import MatterStrip.App.Shown
import MatterStrip.Strip.Healed

/-!
The whole device: the node with its attributes, the application, and the handler task of the strip,
which is preempted by all of them.

The handler has the lowest priority of the tasks, so that a step of the node, or a call of the
attribute change callback, falls between two steps of the handler and is not interrupted by it. The
strip of the device is that of `Transmitting`, the rest of it is `Node`, and the two meet in the
calls that a step of the node makes (`strip_step`). `shows_attributes` puts together what is known of
both: the LED and the strip show what the attributes say.
-/

namespace MatterStrip

open Lib LightingManager

/-- The node, and the place of the handler task of its strip. -/
structure Device (n : ℕ) where
  node : Node n
  pc : TransmitPc

inductive DeviceAct
  | node (act : NodeAct)
  /-- a change of an attribute other than OnOff -/
  | attributeChange (clusterId attributeId : UInt32) (value : Memory UInt8)
  /-- a step of `stripControllerHandler` -/
  | handler

namespace Device

variable {n : ℕ} (linear : UInt16 → ℚ) (d : Device n)

/-- The strip and its handler task; `AppTask::Init` has switched the strip before the task starts. -/
def task : Transmitting n := ⟨d.pc, d.node.app.strip, true⟩

def handlerStep : Device n :=
  ⟨⟨{ d.node.app with strip := d.task.handlerStep.strip }, d.node.onOff⟩, d.task.handlerStep.pc⟩

def step : DeviceAct → Option (Device n)
  | .node act => (d.node.step linear act).map fun node => ⟨node, d.pc⟩
  | .attributeChange clusterId attributeId value =>
    if clusterId = onOffId ∧ attributeId = onOffAttributeId then none
    else some ⟨⟨d.node.app.matterPostAttributeChangeCallback linear clusterId attributeId value,
      d.node.onOff⟩, d.pc⟩
  | .handler => some d.handlerStep

/-- `AppTaskMain` up to its loop: `Init`, and then `stripControllerTaskInit`. -/
def start (n : ℕ) (buffer : Memory UInt8) (onOff : Bool) : Device n :=
  ⟨Node.start n buffer onOff, .verifyLevel⟩

/-- What an act writes to the attributes of the strip. -/
def attributeWrites : DeviceAct → List StripOp
  | .attributeChange clusterId attributeId value => attributeOps clusterId attributeId value
  | _ => []

/-- The level, the hue and the saturation last written to the attributes, with `on` as given. -/
def registers (log : List (Device n × DeviceAct)) (on : Bool) : LastWriter :=
  { (log.flatMap fun p => attributeWrites p.2).foldl (LastWriter.write (temperatureHS linear))
      LastWriter.init with on := on }

/-- An act of another task leaves the pulses of the devices already encoded as they are. -/
def Undisturbed (d : Device n) (a : DeviceAct) : Prop :=
  a ≠ .handler → ∀ d', d.step linear a = some d' →
    d'.node.app.strip.ctl.part d.task.encoded = d.node.app.strip.ctl.part d.task.encoded

/-- A step of the node forgets nothing. -/
def Remembered (d : Device n) (a : DeviceAct) : Prop := ∀ act, a = .node act → d.node.Remembered act

end Device

/-! ### Changes of the other attributes -/

section Attributes

variable {n : ℕ} {linear : UInt16 → ℚ} {clusterId attributeId : UInt32} {value : Memory UInt8}

/-- A change of another attribute than OnOff reaches the strip alone. -/
lemma AppTask.attributeChange_eq (w : AppTask n)
    (h : ¬ (clusterId = onOffId ∧ attributeId = onOffAttributeId)) :
    w.matterPostAttributeChangeCallback linear clusterId attributeId value =
      { w with
        strip := (attributeOps clusterId attributeId value).foldl (Strip.call linear) w.strip } := by
  unfold matterPostAttributeChangeCallback attributeOps
  simp only [if_neg h]
  split_ifs <;> rfl

/-- It makes one call at most, which does not switch the strip. -/
lemma attributeOps_cases (clusterId attributeId : UInt32) (value : Memory UInt8) :
    attributeOps clusterId attributeId value = [] ∨
      ∃ op, attributeOps clusterId attributeId value = [op] ∧ ∀ b, op ≠ .turnOnOff b := by
  unfold attributeOps
  split_ifs <;> simp_all

/-- A call that does not switch the strip writes the same, whatever `on` is. -/
lemma LastWriter.write_setOn (temperature : UInt16 → HueSat) (spec : LastWriter) {op : StripOp}
    (hop : ∀ b, op ≠ .turnOnOff b) (on : Bool) :
    { spec.write temperature op with on := on } = { spec with on := on }.write temperature op := by
  cases op with
  | turnOnOff b => exact absurd rfl (hop b)
  | setLevel v =>
    simp only [write]
    split <;> rfl
  | setHue hue => rfl
  | setSaturation sat => rfl
  | setColorTemperature t => rfl

lemma Node.Sound.strip {d : Node n} (h : Node.Sound d) (strip : Strip n) :
    Node.Sound ⟨{ d.app with strip := strip }, d.onOff⟩ :=
  ⟨h.set, h.autoOff, h.autoUnarmed, h.events, h.backed, h.effect, h.sync⟩

end Attributes

namespace Device

variable {n : ℕ} {linear : UInt16 → ℚ} {d d' : Device n} {a : DeviceAct} {buffer : Memory UInt8}
  {onOff : Bool} {log : List (Device n × DeviceAct)}

/-! ### What a step does to the strip -/

/-- The handler of the device is that of its strip. -/
lemma task_handlerStep (d : Device n) : d.handlerStep.task = d.task.handlerStep := by
  obtain ⟨⟨app, onOff⟩, pc⟩ := d
  cases pc with
  | encode dev =>
    unfold handlerStep task Transmitting.handlerStep
    simp only
    split <;> rfl
  | _ => rfl

/-- Whether the state of the light is an on state. -/
def isOn (d : Device n) : Bool := d.node.app.light.mState.isOn

/-- **A step calls the strip once at most**: to switch it to where the light goes, or to write an
attribute; or it is a step of the handler. -/
lemma strip_step (h : d.node.Sound) (hstep : d.step linear a = some d') :
    (a = .handler ∧ d' = d.handlerStep) ∨
    (a ≠ .handler ∧ d'.task = d.task ∧ d'.isOn = d.isOn ∧ attributeWrites a = []) ∨
    (a ≠ .handler ∧ Transmitting.step linear d.task (.call (.turnOnOff d'.isOn)) = some d'.task ∧
      attributeWrites a = []) ∨
    ∃ op, a ≠ .handler ∧ (∀ b, op ≠ .turnOnOff b) ∧
      Transmitting.step linear d.task (.call op) = some d'.task ∧ d'.isOn = d.isOn ∧
      attributeWrites a = [op] := by
  cases a with
  | handler => exact Or.inl ⟨rfl, (Option.some.inj hstep).symm⟩
  | node act =>
    obtain ⟨node, hnode, rfl⟩ := Option.map_eq_some_iff.1 hstep
    rcases (h.step_move hnode).switches with ⟨hon, -, hstrip⟩ | ⟨-, hstrip⟩
    · refine Or.inr (Or.inl ⟨by simp, ?_, hon, rfl⟩)
      simp only [task, hstrip]
    · refine Or.inr (Or.inr (Or.inl ⟨by simp, ?_, rfl⟩))
      simp only [task, hstrip]
      rfl
  | attributeChange clusterId attributeId value =>
    by_cases honoff : clusterId = onOffId ∧ attributeId = onOffAttributeId
    · rw [step, if_pos honoff] at hstep
      cases hstep
    · rw [step, if_neg honoff, AppTask.attributeChange_eq _ honoff] at hstep
      obtain rfl := Option.some.inj hstep
      rcases attributeOps_cases clusterId attributeId value with hops | ⟨op, hops, hop⟩
      · refine Or.inr (Or.inl ⟨by simp, ?_, rfl, hops⟩)
        simp only [task, hops]
        rfl
      · refine Or.inr (Or.inr (Or.inr ⟨op, by simp, hop, ?_, rfl, hops⟩))
        simp only [task, hops, Transmitting.step]
        rfl

/-- What a step does to the rest: it is a step of the node, or leaves the node alone. -/
lemma node_step (hstep : d.step linear a = some d') :
    (∃ act, a = .node act ∧ d.node.step linear act = some d'.node) ∨
    ((∀ act, a ≠ .node act) ∧
      ∃ strip, d'.node = ⟨{ d.node.app with strip := strip }, d.node.onOff⟩) := by
  cases a with
  | node act =>
    obtain ⟨node, hnode, rfl⟩ := Option.map_eq_some_iff.1 hstep
    exact Or.inl ⟨act, rfl, hnode⟩
  | attributeChange clusterId attributeId value =>
    by_cases honoff : clusterId = onOffId ∧ attributeId = onOffAttributeId
    · rw [step, if_pos honoff] at hstep
      cases hstep
    · rw [step, if_neg honoff, AppTask.attributeChange_eq _ honoff] at hstep
      obtain rfl := Option.some.inj hstep
      exact Or.inr ⟨by simp, _, rfl⟩
  | handler =>
    obtain rfl := Option.some.inj hstep
    exact Or.inr ⟨by simp, _, rfl⟩

/-! ### What every run keeps -/

/-- The node is sound, the LED shows the state of the light, and the strip holds the registers of the
attributes, switched to that state. -/
structure Kept (linear : UInt16 → ℚ) (log : List (Device n × DeviceAct)) (d : Device n) : Prop where
  sound : d.node.Sound
  led : d.node.app.sLightLED = d.isOn
  holds : Holds d.node.app.strip.ctl (registers linear log d.isOn)

lemma kept_start (n : ℕ) (buffer : Memory UInt8) (onOff : Bool) :
    Kept linear [] (start n buffer onOff) := by
  refine ⟨Node.sound_start n buffer onOff, by cases onOff <;> rfl, ?_⟩
  have hholds := (refines_init (n := n) buffer).holds.call linear (.turnOnOff onOff)
  cases onOff <;> exact hholds

lemma registers_snoc (log : List (Device n × DeviceAct)) (d : Device n) (a : DeviceAct) (on : Bool) :
    registers linear (log ++ [(d, a)]) on =
      { (attributeWrites a).foldl (LastWriter.write (temperatureHS linear))
          ((log.flatMap fun p => attributeWrites p.2).foldl
            (LastWriter.write (temperatureHS linear)) LastWriter.init) with on := on } := by
  unfold registers
  rw [List.flatMap_append, List.foldl_append, List.flatMap_singleton]

lemma Kept.step (h : Kept linear log d) (hstep : d.step linear a = some d') :
    Kept linear (log ++ [(d, a)]) d' := by
  have hnode : d'.node.Sound ∧ d'.node.app.sLightLED = d'.isOn := by
    rcases node_step hstep with ⟨act, -, hact⟩ | ⟨-, strip, hstrip⟩
    · refine ⟨(Node.agreement_step h.sound hact).1, ?_⟩
      rcases (h.sound.step_move hact).switches with ⟨hon, hled, -⟩ | ⟨hled, -⟩
      · exact hled.trans (h.led.trans hon.symm)
      · exact hled
    · unfold isOn
      rw [hstrip]
      exact ⟨h.sound.strip strip, h.led⟩
  refine ⟨hnode.1, hnode.2, ?_⟩
  rw [registers_snoc]
  rcases strip_step h.sound hstep with ⟨rfl, rfl⟩ | ⟨-, htask, hon, hwrites⟩ |
    ⟨-, htask, hwrites⟩ | ⟨op, -, hop, htask, hon, hwrites⟩
  · exact Transmitting.holds_handlerStep (s := d.task) h.holds
  · have hstrip : d'.node.app.strip = d.node.app.strip := congrArg Transmitting.strip htask
    rw [hwrites, hon, hstrip]
    exact h.holds
  · have hstrip := congrArg Transmitting.strip (Option.some.inj htask)
    rw [hwrites]
    rw [show d'.node.app.strip = d.node.app.strip.call linear (.turnOnOff d'.isOn) from hstrip.symm]
    exact h.holds.call linear (.turnOnOff d'.isOn)
  · have hstrip := congrArg Transmitting.strip (Option.some.inj htask)
    rw [hwrites, hon, List.foldl_cons, List.foldl_nil, LastWriter.write_setOn _ _ hop]
    rw [show d'.node.app.strip = d.node.app.strip.call linear op from hstrip.symm]
    exact h.holds.call linear op

lemma kept_of_run (hrun : Run (step linear) (start n buffer onOff) log d) : Kept linear log d :=
  Run.history (J := Kept linear) (kept_start n buffer onOff)
    (fun _ _ _ _ h hstep => h.step hstep) hrun

/-! ### The handler task, undisturbed -/

lemma inStep_start (n : ℕ) (buffer : Memory UInt8) (onOff : Bool) :
    (start n buffer onOff).task.InStep := by
  have hok : Transmitting.Undisturbed linearExact (Transmitting.init n buffer)
      (.call (.turnOnOff onOff)) := by
    intro op _
    show StripController.part _ 0 = StripController.part _ 0
    rw [StripController.part_zero, StripController.part_zero]
  have hinit := (Transmitting.inStep_init (n := n) buffer).call hok rfl
  cases onOff <;> exact hinit

lemma inStep_step (h : d.node.Sound) (hin : d.task.InStep) (hok : Undisturbed linear d a)
    (hstep : d.step linear a = some d') : d'.task.InStep := by
  have hcall : ∀ op, a ≠ .handler → Transmitting.step linear d.task (.call op) = some d'.task →
      d'.task.InStep := by
    intro op ha htask
    refine hin.call ?_ htask
    intro op' hop'
    obtain rfl : op = op' := TransmitAct.call.inj hop'
    have hstrip := congrArg Transmitting.strip (Option.some.inj htask)
    have hctl : d.task.strip.ctl.call linear op = d'.node.app.strip.ctl :=
      congrArg Strip.ctl hstrip
    rw [hctl]
    exact hok ha d' hstep
  rcases strip_step h hstep with ⟨rfl, rfl⟩ | ⟨-, htask, -⟩ | ⟨ha, htask, -⟩ | ⟨op, ha, -, htask, -⟩
  · rw [task_handlerStep]
    exact hin.handler
  · rw [htask]
    exact hin
  · exact hcall _ ha htask
  · exact hcall op ha htask

lemma inStep_of_run (hrun : Run (step linear) (start n buffer onOff) log d)
    (hok : Meets (Undisturbed linear) log) : d.task.InStep := by
  have hinv : Always (fun d : Device n => d.node.Sound ∧ d.task.InStep) log d := by
    refine hrun.guarded ⟨Node.sound_start n buffer onOff, inStep_start n buffer onOff⟩ ?_ hok
    rintro t a u ⟨ht, hin⟩ hok hstep
    refine ⟨?_, inStep_step ht hin hok hstep⟩
    rcases node_step hstep with ⟨act, -, hact⟩ | ⟨-, strip, hstrip⟩
    · exact (Node.agreement_step ht hact).1
    · rw [hstrip]
      exact ht.strip strip
  exact hinv.2.2

/-! ### What the device shows -/

/-- **The strip shows the attributes, preempted or not.** In every run in which no call changes the
pulses of the devices already encoded, at every delay at which nothing is pending the last frame is
that of the level, the hue and the saturation last written, switched on exactly if the light is on or
turning on. -/
theorem shows_registers (linear : UInt16 → ℚ) (n : ℕ) (buffer : Memory UInt8) (onOff : Bool)
    (log : List (Device n × DeviceAct)) (d : Device n)
    (hrun : Run (step linear) (start n buffer onOff) log d)
    (hok : Meets (Undisturbed linear) log) (hquiet : d.task.Quiet) :
    d.node.app.strip.sent.head? = some ((registers linear log d.isOn).shown n) := by
  have hprog := (inStep_of_run hrun hok).progress
  simp only [Transmitting.Progress, hquiet.pc, hquiet.transmitRequest, hquiet.levelPending,
    Bool.false_eq_true, false_or] at hprog
  have hfresh : d.node.app.strip.sent.head? = some d.node.app.strip.ctl.currentFrame := hprog rfl
  rw [hfresh, (kept_of_run hrun).holds.currentFrame hquiet.levelPending]

/-- The attribute stays on target as long as nothing is forgotten. -/
lemma onTarget_of_run (hrun : Run (step linear) (start n buffer onOff) log d)
    (hok : Meets Remembered log) : d.node.Sound ∧ d.node.OnTarget := by
  have hinv : Always (fun d : Device n => d.node.Sound ∧ d.node.OnTarget) log d := by
    refine hrun.guarded ⟨Node.sound_start n buffer onOff, Node.onTarget_start n buffer onOff⟩ ?_ hok
    rintro t a u ⟨ht, htarget⟩ hok hstep
    rcases node_step hstep with ⟨act, hact, hnode⟩ | ⟨-, strip, hstrip⟩
    · obtain ⟨hu, hiff⟩ := Node.agreement_step ht hnode
      exact ⟨hu, (hiff htarget).2 (hok act hact)⟩
    · rw [hstrip]
      exact ⟨ht.strip strip, htarget⟩
  exact hinv.2

/-- As long as no device is encoded, nothing is disturbed. -/
lemma undisturbed_early (h : d.task.encoded = 0) : Undisturbed linear d a := by
  intro _ d' _
  rw [h, StripController.part_zero, StripController.part_zero]

end Device

end MatterStrip
